import FileServer.Text.Decimal

/-!
# Status codes

The statuses that the server answers with, their numbers, reasons and longer explanations.

* `code_injective`: no two statuses share a number.
-/

namespace FileServer

/-- The status of a response. -/
inductive Status where
  | ok
  | movedPermanently
  | notModified
  | badRequest
  | forbidden
  | notFound
  | notImplemented
  | httpVersionNotSupported
  deriving DecidableEq, Repr, Inhabited

namespace Status

/-- Every status. -/
def all : List Status :=
  [ok, movedPermanently, notModified, badRequest, forbidden, notFound, notImplemented,
    httpVersionNotSupported]

/-- The number on the status line. -/
def code : Status → Nat
  | ok => 200
  | movedPermanently => 301
  | notModified => 304
  | badRequest => 400
  | forbidden => 403
  | notFound => 404
  | notImplemented => 501
  | httpVersionNotSupported => 505

/-- The status with a number. -/
def ofCode? (n : Nat) : Option Status := all.find? (·.code = n)

/-- The number as text. -/
def text (s : Status) : Text := Decimal.render s.code

/-- The reason on the status line. -/
def reason : Status → Text
  | ok => "OK".toList
  | movedPermanently => "Moved Permanently".toList
  | notModified => "Not Modified".toList
  | badRequest => "Bad Request".toList
  | forbidden => "Forbidden".toList
  | notFound => "Not Found".toList
  | notImplemented => "Not Implemented".toList
  | httpVersionNotSupported => "HTTP Version Not Supported".toList

/-- The longer description in the body of an error page. -/
def explanation : Status → Text
  | ok => "Request fulfilled, document follows".toList
  | movedPermanently => "Object moved permanently -- see URI list".toList
  | notModified => "Document has not changed since given time".toList
  | badRequest => "Bad request syntax or unsupported method".toList
  | forbidden => "Request forbidden -- authorization will not help".toList
  | notFound => "Nothing matches the given URI".toList
  | notImplemented => "Server does not support this operation".toList
  | httpVersionNotSupported => "Cannot fulfill request".toList

theorem code_injective {s t : Status} (h : s.code = t.code) : s = t := by
  cases s <;> cases t <;> first | rfl | simp [code] at h

end Status

end FileServer
