import FileServer.Http.Status

/-!
# Rejected requests

The causes for which a request head is rejected, with their wording and the status that answers
them.
-/

namespace FileServer

/-- Why a request head was rejected. -/
inductive RequestError where
  /-- The head is not UTF-8. -/
  | encoding
  /-- The request line does not consist of three tokens. -/
  | requestLine (line : Text)
  /-- The third token is no version. -/
  | version (token : Text)
  /-- The version is well formed, but 2.0 or higher. -/
  | unsupportedVersion (major minor : Nat)
  /-- The header lines are malformed. -/
  | header
  /-- The first token is not a standard method, or the method is not served. -/
  | method (token : Text)
  deriving DecidableEq, Repr

namespace RequestError

/-- The wording of an error. -/
def message : RequestError → Text
  | encoding => "Invalid request encoding".toList
  | requestLine line => "Bad request syntax ('".toList ++ line ++ "')".toList
  | version token => "Bad request version ('".toList ++ token ++ "')".toList
  | unsupportedVersion major minor =>
    "Invalid HTTP version (".toList ++ Decimal.render major ++ ".".toList ++
      Decimal.render minor ++ ")".toList
  | header => "Malformed request header".toList
  | method token => "Unsupported method ('".toList ++ token ++ "')".toList

/-- The status that answers a rejected request. -/
def status : RequestError → Status
  | encoding | requestLine _ | version _ | header => .badRequest
  | unsupportedVersion _ _ => .httpVersionNotSupported
  | method _ => .notImplemented

end RequestError

end FileServer
