import FileServer.Http.Header
import FileServer.Http.Version
import FileServer.Text.Utf8

/-!
# Responses

A response is a status line, header fields and a body. It is written to the wire as bytes, and
shown as text with the body decoded lossily.

* `wire_eq`, `render_eq`: the two ways to write a response have one head in common.
-/

namespace FileServer

/-- A response that is ready to be sent. -/
structure Response where
  status : Status
  headers : List Header
  body : Option Bytes
  deriving DecidableEq, Repr

namespace Header

/-- A header line of a head. -/
def line (header : Header) : Text :=
  header.name ++ ": ".toList ++ header.value ++ "\r\n".toList

/-- The bytes of a header line on the wire. -/
def wire (header : Header) : Bytes :=
  Utf8.encode header.name ++ Utf8.encode ": ".toList ++ Utf8.encode header.value ++
    Utf8.encode "\r\n".toList

theorem encode_line (header : Header) : Utf8.encode header.line = header.wire := by
  simp only [line, wire, Utf8.encode_append]

end Header

namespace Response

/-- The version on every status line: each connection carries a single exchange. -/
def version : Version := .http10

/-- The first line of a response, with its ending. -/
def statusLine (response : Response) : Text :=
  version.render ++ " ".toList ++ response.status.text ++ " ".toList ++ response.status.reason ++
    "\r\n".toList

/-- The value of the first header field with a name. -/
def header (response : Response) (name : Text) : Option Text := Header.find? name response.headers

/-- The number of body bytes on the wire. -/
def bodyLength (response : Response) : Nat := (response.body.getD []).length

/-- The response without its body and with every header field, as it answers a `HEAD` request. -/
def withoutBody (response : Response) : Response := { response with body := none }

/-- The bytes of the response on the wire. -/
def wire (response : Response) : Bytes :=
  Utf8.encode response.statusLine ++ response.headers.flatMap Header.wire ++
    Utf8.encode "\r\n".toList ++ response.body.getD []

/-- The response as text; the body is decoded lossily. -/
def render (response : Response) : Text :=
  let headerLines := response.headers.flatMap Header.line
  match response.body with
  | some body => response.statusLine ++ headerLines ++ "\r\n".toList ++ Utf8.decodeLossy body
  | none => response.statusLine ++ headerLines ++ "\r\n".toList

/-- The status line, the header lines and the blank line. -/
def head (response : Response) : Text :=
  response.statusLine ++ response.headers.flatMap Header.line ++ "\r\n".toList

theorem wire_eq (response : Response) :
    response.wire = Utf8.encode response.head ++ response.body.getD [] := by
  simp only [wire, head, Utf8.encode_append, Utf8.encode_flatMap, Header.encode_line]

theorem render_eq (response : Response) :
    response.render = response.head ++ Utf8.decodeLossy (response.body.getD []) := by
  unfold render
  cases response.body with
  | some body => rfl
  | none => exact (List.append_nil _).symm

end Response

end FileServer
