import FileServer.Http.Header
import FileServer.Http.Method
import FileServer.Http.Version
import FileServer.Text.Blank
import FileServer.Text.Line

/-!
# Request heads

A request head is a request line, header lines and a blank line, each ended by LF or CR LF; the
head may also end with the text. A request line has three tokens with one space between. A header
line has a name, a colon and a value, which loses the spaces and tabs before it and the blanks
after it. The checks come in this order: request line, version, header lines, method.

* `path_append`: the path is what stands before the first `?` or `#`.
-/

namespace FileServer

/-- A request, as its head states it. -/
structure Request where
  method : Method
  target : Text
  version : Version
  headers : List Header
  deriving DecidableEq, Repr

namespace Request

/-- The three tokens of a request line. A line that ends with the text is allowed, a CR within the
line is not. -/
def tokens? (line : Line) : Option (Text × Text × Text) :=
  if '\r' ∈ line.text then none
  else
    match splitOn ' ' line.text with
    | [method, target, version] =>
      if method ≠ [] ∧ target ≠ [] ∧ version ≠ [] then some (method, target, version) else none
    | _ => none

/-- Whether a character may stand between the colon of a header line and its value. -/
def isPadding (c : Char) : Bool := c = ' ' || c = '\t'

/-- The name and value of a header line. The line has to be ended and hold no CR. -/
def header? (line : Line) : Option Header :=
  if line.ending = .missing ∨ '\r' ∈ line.text then none
  else
    match line.text.span (· ≠ ':') with
    | (first :: name, _ :: value) =>
      some ⟨first :: name, Text.trimEnd (value.dropWhile isPadding)⟩
    | _ => none

/-- The fields of the header lines up to a blank line or the end of the text. -/
def headers? : List Line → Option (List Header)
  | [] => some []
  | line :: lines =>
    if line.text = [] then some []
    else
      match header? line, headers? lines with
      | some header, some headers => some (header :: headers)
      | _, _ => none

/-- Reads a request head. What follows the blank line is not looked at. -/
def parse (text : Text) : Except RequestError Request :=
  match Text.lines text with
  | [] => .error (.requestLine [])
  | line :: lines =>
    match tokens? line with
    | none => .error (.requestLine line.text)
    | some (methodToken, target, versionToken) =>
      match Version.parse versionToken with
      | .error e => .error e
      | .ok version =>
        match headers? lines with
        | none => .error .header
        | some headers =>
          match Method.parse? methodToken with
          | none => .error (.method methodToken)
          | some method => .ok ⟨method, target, version, headers⟩

/-- The target up to the first `?` or `#`. -/
def path (request : Request) : Text := request.target.takeWhile fun c => c ≠ '?' && c ≠ '#'

/-- What follows the first `?` of the target, up to a `#`. -/
def query? (request : Request) : Option Text :=
  match request.target.dropWhile (· ≠ '?') with
  | [] => none
  | _ :: query => some (query.takeWhile (· ≠ '#'))

/-- The value of the first header field with a name. -/
def header (request : Request) (name : Text) : Option Text := Header.find? name request.headers

/-- A target is its path, and then nothing or something that begins with `?` or `#`. -/
theorem path_append (request : Request) :
    ∃ rest, request.target = request.path ++ rest ∧ rest.head? ∈ [none, some '?', some '#'] := by
  refine ⟨_, List.takeWhile_append_dropWhile.symm, ?_⟩
  cases h : request.target.dropWhile fun c => c ≠ '?' && c ≠ '#' with
  | nil => simp
  | cons c rest =>
    have := @List.head_dropWhile_not _ (fun c : Char => c ≠ '?' && c ≠ '#') request.target
      (by rw [h]; simp)
    simp only [h, List.head_cons] at this
    by_cases hc : c = '?' <;> simp_all

end Request

end FileServer
