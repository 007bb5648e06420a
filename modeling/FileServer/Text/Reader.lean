import FileServer.Text.Decimal

/-!
# Readers

Readers take something off the front of a text, or fail and take nothing. They are put together in
sequence and by `<|>`, which tries the second reader where the first one started.
-/

namespace FileServer

/-- Reads a value off the front of a text. -/
abbrev Reader (α : Type) := StateT Text Option α

namespace Reader

/-- Takes a given text. -/
def literal (t : Text) : Reader Unit := fun input =>
  if t.isPrefixOf input then some ((), input.drop t.length) else none

/-- Takes any character. -/
def anyChar : Reader Char
  | [] => none
  | c :: rest => some (c, rest)

/-- Takes the first of some names that comes next, and gives its place among them. -/
def oneOf (names : List Text) : Reader Nat := fun input =>
  match names.findIdx? (·.isPrefixOf input) with
  | some i => some (i, input.drop (names.getD i []).length)
  | none => none

/-- Takes a number of exactly `width` digits. -/
def number (width : Nat) : Reader Nat := fun input =>
  let digits := input.take width
  if digits.length = width then (Decimal.parse? digits).map (·, input.drop width) else none

/-- The value, when the reader takes the whole text. -/
def readAll {α : Type} (reader : Reader α) (input : Text) : Option α :=
  match reader input with
  | some (a, []) => some a
  | _ => none

end Reader

end FileServer
