import FileServer.Pattern.Basic
import FileServer.Text.Hexadecimal

/-!
# Escapes in patterns

What a backslash and the characters after it stand for.
-/

namespace FileServer.Pattern

/-- What an escape stands for. -/
inductive Escape where
  | literal (literal : Literal)
  /-- The digits, the blanks or the characters of words, or what is none of them. -/
  | kind (isNegated : Bool)
  /-- The beginning or the end. -/
  | anchor
  /-- Where a word begins or ends, or where none does. -/
  | wordBoundary
  deriving DecidableEq, Repr

namespace Escape

/-- Whether a character stands for itself after a backslash. -/
def isEscapable (c : Char) : Bool :=
  c.toNat < 0x80 && !c.isAlphanum && c ≠ '<' && c ≠ '>'

/-- Reads hexadecimal digits. Gives the number that they write after the digits of another. -/
def readHex (mode : Mode) : Nat → Nat → Text → Option (Nat × Text)
  | 0, value, t => some (value, t)
  | digits + 1, value, t =>
    match mode.skip t with
    | [] => none
    | c :: rest => (Hexadecimal.digit? c).bind fun d => readHex mode digits (value * 16 + d) rest

/-- Reads the number of a character. -/
def readNumber (mode : Mode) (digits : Nat) (isByte : Bool) (t : Text) : Option (Escape × Text) :=
  (readHex mode digits 0 t).bind fun (value, rest) =>
    if value.isValidChar then some (literal ⟨Char.ofNat value, isByte⟩, rest) else none

/-- The control characters with a letter of their own. -/
def controls : List (Char × Char) :=
  [('a', '\x07'), ('f', '\x0C'), ('t', '\t'), ('n', '\n'), ('r', '\r'), ('v', '\x0B')]

/-- What a character after a backslash stands for by itself. -/
def ofChar? (c : Char) : Option Escape :=
  if isEscapable c then some (literal ⟨c, false⟩)
  else
    match controls.lookup c with
    | some control => some (literal ⟨control, false⟩)
    | none =>
      if c ∈ ['d', 's', 'w'] then some (kind false)
      else if c ∈ ['D', 'S', 'W'] then some (kind true)
      else if c ∈ ['A', 'z'] then some anchor
      else if c ∈ ['b', 'B', '<', '>'] then some wordBoundary
      else none

/-- Reads what comes after a backslash. -/
def read (mode : Mode) : Text → Option (Escape × Text)
  | [] => none
  | 'x' :: rest => readNumber mode 2 true rest
  | 'u' :: rest => readNumber mode 4 false rest
  | 'U' :: rest => readNumber mode 8 false rest
  | c :: rest => (ofChar? c).map (·, rest)

end Escape

end FileServer.Pattern
