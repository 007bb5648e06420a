import FileServer.Text.Blank

/-!
# Patterns

A pattern describes texts. It is read in a mode, which flags within the pattern change. Whether a
pattern can be used depends on the mode: of characters of any script no more is known here than
that they are characters, so nothing can be asked for that depends on their case, their kind or
the words that they form. When a pattern is about bytes it must not ask for bytes that are only a
part of a character.

* `length_skip_le`: skipping never adds characters.
-/

namespace FileServer.Pattern

/-- Why a pattern cannot be used. -/
inductive Fault where
  /-- It is not well formed, or asks for what nothing is known about. -/
  | unbuildable
  /-- It asks where words of any script begin or end. -/
  | wordBoundary
  deriving DecidableEq, Repr

/-- The wording of a fault. -/
def Fault.message : Fault → Text
  | unbuildable => "error building NFA".toList
  | wordBoundary =>
    ("unsupported regex feature for DFAs: cannot build DFAs for regexes with Unicode word " ++
      "boundaries; switch to ASCII word boundaries, or heuristically enable Unicode word " ++
      "boundaries or use a different regex engine").toList

/-- How a part of a pattern is read. -/
structure Mode where
  /-- Blanks and comments mean nothing. -/
  ignoresBlanks : Bool
  /-- Upper and lower case are the same. -/
  ignoresCase : Bool
  /-- The pattern is about characters, and not about bytes. -/
  isUnicode : Bool
  deriving DecidableEq, Repr

/-- A character that is asked for. -/
structure Literal where
  char : Char
  /-- Whether it is written as the number of a byte. -/
  isByte : Bool
  deriving DecidableEq, Repr

/-- Leaves out blanks and comments, which go from a number sign to the end of the line. -/
def skipBlanks : Bool → Text → Text
  | _, [] => []
  | isComment, c :: rest =>
    if isComment then skipBlanks (c ≠ '\n') rest
    else if Text.isBlank c then skipBlanks false rest
    else if c = '#' then skipBlanks true rest
    else c :: rest

namespace Mode

/-- The mode at the front of a pattern. -/
def initial : Mode := ⟨false, false, true⟩

/-- Leaves out what means nothing. -/
def skip (mode : Mode) (t : Text) : Text := if mode.ignoresBlanks then skipBlanks false t else t

/-- What comes after a character. Of a comment that is not blank the first character counts. -/
def following? (mode : Mode) (rest : Text) : Option Char :=
  if mode.ignoresBlanks then
    let next :=
      match rest.dropWhile Text.isBlank with
      | '#' :: comment => comment.dropWhile Text.isBlank
      | other => other
    next.head? <|> rest.head?
  else rest.head?

/-- Whether a character can be asked for. -/
def accepts (mode : Mode) (literal : Literal) : Bool :=
  if mode.isUnicode then !mode.ignoresCase else !literal.isByte || literal.char.toNat < 0x80

/-- Whether a character can be asked for as one of a set. -/
def acceptsInSet (mode : Mode) (literal : Literal) : Bool :=
  if mode.isUnicode then !mode.ignoresCase else literal.char.toNat < 0x80

/-- Whether the characters that are in a set of ASCII characters, or are not in it, can be asked
for. -/
def acceptsAscii (mode : Mode) (isNegated : Bool) : Bool :=
  if mode.isUnicode then !mode.ignoresCase else !isNegated

/-- Whether the characters of a kind, or those that are not of it, can be asked for. -/
def acceptsKind (mode : Mode) (isNegated : Bool) : Bool := !mode.isUnicode && !isNegated

/-- Whether the characters of a set, or those that are not in it, can be asked for. -/
def acceptsSet (mode : Mode) (isNegated : Bool) : Bool := mode.isUnicode || !isNegated

/-- Whether any character can be asked for. -/
def acceptsAny (mode : Mode) : Bool := mode.isUnicode

end Mode

/-- How deep something is nested that consists of parts. A single part is not nested in it. -/
def nesting (depths : List Nat) : Nat := depths.foldl max 0 + if depths.length ≤ 1 then 0 else 1

theorem length_skipBlanks_le (isComment : Bool) (t : Text) :
    (skipBlanks isComment t).length ≤ t.length := by
  induction t generalizing isComment with
  | nil => simp [skipBlanks]
  | cons c t ih =>
    have hlt (b : Bool) : (skipBlanks b t).length ≤ (c :: t).length :=
      Nat.le_succ_of_le (ih b)
    rw [skipBlanks]
    split
    · exact hlt _
    · split
      · exact hlt _
      · split
        · exact hlt _
        · exact Nat.le_refl _

theorem length_skip_le (mode : Mode) (t : Text) : (mode.skip t).length ≤ t.length := by
  rw [Mode.skip]
  split
  · exact length_skipBlanks_le false t
  · exact Nat.le_refl _

end FileServer.Pattern
