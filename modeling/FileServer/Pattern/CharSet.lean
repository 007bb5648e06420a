import FileServer.Pattern.Escape

/-!
# Sets of characters in patterns

A set stands in brackets: characters, ranges of them, kinds of characters and further sets. The
signs `&&`, `--` and `~~` stand between sets of which the common characters, the difference or
those that only one of them has are asked for. A set that begins with a circumflex is the set of
all other characters. At the front hyphens stand for themselves, and so does a bracket that would
leave the set empty.
-/

namespace FileServer.Pattern

/-- A set as far as it is read. Only the nesting of its parts is kept. -/
structure CharSet where
  /-- What stands before the last sign. -/
  operand : Option Nat
  /-- What stands after it. -/
  items : List Nat
  deriving DecidableEq, Repr

namespace CharSet

/-- The set with another part. -/
def push (set : CharSet) (depth : Nat) : CharSet := { set with items := depth :: set.items }

/-- How deep the parts of a set are nested. -/
def depth (set : CharSet) : Nat :=
  match set.operand with
  | some operand => max operand (nesting set.items) + 1
  | none => nesting set.items

/-- The names of the sets of ASCII characters. -/
def names : List Text :=
  ["alnum", "alpha", "ascii", "blank", "cntrl", "digit", "graph", "lower", "print", "punct",
    "space", "upper", "word", "xdigit"].map String.toList

/-- Reads the name of a set between colons, after a bracket, and the bracket at its end. Gives
whether the other characters are meant. -/
def readName? (t : Text) : Option (Bool × Text) :=
  match t with
  | ':' :: rest =>
    let isNegated := rest.head? = some '^'
    let rest := if isNegated then rest.drop 1 else rest
    let name := rest.takeWhile (· ≠ ':')
    match rest.drop name.length with
    | ':' :: ']' :: rest => if names.contains name then some (isNegated, rest) else none
    | _ => none
  | _ => none

/-- Reads a character or an escape. -/
def readAtom (mode : Mode) : Text → Option (Escape × Text)
  | [] => none
  | '\\' :: rest => Escape.read mode rest
  | c :: rest => some (.literal ⟨c, false⟩, rest)

/-- Whether an escape can be a part of a set. -/
def accepts (mode : Mode) : Escape → Bool
  | .literal literal => mode.acceptsInSet literal
  | .kind isNegated => mode.acceptsKind isNegated
  | _ => false

/-- Whether two escapes can be the ends of a range in a set. -/
def acceptsRange (mode : Mode) : Escape → Escape → Bool
  | .literal first, .literal last =>
    first.char ≤ last.char && mode.acceptsInSet first && mode.acceptsInSet last
  | _, _ => false

/-- Reads a character, a kind of characters or a range. A hyphen before a bracket or another hyphen
makes no range. -/
def readRange (mode : Mode) (t : Text) : Option Text := do
  let (first, rest) ← readAtom mode t
  match mode.skip rest with
  | '-' :: after =>
    if mode.following? after = some ']' ∨ mode.following? after = some '-' then
      if accepts mode first then some ('-' :: after) else none
    else
      let (last, rest) ← readAtom mode (mode.skip after)
      if acceptsRange mode first last then some rest else none
  | rest => if accepts mode first then some rest else none

/-- Reads hyphens at the front of a set. Gives their number. -/
def readHyphens (mode : Mode) (t : Text) : Nat × Text :=
  match h : mode.skip t with
  | '-' :: rest =>
    have : rest.length < t.length := by
      have := length_skip_le mode t
      rw [h] at this
      exact this
    let (count, rest) := readHyphens mode rest
    (count + 1, rest)
  | other => (0, other)
termination_by t.length

/-- Reads the front of a set after its bracket. -/
def readFront (mode : Mode) (t : Text) : Option (CharSet × Text) :=
  let t := mode.skip t
  let isNegated := t.head? = some '^'
  let (hyphens, t) := readHyphens mode (if isNegated then t.drop 1 else t)
  if mode.acceptsSet isNegated then
    match hyphens, t with
    | 0, ']' :: rest => some (⟨none, [0]⟩, rest)
    | hyphens, rest => some (⟨none, List.replicate hyphens 0⟩, rest)
  else none

/-- Reads on in a set that stands in others, to the bracket that closes the last of them. Takes at
most a number of steps. Gives the nesting of all. -/
def readOn (mode : Mode) : Nat → CharSet → List CharSet → Text → Option (Nat × Text)
  | 0, _, _, _ => none
  | steps + 1, set, outer, t =>
    match mode.skip t with
    | [] => none
    | ']' :: rest =>
      match outer with
      | [] => some (set.depth + 1, rest)
      | next :: outer => readOn mode steps (next.push (set.depth + 1)) outer rest
    | '&' :: '&' :: rest | '-' :: '-' :: rest | '~' :: '~' :: rest =>
      readOn mode steps ⟨some set.depth, []⟩ outer rest
    | '[' :: rest =>
      match readName? rest with
      | some (isNegated, rest) =>
        if mode.acceptsAscii isNegated then readOn mode steps (set.push 0) outer rest else none
      | none =>
        match readFront mode rest with
        | some (inner, rest) => readOn mode steps inner (set :: outer) rest
        | none => none
    | t =>
      match readRange mode t with
      | some rest => readOn mode steps (set.push 0) outer rest
      | none => none

/-- Reads a set after its bracket. Gives its nesting. -/
def read (mode : Mode) (t : Text) : Option (Nat × Text) :=
  match readFront mode t with
  | some (set, rest) => readOn mode rest.length set [] rest
  | none => none

end CharSet

end FileServer.Pattern
