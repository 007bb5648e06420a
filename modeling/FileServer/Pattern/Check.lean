import FileServer.Pattern.CharSet
import FileServer.Pattern.Group

/-!
# Which patterns can be used

A pattern is a sequence of items, or several of them between upright bars. An item is a character,
an escape, a set, a group or a repeated item. Counted repetitions do not occur here, so an opening
brace is never right.
-/

namespace FileServer.Pattern

/-- An item of a sequence: how deep it is nested, and whether it may be repeated. -/
structure Item where
  depth : Nat
  isRepeatable : Bool
  deriving DecidableEq, Repr

/-- A group, or the whole pattern, as far as it is read. -/
structure Group where
  /-- The mode before the group. -/
  before : Mode
  /-- The nesting of the sequences that are finished. -/
  alternatives : List Nat
  /-- The sequence that is read. The last item comes first. -/
  items : List Item
  deriving DecidableEq, Repr

namespace Group

/-- How deep what stands in a group is nested. -/
def depth (group : Group) : Nat :=
  nesting (nesting (group.items.map Item.depth) :: group.alternatives)

/-- The group with another item. -/
def push (group : Group) (item : Item) : Group := { group with items := item :: group.items }

/-- The group after an upright bar. -/
def alternate (group : Group) : Group :=
  { group with alternatives := nesting (group.items.map Item.depth) :: group.alternatives,
               items := [] }

/-- The group with its last item repeated. -/
def repeatLast? (group : Group) : Option Group :=
  match group.items with
  | item :: items =>
    if item.isRepeatable then some { group with items := ⟨item.depth + 1, true⟩ :: items }
    else none
  | [] => none

end Group

/-- A pattern as far as it is read. -/
structure Progress where
  mode : Mode
  group : Group
  /-- The groups in which the last one stands. -/
  outer : List Group
  names : List Text
  hasWordBoundary : Bool
  deriving DecidableEq, Repr

namespace Progress

/-- Before a pattern is read. -/
def start : Progress := ⟨.initial, ⟨.initial, [], []⟩, [], [], false⟩

/-- With another item. -/
def push (progress : Progress) (item : Item) : Progress :=
  { progress with group := progress.group.push item }

/-- With another item that is not nested, if it can be asked for. -/
def pushIf (progress : Progress) (isAccepted : Bool) : Option Progress :=
  if isAccepted then some (progress.push ⟨0, true⟩) else none

/-- After what an opening parenthesis begins. -/
def opened (progress : Progress) : Opening → Option Progress
  | .flags mode => some { progress.push ⟨0, false⟩ with mode }
  | .group mode name =>
    if name.any progress.names.contains then none
    else some { progress with
      mode, group := ⟨progress.mode, [], []⟩, outer := progress.group :: progress.outer,
      names := name.toList ++ progress.names }

/-- After a closing parenthesis. -/
def closed? (progress : Progress) : Option Progress :=
  match progress.outer with
  | next :: outer =>
    some { progress with
      mode := progress.group.before, group := next.push ⟨progress.group.depth + 1, true⟩, outer }
  | [] => none

/-- After an escape. -/
def escaped (progress : Progress) : Escape → Option Progress
  | .literal literal => progress.pushIf (progress.mode.accepts literal)
  | .kind isNegated => progress.pushIf (progress.mode.acceptsKind isNegated)
  | .anchor => progress.pushIf true
  | .wordBoundary =>
    { progress with
      hasWordBoundary := progress.hasWordBoundary || progress.mode.isUnicode }.pushIf true

/-- Reads what begins with a character. -/
def read (progress : Progress) (c : Char) (rest : Text) : Option (Progress × Text) :=
  if c = '(' then
    (Opening.read progress.mode rest).bind fun (opening, rest) =>
      (progress.opened opening).map (·, rest)
  else if c = ')' then progress.closed?.map (·, rest)
  else if c = '|' then some ({ progress with group := progress.group.alternate }, rest)
  else if c = '[' then
    (CharSet.read progress.mode rest).map fun (depth, rest) =>
      (progress.push ⟨depth, true⟩, rest)
  else if c = '\\' then
    (Escape.read progress.mode rest).bind fun (escape, rest) =>
      (progress.escaped escape).map (·, rest)
  else if c = '?' ∨ c = '*' ∨ c = '+' then
    progress.group.repeatLast?.map fun group =>
      ({ progress with group }, if rest.head? = some '?' then rest.drop 1 else rest)
  else if c = '\x7b' then none
  else if c = '.' then (progress.pushIf progress.mode.acceptsAny).map (·, rest)
  else if c = '^' ∨ c = '$' then (progress.pushIf true).map (·, rest)
  else (progress.pushIf (progress.mode.accepts ⟨c, false⟩)).map (·, rest)

/-- Reads on to the end, in at most a number of steps. -/
def readOn : Nat → Progress → Text → Option Progress
  | 0, progress, t => if progress.mode.skip t = [] then some progress else none
  | steps + 1, progress, t =>
    match progress.mode.skip t with
    | [] => some progress
    | c :: rest => (progress.read c rest).bind fun (progress, rest) => readOn steps progress rest

end Progress

/-- How deep a pattern may be nested. -/
def maxDepth : Nat := 250

/-- Why a pattern cannot be used. -/
def fault? (pattern : Text) : Option Fault :=
  match Progress.readOn pattern.length .start pattern with
  | some progress =>
    if progress.outer ≠ [] ∨ maxDepth < progress.group.depth then some .unbuildable
    else if progress.hasWordBoundary then some .wordBoundary
    else none
  | none => some .unbuildable

end FileServer.Pattern
