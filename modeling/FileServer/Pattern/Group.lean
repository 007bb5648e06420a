import FileServer.Pattern.Basic
import FileServer.Text.Alphanumeric

/-!
# Groups in patterns

What may come after an opening parenthesis: a question mark and flags, which hold for the group or,
when there is no more in the parentheses, from there on; a question mark and the name of the group;
or the group itself.
-/

namespace FileServer.Pattern

/-- What an opening parenthesis begins. -/
inductive Opening where
  /-- No group, but a change of the mode. -/
  | flags (mode : Mode)
  /-- A group with its own mode. -/
  | group (mode : Mode) (name : Option Text)
  deriving DecidableEq, Repr

namespace Opening

/-- The mode after a flag. The flags that are not about reading change nothing. -/
def apply (mode : Mode) (flag : Char) (isSet : Bool) : Mode :=
  match flag with
  | 'x' => { mode with ignoresBlanks := isSet }
  | 'i' => { mode with ignoresCase := isSet }
  | 'u' => { mode with isUnicode := isSet }
  | _ => mode

/-- The flags. -/
def allFlags : List Char := ['i', 'm', 's', 'U', 'u', 'R', 'x']

/-- Reads flags that come after others; each may come once. A hyphen, which may not be the last,
turns off those after it. -/
def readFlags (mode : Mode) (seen : List Char) : Text → Option (Opening × Text)
  | [] => none
  | c :: rest =>
    if c = ':' ∨ c = ')' then
      if seen.head? = some '-' then none
      else if c = ':' then some (group mode none, rest)
      else if seen = [] then none
      else some (flags mode, rest)
    else if c ∈ seen then none
    else if c = '-' then readFlags mode (c :: seen) rest
    else if c ∈ allFlags then readFlags (apply mode c (!seen.contains '-')) (c :: seen) rest
    else none

/-- Whether a text may be a name. -/
def isName : Text → Bool
  | [] => false
  | c :: rest =>
    (c = '_' || isAlphabetic c) &&
      rest.all fun c => isAlphanumeric c || ['_', '.', '[', ']'].contains c

/-- Reads a name and the sign at its end. -/
def readName (mode : Mode) (t : Text) : Option (Opening × Text) :=
  let name := t.takeWhile (· ≠ '>')
  match t.drop name.length with
  | _ :: rest => if isName name then some (group mode (some name), rest) else none
  | [] => none

/-- Reads what comes after an opening parenthesis. -/
def read (mode : Mode) (t : Text) : Option (Opening × Text) :=
  match mode.skip t with
  | '?' :: 'P' :: '<' :: rest | '?' :: '<' :: rest => readName mode rest
  | '?' :: rest => readFlags mode [] rest
  | rest => some (group mode none, rest)

end Opening

end FileServer.Pattern
