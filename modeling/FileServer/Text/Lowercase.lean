import FileServer.Text.Basic
import FileServer.Text.LetterCase

/-!
# Lower case

Full Unicode lower-casing. Every character is mapped on its own, except that a capital sigma at
the end of a word becomes the final sigma.
-/

namespace FileServer.LetterCase

/-- Characters that do not separate words, such as an apostrophe or a combining mark. -/
def isIgnorable (c : Char) : Bool := inRanges ignorableRanges c

/-- Letters that have case. -/
def isCased (c : Char) : Bool := inRanges casedRanges c

/-- The lower case of a character, whatever stands around it. -/
def lowercaseChar (c : Char) : Text :=
  let n := c.toNat
  if n = 0x130 then ['i', '\u0307']
  else
    match lowercaseRuns.find? fun (first, last, stride, _, _) =>
        first ≤ n && n ≤ last && (n - first) % stride == 0 with
    | some (_, _, _, up, down) => [Char.ofNat (n + up - down)]
    | none => [c]

/-- Whether the first character that is not ignorable has case. -/
def startsCased (t : Text) : Bool :=
  match t.dropWhile isIgnorable with
  | [] => false
  | c :: _ => isCased c

/-- The lower case of the rest of a text. `inWord` says whether the last character before it that
is not ignorable has case. -/
def lowercaseFrom (inWord : Bool) : Text → Text
  | [] => []
  | c :: rest =>
    let lower :=
      if c = 'Σ' then [if inWord && !startsCased rest then 'ς' else 'σ'] else lowercaseChar c
    lower ++ lowercaseFrom (if isIgnorable c then inWord else isCased c) rest

/-- The lower case of a text. -/
def lowercase (t : Text) : Text := lowercaseFrom false t

end FileServer.LetterCase
