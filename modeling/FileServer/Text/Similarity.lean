import FileServer.Text.Basic
import FileServer.Text.Rounded

/-!
# Similar words

How alike two words are, by Jaro's measure: the mean of the part of either word that has a partner
in the other and of the part of the partners that stand in the same order. Partners are equal
characters that stand not too far from each other. The measure is computed with rounded numbers, in
the order in which it is written here.
-/

namespace FileServer.Similarity

/-- How far from each other partners may stand. -/
def range (a b : Text) : Nat := max a.length b.length / 2 - 1

/-- The first place in a window of `b` that holds `c` and has no partner yet. -/
def partner? (b : Text) (taken : List Nat) (low high : Nat) (c : Char) : Option Nat :=
  (List.range (min b.length high)).find? fun j =>
    low ≤ j && b[j]? == some c && !taken.contains j

/-- The partners of the characters of `a`, as places in both words, from the left of `a`. -/
def matchesFrom (b : Text) (reach : Nat) : Nat → List Nat → Text → List (Nat × Nat)
  | _, _, [] => []
  | i, taken, c :: rest =>
    match partner? b taken (i - reach) (i + reach + 1) c with
    | some j => (i, j) :: matchesFrom b reach (i + 1) (j :: taken) rest
    | none => matchesFrom b reach (i + 1) taken rest

/-- The number of partners and the number of those that stand in another order. -/
def partners (a b : Text) : Nat × Nat :=
  let found := matchesFrom b (range a b) 0 [] a
  let inOrder := (found.map Prod.snd).mergeSort
  let moved := (found.zip inOrder).countP fun ((i, _), j) => a[i]? ≠ b[j]?
  (found.length, moved / 2)

/-- The measure: 0 for words that have nothing in common and 1 for equal words. -/
def measure (a b : Text) : Rounded :=
  let (found, moved) := partners a b
  if found = 0 then .ofFraction 0 1
  else
    (((Rounded.ofFraction found a.length).add (.ofFraction found b.length)).add
      (.ofFraction (found - moved) found)).divide 3

/-- Whether the measure is above seven tenths. -/
def areSimilar (a b : Text) : Bool := !(measure a b).le (.ofFraction 7 10)

/-- The most similar of some words, if one is similar enough; of equally similar ones the last. -/
def mostSimilar? (word : Text) (words : List Text) : Option Text :=
  (words.filter (areSimilar word)).foldl (fun best next =>
    match best with
    | none => some next
    | some other => if (measure word other).le (measure word next) then some next else best) none

end FileServer.Similarity
