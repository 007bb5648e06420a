/-!
# Bytes and text

What arrives on a connection, what a file holds and what the file system calls a file are bytes;
what the server reasons about is text, a list of Unicode scalar values. Fields of a separated list
are the one operation that both need:

* `splitOn_cons_of_ne`, `splitOn_cons_self`: how a separator cuts a list;
* `splitOn_ne_nil`: there is always a first field;
* `splitOn_append_separator`: what stands before a separator and what follows it are cut apart;
* `splitOn_append_cons`, `splitOn_of_not_mem`: a list without the separator is a field;
* `not_mem_of_mem_splitOn`: no field holds the separator;
* `intercalate_splitOn`: joining the fields with the separator gives the list back;
* `splitOn_intercalate`: fields that were joined are found again.
-/

namespace FileServer

/-- A sequence of bytes, as on the wire or in a file. -/
abbrev Bytes := List UInt8

/-- A sequence of Unicode scalar values. -/
abbrev Text := List Char

/-- Whether a character lies in one of the ranges of a table of code points. -/
def inRanges (ranges : List (Nat × Nat)) (c : Char) : Bool :=
  ranges.any fun (first, last) => first ≤ c.toNat && c.toNat ≤ last

/-- The fields of a list between separators. The empty list has one empty field. -/
def splitOn {α : Type} [DecidableEq α] (separator : α) : List α → List (List α)
  | [] => [[]]
  | x :: xs =>
    match splitOn separator xs with
    | [] => [[x]]
    | field :: fields => if x = separator then [] :: field :: fields else (x :: field) :: fields

variable {α : Type} [DecidableEq α]

theorem splitOn_ne_nil (separator : α) (xs : List α) : splitOn separator xs ≠ [] := by
  cases xs with
  | nil => simp [splitOn]
  | cons x xs =>
    rw [splitOn]
    split
    · exact List.cons_ne_nil _ _
    split
    · exact List.cons_ne_nil _ _
    · exact List.cons_ne_nil _ _

theorem splitOn_cons_self (separator : α) (xs : List α) :
    splitOn separator (separator :: xs) = [] :: splitOn separator xs := by
  have h := splitOn_ne_nil separator xs
  rw [splitOn]
  split
  · contradiction
  · rename_i e; simp [e]

theorem splitOn_cons_of_ne {separator x : α} (hx : x ≠ separator) (xs : List α) :
    splitOn separator (x :: xs) =
      (x :: (splitOn separator xs).headD []) :: (splitOn separator xs).tail := by
  rw [splitOn]
  split
  · rename_i e; simp [e]
  · rename_i e; simp [e, hx]

theorem splitOn_of_not_mem {separator : α} {xs : List α} (h : separator ∉ xs) :
    splitOn separator xs = [xs] := by
  induction xs with
  | nil => rfl
  | cons x xs ih =>
    obtain ⟨hx, hxs⟩ := not_or.1 (mt List.mem_cons.2 h)
    rw [splitOn_cons_of_ne (Ne.symm hx), ih hxs, List.headD_cons, List.tail_cons]

/-- A separator cuts a list in two, whatever stands on either side. -/
theorem splitOn_append_separator (separator : α) (xs ys : List α) :
    splitOn separator (xs ++ separator :: ys) = splitOn separator xs ++ splitOn separator ys := by
  induction xs with
  | nil => exact splitOn_cons_self separator ys
  | cons x xs ih =>
    obtain ⟨field, fields, hfields⟩ := List.exists_cons_of_ne_nil (splitOn_ne_nil separator xs)
    by_cases hx : x = separator
    · rw [hx, List.cons_append, splitOn_cons_self, splitOn_cons_self, ih, List.cons_append]
    · rw [List.cons_append, splitOn_cons_of_ne hx, splitOn_cons_of_ne hx, ih, hfields]
      rfl

theorem splitOn_append_cons {separator : α} {xs : List α} (h : separator ∉ xs) (ys : List α) :
    splitOn separator (xs ++ separator :: ys) = xs :: splitOn separator ys := by
  rw [splitOn_append_separator, splitOn_of_not_mem h, List.singleton_append]

theorem not_mem_of_mem_splitOn {separator : α} {xs field : List α}
    (h : field ∈ splitOn separator xs) : separator ∉ field := by
  induction xs generalizing field with
  | nil => simp_all [splitOn]
  | cons x xs ih =>
    obtain ⟨first, fields, hfields⟩ := List.exists_cons_of_ne_nil (splitOn_ne_nil separator xs)
    have hfirst : separator ∉ first := ih (by simp [hfields])
    by_cases hx : x = separator
    · rw [hx, splitOn_cons_self, List.mem_cons] at h
      rcases h with rfl | h
      · simp
      · exact ih h
    · rw [splitOn_cons_of_ne hx, hfields, List.headD_cons, List.tail_cons, List.mem_cons] at h
      rcases h with rfl | h
      · simp [hfirst, Ne.symm hx]
      · exact ih (by simp [hfields, h])

/-- Joining the fields with the separator gives the list back. -/
theorem intercalate_splitOn (separator : α) (xs : List α) :
    [separator].intercalate (splitOn separator xs) = xs := by
  induction xs with
  | nil => simp [splitOn, List.intercalate]
  | cons x xs ih =>
    obtain ⟨field, fields, h⟩ := List.exists_cons_of_ne_nil (splitOn_ne_nil separator xs)
    by_cases hx : x = separator
    · subst hx
      rw [splitOn_cons_self, h]
      rw [h] at ih
      cases fields <;> simp_all [List.intercalate]
    · rw [splitOn_cons_of_ne hx, h]
      rw [h] at ih
      cases fields <;> simp_all [List.intercalate]

/-- Fields that were joined with a separator are found again. -/
theorem splitOn_intercalate {separator : α} {fields : List (List α)} (hne : fields ≠ [])
    (h : ∀ field ∈ fields, separator ∉ field) :
    splitOn separator ([separator].intercalate fields) = fields := by
  induction fields with
  | nil => exact absurd rfl hne
  | cons field fields ih =>
    obtain ⟨hfield, hfields⟩ := List.forall_mem_cons.1 h
    cases fields with
    | nil =>
      rw [List.intercalate_singleton, splitOn_of_not_mem hfield]
    | cons next fields =>
      rw [List.intercalate_cons_cons, List.append_assoc, List.singleton_append,
        splitOn_append_cons hfield, ih (List.cons_ne_nil next fields) hfields]

end FileServer
