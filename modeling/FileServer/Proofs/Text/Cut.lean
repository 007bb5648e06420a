import FileServer.Text.Basic

/-!
# Cutting at separators

A separator of several elements is found at the first place where it begins. What is before it is
one piece, and what is after it can be cut again.

* `eq_append_of_cutAt?`: cutting loses nothing;
* `cutAt?_piece`: a piece without the first element of the separator ends where the separator
  begins;
* `append_cons_inj_left`, `append_cons_inj_right`: a list has one cut at a separator that does not
  occur on one side of it;
* `cutAll_append`: cutting at every separator gives that piece, and the pieces of what follows;
* `cutAll_intercalate`, `cutAt?_blankLine`: so lines are found again, and where they end.
-/

namespace FileServer

variable {α : Type} [DecidableEq α]

/-- What is before and after the first occurrence of a separator. -/
def cutAt? (separator : List α) : List α → Option (List α × List α)
  | [] => if separator = [] then some ([], []) else none
  | x :: xs =>
    if separator.isPrefixOf (x :: xs) then some ([], (x :: xs).drop separator.length)
    else (cutAt? separator xs).map fun (before, after) => (x :: before, after)

/-- The pieces and the separator between them make up the list. -/
theorem eq_append_of_cutAt? {separator xs before after : List α}
    (h : cutAt? separator xs = some (before, after)) : xs = before ++ separator ++ after := by
  induction xs generalizing before with
  | nil =>
    simp only [cutAt?, Option.ite_none_right_eq_some, Option.some.injEq, Prod.mk.injEq] at h
    obtain ⟨rfl, rfl, rfl⟩ := h
    rfl
  | cons x xs ih =>
    rw [cutAt?] at h
    split at h
    · next hfound =>
      obtain ⟨rfl, rfl⟩ := Prod.mk.inj (Option.some.inj h)
      obtain ⟨rest, hrest⟩ := List.isPrefixOf_iff_prefix.1 hfound
      rw [← hrest, List.drop_left, List.nil_append]
    · obtain ⟨⟨piece, rest⟩, hcut, heq⟩ := Option.map_eq_some_iff.1 h
      obtain ⟨rfl, rfl⟩ := Prod.mk.inj heq
      rw [ih hcut, List.cons_append, List.cons_append]

/-- The pieces between the occurrences of a separator, found from the left. An empty separator
cuts nothing. -/
def cutAll (separator xs : List α) : List (List α) :=
  match _h : cutAt? separator xs with
  | none => [xs]
  | some (before, after) =>
    if separator = [] then [xs] else before :: cutAll separator after
termination_by xs.length
decreasing_by
  have := congrArg List.length (eq_append_of_cutAt? ‹cutAt? separator xs = some (before, after)›)
  have := List.length_pos_iff.2 ‹¬separator = []›
  simp only [List.length_append] at *
  omega

/-! ## Pieces -/

/-- Elements with which the separator does not begin are passed over. -/
theorem cutAt?_append_of_not_mem {s : α} {separator piece : List α} (h : s ∉ piece)
    (rest : List α) : cutAt? (s :: separator) (piece ++ rest) =
      (cutAt? (s :: separator) rest).map fun (before, after) => (piece ++ before, after) := by
  induction piece with
  | nil => simp
  | cons x piece ih =>
    obtain ⟨hx, hpiece⟩ := not_or.1 (mt List.mem_cons.2 h)
    rw [List.cons_append, cutAt?, ih hpiece]
    simp [hx, Option.map_map, Function.comp_def]

theorem cutAt?_append {separator : List α} (hne : separator ≠ []) (rest : List α) :
    cutAt? separator (separator ++ rest) = some ([], rest) := by
  obtain ⟨s, separator, rfl⟩ := List.exists_cons_of_ne_nil hne
  simp [cutAt?]

/-- A piece without the first element of the separator ends where the separator begins. -/
theorem cutAt?_piece {s : α} {separator piece : List α} (h : s ∉ piece) (rest : List α) :
    cutAt? (s :: separator) (piece ++ (s :: separator) ++ rest) = some (piece, rest) := by
  rw [List.append_assoc, cutAt?_append_of_not_mem h, cutAt?_append (by simp)]
  simp

theorem cutAt?_of_not_mem {s : α} {separator piece : List α} (h : s ∉ piece) :
    cutAt? (s :: separator) piece = none := by
  rw [← List.append_nil piece, cutAt?_append_of_not_mem h]
  simp [cutAt?]

theorem cutAll_of_not_mem {s : α} {separator piece : List α} (h : s ∉ piece) :
    cutAll (s :: separator) piece = [piece] := by
  rw [cutAll]
  split
  · rfl
  · next hcut => rw [cutAt?_of_not_mem h] at hcut; cases hcut

theorem cutAll_append {s : α} {separator piece : List α} (h : s ∉ piece) (rest : List α) :
    cutAll (s :: separator) (piece ++ (s :: separator) ++ rest) =
      piece :: cutAll (s :: separator) rest := by
  rw [cutAll]
  split
  · next hcut => rw [cutAt?_piece h] at hcut; cases hcut
  · next hcut =>
    rw [cutAt?_piece h] at hcut
    cases hcut
    simp

/-- A separator that neither front contains ends both. -/
theorem append_cons_inj_left {s : α} {front other rest more : List α} (hfront : s ∉ front)
    (hother : s ∉ other) (h : front ++ s :: rest = other ++ s :: more) :
    front = other ∧ rest = more := by
  have hcut := congrArg (cutAt? [s]) h
  rw [List.append_cons, List.append_cons other, cutAt?_piece hfront, cutAt?_piece hother] at hcut
  exact Prod.mk.inj (Option.some.inj hcut)

/-- A separator that neither end contains begins both. -/
theorem append_cons_inj_right {s : α} {front other rest more : List α} (hrest : s ∉ rest)
    (hmore : s ∉ more) (h : front ++ s :: rest = other ++ s :: more) :
    front = other ∧ rest = more := by
  have hreverse := congrArg List.reverse h
  rw [List.reverse_append, List.reverse_append, List.reverse_cons, List.reverse_cons,
    List.append_assoc, List.append_assoc] at hreverse
  obtain ⟨hends, hfronts⟩ := append_cons_inj_left (mt List.mem_reverse.1 hrest)
    (mt List.mem_reverse.1 hmore) hreverse
  exact ⟨List.reverse_inj.1 hfronts, List.reverse_inj.1 hends⟩

omit [DecidableEq α] in
/-- Elements of a class are taken up to the first one that is not in it. -/
theorem span_append {p : α → Bool} {xs rest : List α} (hxs : ∀ x ∈ xs, p x)
    (hrest : ∀ x ∈ rest.head?, p x = false) :
    (xs ++ rest).takeWhile p = xs ∧ (xs ++ rest).dropWhile p = rest := by
  rw [List.takeWhile_append_of_pos hxs, List.dropWhile_append_of_pos hxs]
  cases rest with
  | nil => simp
  | cons x rest => simp [hrest x rfl]

/-! ## Joined pieces -/

/-- Pieces that were joined by a separator are found again. -/
theorem cutAll_intercalate {s : α} {separator : List α} {pieces : List (List α)}
    (hne : pieces ≠ []) (h : ∀ piece ∈ pieces, s ∉ piece) :
    cutAll (s :: separator) ((s :: separator).intercalate pieces) = pieces := by
  induction pieces with
  | nil => exact absurd rfl hne
  | cons piece pieces ih =>
    obtain ⟨hpiece, hpieces⟩ := List.forall_mem_cons.1 h
    cases pieces with
    | nil => rw [List.intercalate_singleton, cutAll_of_not_mem hpiece]
    | cons next pieces =>
      rw [List.intercalate_cons_cons, cutAll_append hpiece, ih (by simp) hpieces]

/-- A separator of two elements stands twice where a blank line ends, and nowhere before it. -/
theorem cutAt?_blankLine {s t : α} (hst : s ≠ t) {lines : List (List α)} (hne : lines ≠ [])
    (h : ∀ line ∈ lines, line ≠ [] ∧ s ∉ line) (rest : List α) :
    cutAt? [s, t, s, t] (lines.flatMap (· ++ [s, t]) ++ ([s, t] ++ rest)) =
      some ([s, t].intercalate lines, rest) := by
  induction lines with
  | nil => exact absurd rfl hne
  | cons line lines ih =>
    obtain ⟨⟨-, hline⟩, hlines⟩ := List.forall_mem_cons.1 h
    cases lines with
    | nil =>
      have := @cutAt?_piece _ _ s [t, s, t] _ hline rest
      simpa using this
    | cons next lines =>
      have hrest := ih (by simp) hlines
      obtain ⟨⟨hnext, hs⟩, -⟩ := List.forall_mem_cons.1 hlines
      obtain ⟨x, next, rfl⟩ := List.exists_cons_of_ne_nil hnext
      have hx : s ≠ x := fun e => hs (e ▸ List.mem_cons_self)
      have hpass : ∀ xs, cutAt? [s, t, s, t] (s :: t :: x :: xs) =
          (cutAt? [s, t, s, t] (x :: xs)).map fun (before, after) => (s :: t :: before, after) := by
        intro xs
        rw [cutAt?, cutAt?]
        simp [hx, hst, Option.map_map, Function.comp_def]
      rw [List.flatMap_cons, List.append_assoc, List.append_assoc, cutAt?_append_of_not_mem hline]
      rw [List.flatMap_cons] at hrest ⊢
      simp only [List.cons_append, List.nil_append, List.append_assoc] at hrest ⊢
      rw [hpass, hrest, List.intercalate_cons_cons]
      simp

end FileServer
