import FileServer.Proofs.Text.Digits
import FileServer.Text.Reader

/-!
# What readers take

A reader takes off the front of a text what a writer has put there, whatever follows; and what a
reader has taken, with what it left, is the text that it was given.

* `bind_of_eq`, `bind_eq_some`: readers in sequence;
* `literal_append`, `number_padded`, `oneOf_getD`: what is written is taken off;
* `eq_append_of_literal`: what was taken was there.
-/

namespace FileServer.Reader

/-- A reader in sequence goes on where the first one stopped. -/
theorem bind_of_eq {α β : Type} {reader : Reader α} {next : α → Reader β} {input rest : Text}
    {a : α} (h : reader input = some (a, rest)) : (reader >>= next) input = next a rest := by
  show (reader input >>= fun result => next result.1 result.2) = _
  rw [h]
  rfl

theorem map_of_eq {α β : Type} {reader : Reader α} {f : α → β} {input rest : Text} {a : α}
    (h : reader input = some (a, rest)) : (f <$> reader) input = some (f a, rest) := by
  show (reader input >>= fun result => pure (f result.1, result.2)) = _
  rw [h]
  rfl

theorem literal_append (t rest : Text) : literal t (t ++ rest) = some ((), rest) := by
  rw [literal, if_pos (List.isPrefixOf_iff_prefix.2 (List.prefix_append t rest)),
    List.drop_left]

theorem number_padded {width n : Nat} (hwidth : 0 < width) (hn : n < 10 ^ width) (rest : Text) :
    number width (Decimal.padded width n ++ rest) = some (n, rest) := by
  have hlength := Decimal.length_padded hwidth hn
  rw [number, List.take_left' hlength, List.drop_left' hlength]
  simp only [hlength, if_pos, Decimal.parse?_padded, Option.map_some]

/-- Of different names of one length the one that was written is read. -/
theorem oneOf_getD {names : List Text} {width : Nat} (hwidth : ∀ name ∈ names, name.length = width)
    (hnodup : names.Nodup) {i : Nat} (hi : i < names.length) (rest : Text) :
    oneOf names (names.getD i [] ++ rest) = some (i, rest) := by
  have hname : names.getD i [] = names[i] := by simp [hi]
  have hfound : names.findIdx? (·.isPrefixOf (names[i] ++ rest)) = some i := by
    rw [List.findIdx?_eq_some_iff_getElem]
    refine ⟨hi, List.isPrefixOf_iff_prefix.2 (List.prefix_append _ _), fun j hj hprefix => ?_⟩
    have hlength : names[j].length = names[i].length :=
      (hwidth _ (List.getElem_mem _)).trans (hwidth _ (List.getElem_mem _)).symm
    have hsame : names[j] = names[i] :=
      (List.prefix_of_prefix_length_le (List.isPrefixOf_iff_prefix.1 hprefix)
        (List.prefix_append _ _) (Nat.le_of_eq hlength)).eq_of_length hlength
    exact List.pairwise_iff_getElem.1 hnodup j i (Nat.lt_trans hj hi) hi hj hsame
  rw [oneOf, hname, hfound]
  simp only [hname, List.drop_left]

theorem literal_singleton (c : Char) (rest : Text) : literal [c] (c :: rest) = some ((), rest) :=
  literal_append [c] rest

/-! ## What was taken -/

/-- Readers in sequence succeed if each of them does on what the one before it left. -/
theorem bind_eq_some {α β : Type} {reader : Reader α} {next : α → Reader β} {input rest : Text}
    {b : β} : (reader >>= next) input = some (b, rest) ↔
      ∃ a between, reader input = some (a, between) ∧ next a between = some (b, rest) := by
  show (reader input >>= fun result => next result.1 result.2) = _ ↔ _
  constructor
  · intro h
    obtain ⟨⟨a, between⟩, hfirst, hnext⟩ := Option.bind_eq_some_iff.1 h
    exact ⟨a, between, hfirst, hnext⟩
  · rintro ⟨a, between, hfirst, hnext⟩
    exact Option.bind_eq_some_iff.2 ⟨(a, between), hfirst, hnext⟩

theorem bind_eq_none {α β : Type} {reader : Reader α} {next : α → Reader β} {input : Text}
    (h : ∀ a rest, reader input = some (a, rest) → next a rest = none) :
    (reader >>= next) input = none := by
  rw [Option.eq_none_iff_forall_ne_some]
  rintro ⟨b, rest⟩ hsome
  obtain ⟨a, between, hfirst, hnext⟩ := bind_eq_some.1 hsome
  rw [h a between hfirst] at hnext
  cases hnext

theorem eq_append_of_literal {t input rest : Text} {u : Unit}
    (h : literal t input = some (u, rest)) : input = t ++ rest := by
  rw [literal] at h
  split at h
  · next hprefix =>
    obtain ⟨more, rfl⟩ := List.isPrefixOf_iff_prefix.1 hprefix
    rw [List.drop_left] at h
    rw [(Prod.mk.inj (Option.some.inj h)).2]
  · cases h

theorem literal_singleton_eq_none {c : Char} {input : Text} (h : input.head? ≠ some c) :
    literal [c] input = none := by
  rw [Option.eq_none_iff_forall_ne_some]
  rintro ⟨u, rest⟩ hsome
  rw [eq_append_of_literal hsome] at h
  exact h rfl

/-- A reader takes the whole text if it leaves nothing of it. -/
theorem readAll_eq_some {α : Type} {reader : Reader α} {input : Text} {a : α} :
    readAll reader input = some a ↔ reader input = some (a, []) := by
  rw [readAll]
  split
  · next b hread => simp [hread]
  · next hread =>
    constructor
    · intro h
      cases h
    · intro h
      exact absurd h (hread a)

theorem or_of_eq {α : Type} {first second : Reader α} {input rest : Text} {a : α}
    (h : first input = some (a, rest)) : (first <|> second) input = some (a, rest) := by
  show (first input <|> second input) = _
  rw [h]
  rfl

theorem or_of_none {α : Type} {first second : Reader α} {input : Text}
    (h : first input = none) : (first <|> second) input = second input := by
  show (first input <|> second input) = _
  rw [h]
  rfl

end FileServer.Reader
