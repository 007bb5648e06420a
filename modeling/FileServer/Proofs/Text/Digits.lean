import Mathlib.Algebra.Group.Nat.Defs
import Mathlib.Data.List.Induction
import FileServer.Text.Decimal
import FileServer.Text.Hexadecimal

/-!
# Digits

Numbers in writing have digits only, and are read back. A decimal number has no leading zeros
unless it is padded; a hexadecimal number is written in small letters and read in either case.

* `value_padded`, `length_padded`, `parse?_padded`: numbers of a least width;
* `eq_nil_of_render`, `render_value`: digits without leading zeros are the writing of a number;
* `Hexadecimal.value_toDigits`, `Hexadecimal.value_lt`: hexadecimal numbers, and their bound.
-/

namespace FileServer

namespace Decimal

theorem isDigit_of_mem_padded {width n : Nat} {c : Char} (h : c ∈ padded width n) :
    c.isDigit := by
  rw [padded, List.leftpad, List.mem_append] at h
  obtain h | h := h
  · obtain rfl := List.eq_of_mem_replicate h
    decide
  · exact render_isDigit h

theorem value_replicate_append (k : Nat) (ds : Text) :
    value (List.replicate k '0' ++ ds) = value ds := by
  induction k with
  | zero => rfl
  | succ k ih => rw [List.replicate_succ, List.cons_append, ← ih]; rfl

theorem value_padded (width n : Nat) : value (padded width n) = n := by
  rw [padded, List.leftpad, value_replicate_append, value_render]

theorem length_padded {width n : Nat} (hwidth : 0 < width) (hn : n < 10 ^ width) :
    (padded width n).length = width := by
  have hlength : (render n).length ≤ width :=
    (Nat.length_toDigits_le_iff (by decide) hwidth).2 hn
  rw [padded, List.length_leftpad, Nat.max_eq_left hlength]

theorem parse?_padded (width n : Nat) : parse? (padded width n) = some n := by
  have hne : padded width n ≠ [] := by
    have hrender : render n ≠ [] := Nat.toDigits_ne_nil
    simp [padded, List.leftpad, hrender]
  have hdigits : (padded width n).all Char.isDigit := List.all_eq_true.2 fun c hc =>
    isDigit_of_mem_padded hc
  rw [parse?, if_pos ⟨hne, hdigits⟩, value_padded]

theorem not_mem_render {c : Char} (hc : c.isDigit = false) (n : Nat) : c ∉ render n := by
  intro hmem
  rw [render_isDigit hmem] at hc
  cases hc

theorem not_mem_padded {c : Char} (hc : c.isDigit = false) (width n : Nat) :
    c ∉ padded width n := by
  intro hmem
  rw [isDigit_of_mem_padded hmem] at hc
  cases hc

theorem render_injective {m n : Nat} (h : render m = render n) : m = n := by
  rw [← value_render m, h, value_render]

theorem padded_injective {width m n : Nat} (h : padded width m = padded width n) : m = n := by
  rw [← value_padded width m, h, value_padded]

/-- A number is written without leading zeros. -/
theorem eq_nil_of_render {n : Nat} {rest : Text} (h : render n = '0' :: rest) : rest = [] := by
  induction n using Nat.strongRecOn generalizing rest with
  | ind n ih =>
    by_cases hn : n < 10
    · rw [render, Nat.toDigits_of_lt_base hn] at h
      exact (List.cons.inj h).2.symm
    · rw [render, toDigits_eq_append (by decide) (by omega), ← render] at h
      obtain ⟨c, front, hfront⟩ := List.exists_cons_of_ne_nil
        (show render (n / 10) ≠ [] from Nat.toDigits_ne_nil)
      rw [hfront, List.cons_append] at h
      obtain ⟨rfl, -⟩ := List.cons.inj h
      -- The number without its last digit would be 0.
      obtain rfl := ih (n / 10) (by omega) hfront
      have hzero := value_render (n / 10)
      rw [hfront, show value ['0'] = 0 from rfl] at hzero
      omega

theorem digitChar_digit {c : Char} (h : c.isDigit) :
    digit c < 10 ∧ Nat.digitChar (digit c) = c := by
  have hchar : ∀ n < 10, Nat.digitChar n = Char.ofNat (n + 48) := by decide
  simp only [Char.isDigit, Bool.and_eq_true, decide_eq_true_eq, ge_iff_le,
    UInt32.le_iff_toNat_le] at h
  have hlow : 48 ≤ c.toNat := h.1
  have hhigh : c.toNat ≤ 57 := h.2
  have hdigit : digit c = c.toNat - 48 := rfl
  refine ⟨by omega, ?_⟩
  rw [hchar _ (by omega), hdigit, Nat.sub_add_cancel hlow, Char.ofNat_toNat]

/-- Digits without leading zeros are the writing of their number. -/
theorem render_value {ds : Text} (hne : ds ≠ []) (hdigits : ∀ c ∈ ds, c.isDigit)
    (hzero : ds.head? = some '0' → ds = ['0']) : render (value ds) = ds := by
  induction ds using List.reverseRecOn with
  | nil => exact absurd rfl hne
  | append_singleton ds c ih =>
    obtain ⟨hds, hc⟩ := List.forall_mem_append.1 hdigits
    obtain ⟨hlt, hchar⟩ := digitChar_digit (hc c (List.mem_singleton_self c))
    rw [value_append_singleton, Nat.mul_comm]
    obtain rfl | hds' := eq_or_ne ds []
    · rw [show value [] = 0 from rfl, Nat.mul_zero, Nat.zero_add, render,
        Nat.toDigits_of_lt_base hlt, hchar, List.nil_append]
    · have hhead : ds.head? ≠ some '0' := by
        intro hhead
        obtain ⟨more, rfl⟩ := List.head?_eq_some_iff.1 hhead
        have hone := congrArg List.length (hzero rfl)
        simp at hone
      have hrender : render (value ds) = ds := ih hds' hds fun h => absurd h hhead
      have hpos : 0 < value ds := by
        refine Nat.pos_of_ne_zero fun hnull => hhead ?_
        rw [← hrender, hnull]
        rfl
      rw [render, ← Nat.toDigits_append_toDigits (by decide) hpos hlt,
        Nat.toDigits_of_lt_base hlt, hchar, ← render, hrender]

end Decimal

namespace Hexadecimal

theorem value_append_singleton (ds : Text) (c : Char) :
    value (ds ++ [c]) = value ds * 16 + (digit? c).getD 0 := by
  simp [value]

theorem value_digitChar {n : Nat} (h : n < 16) : value [Nat.digitChar n] = n := by
  simp [value, digit?_digitChar n h]

/-- A number is read back. -/
theorem value_toDigits (n : Nat) : value (Nat.toDigits 16 n) = n := by
  induction n using Nat.strongRecOn with
  | ind n ih =>
    by_cases h : n < 16
    · rw [Nat.toDigits_of_lt_base h, value_digitChar h]
    · have hmod : n % 16 < 16 := Nat.mod_lt n (by decide)
      rw [Decimal.toDigits_eq_append (by decide) (by omega), value_append_singleton,
        ih (n / 16) (by omega), digit?_digitChar _ hmod, Option.getD_some]
      omega

theorem isSome_digit?_of_mem_toDigits {n : Nat} {c : Char} (h : c ∈ Nat.toDigits 16 n) :
    (digit? c).isSome := by
  induction n using Nat.strongRecOn with
  | ind n ih =>
    by_cases hn : n < 16
    · rw [Nat.toDigits_of_lt_base hn, List.mem_singleton] at h
      rw [h, digit?_digitChar n hn, Option.isSome_some]
    · rw [Decimal.toDigits_eq_append (by decide) (by omega), List.mem_append,
        List.mem_singleton] at h
      rcases h with h | rfl
      · exact ih (n / 16) (by omega) h
      · rw [digit?_digitChar _ (Nat.mod_lt n (by decide)), Option.isSome_some]

theorem digit?_lt {c : Char} {n : Nat} (h : digit? c = some n) : n < 16 := by
  unfold digit? at h
  split at h
  · next hdigit =>
    have hnine : c.toNat ≤ 0x39 := of_decide_eq_true (Bool.and_eq_true_iff.1 hdigit).2
    have hzero : '0'.toNat = 0x30 := rfl
    cases h
    omega
  split at h
  · next hlower =>
    have hf : c.toNat ≤ 0x66 := hlower.2
    have ha : 'a'.toNat = 0x61 := rfl
    cases h
    omega
  split at h
  · next hupper =>
    have hf : c.toNat ≤ 0x46 := hupper.2
    have ha : 'A'.toNat = 0x41 := rfl
    cases h
    omega
  · cases h

/-- Digits write a number that has so many places. -/
theorem value_lt {ds : Text} (h : ∀ c ∈ ds, (digit? c).isSome) : value ds < 16 ^ ds.length := by
  induction ds using List.reverseRecOn with
  | nil => decide
  | append_singleton ds c ih =>
    obtain ⟨hds, hc⟩ := List.forall_mem_append.1 h
    obtain ⟨d, hd⟩ := Option.isSome_iff_exists.1 (hc c (List.mem_singleton_self c))
    have hlt := digit?_lt hd
    have hrest := ih hds
    rw [value_append_singleton, hd, Option.getD_some, List.length_append, List.length_singleton,
      Nat.pow_succ]
    omega

end Hexadecimal

end FileServer
