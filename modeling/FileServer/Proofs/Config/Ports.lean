import Mathlib.Algebra.Group.Int.Defs
import FileServer.Config.Basic

/-!
# Ports in writing

A port is written as an integer in decimal, with or without a sign, and has any number of leading
zeros. It is read in 64 bits, digit by digit, which refuses what does not fit; no port is lost by
that, and what does fit is refused unless it is a port.

* `boundedDigits_eq_ok_iff`: digits are read as their number if it is within the bound;
* `signed64_eq_ok_iff`: the integers that are read;
* `portOfText_eq_ok_iff`: the texts that are read as a port.
-/

namespace FileServer

namespace Decimal

/-- Whether a text writes an integer: digits, before which a sign may stand. -/
inductive IsInteger : Text → Int → Prop
  | unsigned {ds : Text} (hne : ds ≠ []) (hdigits : ∀ c ∈ ds, c.isDigit) :
      IsInteger ds (value ds)
  | plus {ds : Text} (hne : ds ≠ []) (hdigits : ∀ c ∈ ds, c.isDigit) :
      IsInteger ('+' :: ds) (value ds)
  | minus {ds : Text} (hne : ds ≠ []) (hdigits : ∀ c ∈ ds, c.isDigit) :
      IsInteger ('-' :: ds) (-value ds)

theorem isInteger_plus_iff {ds : Text} {n : Int} :
    IsInteger ('+' :: ds) n ↔ ds ≠ [] ∧ (∀ c ∈ ds, c.isDigit) ∧ (value ds : Int) = n := by
  constructor
  · intro h
    cases h with
    | unsigned _ hdigits => exact absurd (hdigits '+' List.mem_cons_self) (by decide)
    | plus hne hdigits => exact ⟨hne, hdigits, rfl⟩
  · rintro ⟨hne, hdigits, rfl⟩
    exact .plus hne hdigits

theorem isInteger_minus_iff {ds : Text} {n : Int} :
    IsInteger ('-' :: ds) n ↔ ds ≠ [] ∧ (∀ c ∈ ds, c.isDigit) ∧ -(value ds : Int) = n := by
  constructor
  · intro h
    cases h with
    | unsigned _ hdigits => exact absurd (hdigits '-' List.mem_cons_self) (by decide)
    | minus hne hdigits => exact ⟨hne, hdigits, rfl⟩
  · rintro ⟨hne, hdigits, rfl⟩
    exact .minus hne hdigits

theorem isInteger_iff {ds : Text} {n : Int} (hplus : ds.head? ≠ some '+')
    (hminus : ds.head? ≠ some '-') :
    IsInteger ds n ↔ ds ≠ [] ∧ (∀ c ∈ ds, c.isDigit) ∧ (value ds : Int) = n := by
  constructor
  · intro h
    cases h with
    | unsigned hne hdigits => exact ⟨hne, hdigits, rfl⟩
    | plus => exact absurd rfl hplus
    | minus => exact absurd rfl hminus
  · rintro ⟨hne, hdigits, rfl⟩
    exact .unsigned hne hdigits

/-- A number does not get smaller with more digits. -/
theorem le_foldl_digits (n : Nat) (ds : Text) : n ≤ ds.foldl (fun n c => n * 10 + digit c) n := by
  induction ds generalizing n with
  | nil => exact Nat.le_refl n
  | cons d ds ih =>
    have hrest := ih (n * 10 + digit d)
    rw [List.foldl_cons]
    omega

end Decimal

/-! ## Digits within a bound -/

theorem boundedDigits_foldl {bound n m : Nat} {overflow : ValueProblem} {ds : Text}
    (hn : n ≤ bound) : boundedDigits bound overflow n ds = .ok m ↔
      (∀ c ∈ ds, c.isDigit) ∧ ds.foldl (fun n c => n * 10 + Decimal.digit c) n = m ∧
        m ≤ bound := by
  induction ds generalizing n with
  | nil =>
    rw [boundedDigits, Except.ok.injEq, List.foldl_nil]
    constructor
    · rintro rfl
      exact ⟨List.forall_mem_nil _, rfl, hn⟩
    · rintro ⟨-, rfl, -⟩
      rfl
  | cons d ds ih =>
    rw [boundedDigits, List.forall_mem_cons, List.foldl_cons]
    by_cases hdigit : d.isDigit
    · rw [if_neg (by simp [hdigit])]
      split
      · next hover =>
        -- No further digit brings the number back below the bound.
        have hle := Decimal.le_foldl_digits (n * 10 + Decimal.digit d) ds
        constructor
        · intro h
          cases h
        · rintro ⟨-, rfl, hbound⟩
          omega
      · next hfits => simp [ih (Nat.le_of_not_lt hfits), hdigit]
    · simp [hdigit]

theorem boundedDigits_eq_ok_iff {bound m : Nat} {overflow : ValueProblem} {ds : Text} :
    boundedDigits bound overflow 0 ds = .ok m ↔
      (∀ c ∈ ds, c.isDigit) ∧ Decimal.value ds = m ∧ m ≤ bound :=
  boundedDigits_foldl (Nat.zero_le bound)

/-! ## Signed numbers -/

theorem map_boundedDigits_eq_ok_iff {bound : Nat} {overflow : ValueProblem} {ds : Text}
    {f : Nat → Int} {n : Int} : (boundedDigits bound overflow 0 ds).map f = .ok n ↔
      (∀ c ∈ ds, c.isDigit) ∧ f (Decimal.value ds) = n ∧ Decimal.value ds ≤ bound := by
  cases hread : boundedDigits bound overflow 0 ds with
  | error problem =>
    constructor
    · intro h
      cases h
    · rintro ⟨hdigits, -, hbound⟩
      rw [boundedDigits_eq_ok_iff.2 ⟨hdigits, rfl, hbound⟩] at hread
      cases hread
  | ok m =>
    obtain ⟨hdigits, rfl, hbound⟩ := boundedDigits_eq_ok_iff.1 hread
    constructor
    · intro h
      exact ⟨hdigits, Except.ok.inj h, hbound⟩
    · rintro ⟨-, rfl, -⟩
      rfl

theorem signed64_plus {ds : Text} (h : ds ≠ []) : signed64 ('+' :: ds) =
    (boundedDigits (UInt64.size / 2 - 1) .tooLarge 0 ds).map Int.ofNat := by
  obtain ⟨d, ds, rfl⟩ := List.exists_cons_of_ne_nil h
  rfl

theorem signed64_minus {ds : Text} (h : ds ≠ []) : signed64 ('-' :: ds) =
    (boundedDigits (UInt64.size / 2) .tooSmall 0 ds).map fun n => -Int.ofNat n := by
  obtain ⟨d, ds, rfl⟩ := List.exists_cons_of_ne_nil h
  rfl

theorem signed64_unsigned {ds : Text} (h : ds ≠ []) (hplus : ds.head? ≠ some '+')
    (hminus : ds.head? ≠ some '-') : signed64 ds =
      (boundedDigits (UInt64.size / 2 - 1) .tooLarge 0 ds).map Int.ofNat := by
  unfold signed64
  split
  · exact absurd rfl h
  · exact absurd rfl hplus
  · exact absurd rfl hminus
  · exact absurd rfl hplus
  · exact absurd rfl hminus
  · rfl

/-- Nothing is read without digits. -/
theorem signed64_sign {t : Text} (h : t = [] ∨ t = ['+'] ∨ t = ['-']) (n : Int) :
    signed64 t ≠ .ok n := by
  obtain rfl | rfl | rfl := h
  · rintro ⟨⟩
  · rintro ⟨⟩
  · rintro ⟨⟩

/-- Digits after a sign, or without one, are read if the integer is within 64 bits. -/
theorem signed64_of_digits {t ds : Text} {bound : Nat} {overflow : ValueProblem} {f : Nat → Int}
    {n : Int} (hne : ds ≠ []) (hread : signed64 t = (boundedDigits bound overflow 0 ds).map f)
    (hwrites : Decimal.IsInteger t n ↔
      ds ≠ [] ∧ (∀ c ∈ ds, c.isDigit) ∧ f (Decimal.value ds) = n)
    (hbound : ∀ m, m ≤ bound ↔ -2 ^ 63 ≤ f m ∧ f m < 2 ^ 63) :
    signed64 t = .ok n ↔ Decimal.IsInteger t n ∧ -2 ^ 63 ≤ n ∧ n < 2 ^ 63 := by
  rw [hread, map_boundedDigits_eq_ok_iff, hwrites]
  constructor
  · rintro ⟨hdigits, rfl, hle⟩
    exact ⟨⟨hne, hdigits, rfl⟩, (hbound _).1 hle⟩
  · rintro ⟨⟨-, hdigits, rfl⟩, hrange⟩
    exact ⟨hdigits, rfl, (hbound _).2 hrange⟩

/-- What is read is what is written, if it has at most 64 bits. -/
theorem signed64_eq_ok_iff {t : Text} {n : Int} :
    signed64 t = .ok n ↔ Decimal.IsInteger t n ∧ -2 ^ 63 ≤ n ∧ n < 2 ^ 63 := by
  have hsize : UInt64.size / 2 = 2 ^ 63 := by decide
  have hpositive : ∀ m, m ≤ UInt64.size / 2 - 1 ↔ -2 ^ 63 ≤ Int.ofNat m ∧ Int.ofNat m < 2 ^ 63 := by
    intro m
    rw [Int.ofNat_eq_natCast]
    omega
  have hnegative : ∀ m, m ≤ UInt64.size / 2 ↔
      -2 ^ 63 ≤ -Int.ofNat m ∧ -Int.ofNat m < 2 ^ 63 := by
    intro m
    rw [Int.ofNat_eq_natCast]
    omega
  by_cases hplus : t.head? = some '+'
  · obtain ⟨ds, rfl⟩ := List.head?_eq_some_iff.1 hplus
    by_cases hne : ds = []
    · simp [hne, signed64_sign, Decimal.isInteger_plus_iff]
    · exact signed64_of_digits hne (signed64_plus hne) Decimal.isInteger_plus_iff hpositive
  by_cases hminus : t.head? = some '-'
  · obtain ⟨ds, rfl⟩ := List.head?_eq_some_iff.1 hminus
    by_cases hne : ds = []
    · simp [hne, signed64_sign, Decimal.isInteger_minus_iff]
    · exact signed64_of_digits hne (signed64_minus hne) Decimal.isInteger_minus_iff hnegative
  · have hwrites := Decimal.isInteger_iff (n := n) hplus hminus
    by_cases hne : t = []
    · rw [hwrites]
      simp [hne, signed64_sign]
    · exact signed64_of_digits hne (signed64_unsigned hne hplus hminus) hwrites hpositive

/-! ## Ports -/

/-- Whether a text writes a port: an integer from 0 to 65535. -/
def IsPort (t : Text) (port : UInt16) : Prop :=
  ∃ n, Decimal.IsInteger t n ∧ 0 ≤ n ∧ n ≤ 65535 ∧ port = UInt16.ofNat n.toNat

theorem portOfText_eq_ok_iff {t : Text} {port : UInt16} :
    portOfText t = .ok port ↔ IsPort t port := by
  rw [portOfText]
  constructor
  · intro h
    split at h
    · cases h
    · next n hn =>
      split at h
      · next hrange =>
        exact ⟨n, (signed64_eq_ok_iff.1 hn).1, hrange.1, hrange.2, (Except.ok.inj h).symm⟩
      · cases h
  · rintro ⟨n, hn, hle, hlt, rfl⟩
    rw [signed64_eq_ok_iff.2 ⟨hn, by omega, by omega⟩]
    simp only [if_pos (And.intro hle hlt)]

end FileServer
