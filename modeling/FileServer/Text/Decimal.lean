import FileServer.Text.Basic

/-!
# Decimal numbers

Numbers written with the digits 0 to 9, with or without a least width, and read back:

* `value_render`: reading what was written gives the number;
* `render_isDigit`: what is written has digits only.
-/

namespace FileServer.Decimal

/-- The number in decimal, without leading zeros. -/
def render (n : Nat) : Text := Nat.toDigits 10 n

/-- The number in decimal, with leading zeros up to a width. -/
def padded (width n : Nat) : Text := List.leftpad width '0' (render n)

/-- The value of a digit. -/
def digit (c : Char) : Nat := c.toNat - '0'.toNat

/-- The number that a list of digits writes. -/
def value (ds : Text) : Nat := ds.foldl (fun n c => n * 10 + digit c) 0

/-- Reads a nonempty list of digits. Leading zeros are allowed. -/
def parse? (t : Text) : Option Nat :=
  if t ≠ [] ∧ t.all Char.isDigit then some (value t) else none

theorem render_isDigit {n : Nat} {c : Char} (h : c ∈ render n) : c.isDigit :=
  Nat.isDigit_of_mem_toDigits (by decide) (by decide) h

theorem value_append_singleton (ds : Text) (c : Char) :
    value (ds ++ [c]) = value ds * 10 + digit c := by
  simp [value]

/-- The last digit of a number is the rest of the division by the base. -/
theorem toDigits_eq_append {base n : Nat} (hbase : 1 < base) (hn : base ≤ n) :
    Nat.toDigits base n = Nat.toDigits base (n / base) ++ [Nat.digitChar (n % base)] := by
  have hdiv : 0 < n / base := Nat.div_pos hn (by omega)
  have hmod : n % base < base := Nat.mod_lt n (by omega)
  rw [← Nat.toDigits_of_lt_base hmod, Nat.toDigits_append_toDigits hbase hdiv hmod,
    Nat.div_add_mod]

/-- Reading what was written gives the number. -/
theorem value_render (n : Nat) : value (render n) = n := by
  induction n using Nat.strongRecOn with
  | ind n ih =>
    have hdigit : ∀ d, d < 10 → digit (Nat.digitChar d) = d := by decide
    by_cases h : n < 10
    · simp [render, Nat.toDigits_of_lt_base h, value, hdigit n h]
    · have hsplit : render n = render (n / 10) ++ [Nat.digitChar (n % 10)] :=
        toDigits_eq_append (by decide) (by omega)
      rw [hsplit, value_append_singleton, ih (n / 10) (by omega), hdigit _ (by omega)]
      omega

end FileServer.Decimal
