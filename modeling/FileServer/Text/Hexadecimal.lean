import FileServer.Text.Basic

/-!
# Hexadecimal digits

The values of the digits 0 to 9 and of the letters A to F in either case.

* `digit?_digitChar`: a digit that is written for a value has that value.
-/

namespace FileServer.Hexadecimal

/-- The value of a digit. -/
def digit? (c : Char) : Option Nat :=
  if c.isDigit then some (c.toNat - '0'.toNat)
  else if 'a' ≤ c ∧ c ≤ 'f' then some (c.toNat - 'a'.toNat + 10)
  else if 'A' ≤ c ∧ c ≤ 'F' then some (c.toNat - 'A'.toNat + 10)
  else none

/-- The number that a list of digits writes. -/
def value (ds : Text) : Nat := ds.foldl (fun n c => n * 16 + (digit? c).getD 0) 0

theorem digit?_digitChar : ∀ n < 16, digit? (Nat.digitChar n) = some n := by decide

end FileServer.Hexadecimal
