/-!
# Rounded numbers

Numbers with at most 53 significant binary places. A result that needs more is replaced by the
nearest number that does not, and by the even one of two that are equally near, so that equal
measures are told from unequal ones in the same way on every machine that computes so.
-/

namespace FileServer

/-- The number `significand` divided by two as often as `scale` says. -/
structure Rounded where
  significand : Nat
  scale : Nat
  deriving DecidableEq, Repr

namespace Rounded

/-- How often a fraction is doubled so that its whole part has 53 binary places. The fraction has
to be small enough to be doubled at all. -/
def scaleOf (n d : Nat) : Nat :=
  let scale := 52 + d.log2 - n.log2
  if (n <<< scale) / d < 0x10000000000000 then scale + 1 else scale

/-- The number nearest to a fraction. -/
def ofFraction (n d : Nat) : Rounded :=
  let scale := scaleOf n d
  let whole := (n <<< scale) / d
  let rest := (n <<< scale) % d
  ⟨if 2 * rest < d ∨ (2 * rest = d ∧ whole % 2 = 0) then whole else whole + 1, scale⟩

/-- The rounded sum. -/
def add (a b : Rounded) : Rounded :=
  ofFraction ((a.significand <<< b.scale) + (b.significand <<< a.scale)) (1 <<< (a.scale + b.scale))

/-- The rounded quotient by a whole number. -/
def divide (a : Rounded) (d : Nat) : Rounded := ofFraction a.significand (d <<< a.scale)

/-- Whether a number is at most as large as another. -/
def le (a b : Rounded) : Bool := a.significand <<< b.scale ≤ b.significand <<< a.scale

end Rounded

end FileServer
