import FileServer.Text.Decimal

/-!
# Numerals

Numbers as they are commonly written: with or without a sign, a decimal point and an exponent, and
the words for infinity and for what is not a number.
-/

namespace FileServer.Numeral

/-- A text without the sign at its front. -/
def withoutSign : Text → Text
  | '+' :: rest | '-' :: rest => rest
  | t => t

/-- Whether a text is an exponent. -/
def isExponent : Text → Bool
  | c :: rest => (c = 'e' || c = 'E') && (Decimal.parse? (withoutSign rest)).isSome
  | [] => false

/-- Whether a text is a numeral in digits without a sign. -/
def isUnsigned (t : Text) : Bool :=
  let whole := t.takeWhile Char.isDigit
  let rest := t.dropWhile Char.isDigit
  let fraction := if rest.head? = some '.' then (rest.drop 1).takeWhile Char.isDigit else []
  let rest := if rest.head? = some '.' then (rest.drop 1).dropWhile Char.isDigit else rest
  (whole ≠ [] || fraction ≠ []) && (rest = [] || isExponent rest)

/-- The words among the numerals. -/
def words : List Text := ["inf", "infinity", "nan"].map String.toList

/-- Whether a text is a numeral. -/
def isNumeral (t : Text) : Bool :=
  words.contains ((withoutSign t).map Char.toLower) || isUnsigned (withoutSign t)

end FileServer.Numeral
