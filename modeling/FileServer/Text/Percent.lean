import FileServer.Text.Utf8

/-!
# Percent encoding

A byte that may not stand in a link is written as a percent sign and two hexadecimal digits.

* `encode` keeps letters, digits and four more characters, and writes upper-case digits;
* `decode` undoes every complete escape, in either case, and leaves everything else as it is, a
  plus sign and an incomplete escape included.
-/

namespace FileServer.Percent

/-- Whether a byte stands for itself in an encoded text. -/
def isUnreserved (b : UInt8) : Bool :=
  let c := Char.ofNat b.toNat
  b < 0x80 && (c.isAlphanum || c == '-' || c == '_' || c == '.' || c == '~')

/-- The upper-case hexadecimal digit of a value below 16. -/
def hexDigit (n : Nat) : Char := (Nat.digitChar n).toUpper

/-- A byte in an encoded text. -/
def encodeByte (b : UInt8) : Text :=
  if isUnreserved b then [Char.ofNat b.toNat]
  else ['%', hexDigit (b.toNat / 16), hexDigit (b.toNat % 16)]

/-- The encoded form of a text. -/
def encode (t : Text) : Text := (Utf8.encode t).flatMap encodeByte

/-- The value of a hexadecimal digit. -/
def hexValue? (b : UInt8) : Option UInt8 :=
  if 0x30 ≤ b ∧ b ≤ 0x39 then some (b - 0x30)
  else if 0x41 ≤ b ∧ b ≤ 0x46 then some (b - 0x41 + 10)
  else if 0x61 ≤ b ∧ b ≤ 0x66 then some (b - 0x61 + 10)
  else none

/-- The byte that a percent sign and two digits stand for. -/
def escaped? (sign high low : UInt8) : Option UInt8 :=
  if sign = 0x25 then
    match hexValue? high, hexValue? low with
    | some h, some l => some (h * 16 + l)
    | _, _ => none
  else none

/-- The bytes with every complete escape replaced by the byte that it stands for. -/
def decode : Bytes → Bytes
  | b :: high :: low :: rest =>
    match escaped? b high low with
    | some c => c :: decode rest
    | none => b :: decode (high :: low :: rest)
  | short => short

/-- A byte other than the percent sign stands for itself. -/
theorem decode_cons_of_ne {b : UInt8} (hb : b ≠ 0x25) (bs : Bytes) :
    decode (b :: bs) = b :: decode bs := by
  match bs with
  | [] => simp [decode]
  | [_] => simp [decode]
  | _ :: _ :: _ => simp [decode, escaped?, hb]

end FileServer.Percent
