import FileServer.Text.Basic

/-!
# UTF-8

The encoding of text, and a decoder that reads a byte at a time. The decoder finds the well-formed
sequences and, between them, the maximal ill-formed parts: the longest beginnings of a well-formed
sequence, or single bytes that begin none (the Unicode standard's substitution of maximal
subparts). The two ways to read bytes as text share it:

* `decode?`: the text, unless some part is ill-formed;
* `decodeLossy`: the text with U+FFFD for every ill-formed part.
-/

namespace FileServer.Utf8

/-- A well-formed sequence that has begun: the value of its bits so far, the number of bytes that
are missing, and the range of the next byte. -/
structure Pending where
  value : Nat
  missing : Nat
  low : UInt8
  high : UInt8
  deriving DecidableEq, Repr

/-- What the first byte of a sequence announces. -/
inductive Lead where
  /-- The byte is a whole sequence. -/
  | whole (c : Char)
  /-- More bytes have to follow. -/
  | begins (p : Pending)
  /-- No sequence begins with this byte. -/
  | none
  deriving DecidableEq, Repr

/-- Reads the first byte of a sequence. The ranges of the second byte exclude overlong forms,
surrogates and values above U+10FFFF. -/
def lead (b : UInt8) : Lead :=
  let n := b.toNat
  if n < 0x80 then .whole (Char.ofNat n)
  else if n < 0xC2 then .none
  else if n < 0xE0 then .begins ⟨n - 0xC0, 1, 0x80, 0xBF⟩
  else if n = 0xE0 then .begins ⟨0, 2, 0xA0, 0xBF⟩
  else if n = 0xED then .begins ⟨0xD, 2, 0x80, 0x9F⟩
  else if n < 0xF0 then .begins ⟨n - 0xE0, 2, 0x80, 0xBF⟩
  else if n = 0xF0 then .begins ⟨0, 3, 0x90, 0xBF⟩
  else if n < 0xF4 then .begins ⟨n - 0xF0, 3, 0x80, 0xBF⟩
  else if n = 0xF4 then .begins ⟨4, 3, 0x80, 0x8F⟩
  else .none

/-- What has been read when one more byte has come, and the sequence that is then open. A unit is
a character, or `none` for an ill-formed part. -/
def step : Option Pending → UInt8 → List (Option Char) × Option Pending
  | none, b =>
    match lead b with
    | .whole c => ([some c], none)
    | .begins p => ([], some p)
    | .none => ([none], none)
  | some p, b =>
    if p.low ≤ b ∧ b ≤ p.high then
      let value := p.value * 64 + (b.toNat - 0x80)
      if p.missing ≤ 1 then ([some (Char.ofNat value)], none)
      else ([], some ⟨value, p.missing - 1, 0x80, 0xBF⟩)
    else
      match lead b with
      | .whole c => ([none, some c], none)
      | .begins q => ([none], some q)
      | .none => ([none, none], none)

/-- The units of a byte sequence, when a sequence may be open before it. A sequence that is still
open at the end is an ill-formed part. -/
def unitsFrom : Option Pending → Bytes → List (Option Char)
  | none, [] => []
  | some _, [] => [none]
  | pending, b :: bs => (step pending b).1 ++ unitsFrom (step pending b).2 bs

/-- The characters and ill-formed parts of a byte sequence, in order. -/
def units (bs : Bytes) : List (Option Char) := unitsFrom none bs

/-- The text of well-formed bytes. -/
def decode? (bs : Bytes) : Option Text := (units bs).mapM id

/-- The character that stands for what cannot be decoded. -/
def replacement : Char := '\uFFFD'

/-- The text of any bytes, each maximal ill-formed part replaced by U+FFFD. -/
def decodeLossy (bs : Bytes) : Text := (units bs).map (·.getD replacement)

/-- The UTF-8 form of a text. -/
def encode (t : Text) : Bytes := t.flatMap String.utf8EncodeChar

@[simp] theorem encode_nil : encode [] = [] := rfl

@[simp] theorem encode_append (s t : Text) : encode (s ++ t) = encode s ++ encode t := by
  simp [encode]

theorem encode_flatMap {α : Type} (f : α → Text) (xs : List α) :
    encode (xs.flatMap f) = xs.flatMap fun x => encode (f x) :=
  List.flatMap_assoc

/-- The bytes of a string are its text, encoded. -/
theorem encode_toList (s : String) : encode s.toList = s.toByteArray.data.toList := by
  rw [← String.utf8Encode_toList, List.utf8Encode, List.data_toByteArray]
  rfl

/-- Well-formed bytes have the same text both ways. -/
theorem decodeLossy_of_decode? {bs : Bytes} {t : Text} (h : decode? bs = some t) :
    decodeLossy bs = t := by
  simp only [decode?, decodeLossy] at *
  generalize units bs = us at h
  induction us generalizing t with
  | nil => simp_all
  | cons u us ih =>
    cases u with
    | none => simp at h
    | some c =>
      obtain ⟨rest, hrest, rfl⟩ : ∃ rest, us.mapM id = some rest ∧ c :: rest = t := by
        simpa [Option.bind_eq_some_iff] using h
      simp [ih hrest]

end FileServer.Utf8
