import FileServer.Proofs.Text.Utf8

/-!
# Lossy decoding piece by piece

A byte below 128 is a character wherever it stands. It is no part of a longer sequence, and a
sequence that is open before it is ill-formed. Bytes that are cut at such a byte are therefore
decoded piece by piece, however ill-formed the pieces are.

* `needsTrailing_step`: an open sequence waits for a byte from 128 on;
* `decodeLossy_append_ascii`: bytes are decoded on either side of a byte below 128;
* `decodeLossy_encode`: encoded text is read back;
* `decodeLossy_encode_append`: encoded text is read back, whatever follows it.
-/

namespace FileServer.Utf8

/-- Whether the sequence that is open, if there is one, waits for a byte from 128 on. -/
def NeedsTrailing (pending : Option Pending) : Prop := ∀ p ∈ pending, 0x80 ≤ p.low

theorem needsTrailing_none : NeedsTrailing none := by
  rintro p ⟨⟩

theorem needsTrailing_of_lead {b : UInt8} {p : Pending} (h : lead b = .begins p) :
    NeedsTrailing (some p) := by
  rintro q ⟨⟩
  exact (range_of_lead h).1

/-- An open sequence waits for a byte from 128 on, whatever was read. -/
theorem needsTrailing_step (pending : Option Pending) (b : UInt8) :
    NeedsTrailing (step pending b).2 := by
  cases pending with
  | none =>
    simp only [step]
    split
    · exact needsTrailing_none
    · next hlead => exact needsTrailing_of_lead hlead
    · exact needsTrailing_none
  | some p =>
    simp only [step]
    split
    · split
      · exact needsTrailing_none
      · intro q hq
        obtain rfl := Option.some.inj hq
        dsimp only
        decide
    · split
      · exact needsTrailing_none
      · next hlead => exact needsTrailing_of_lead hlead
      · exact needsTrailing_none

/-- A byte below 128 ends what is open before it and is a character of its own. -/
theorem unitsFrom_cons_ascii {pending : Option Pending} (hpending : NeedsTrailing pending)
    {b : UInt8} (hb : b.toNat < 0x80) (bs : Bytes) :
    unitsFrom pending (b :: bs) =
      unitsFrom pending [] ++ some (Char.ofNat b.toNat) :: unitsFrom none bs := by
  cases pending with
  | none => simp [unitsFrom, step, lead_one hb]
  | some p =>
    have hlow : ¬ p.low ≤ b := by
      have := UInt8.le_iff_toNat_le.1 (hpending p rfl)
      rw [UInt8.le_iff_toNat_le]
      rw [show (0x80 : UInt8).toNat = 0x80 from rfl] at this
      omega
    simp [unitsFrom, step, hlow, lead_one hb]

theorem unitsFrom_append_ascii {pending : Option Pending} (hpending : NeedsTrailing pending)
    {b : UInt8} (hb : b.toNat < 0x80) (as bs : Bytes) :
    unitsFrom pending (as ++ b :: bs) =
      unitsFrom pending as ++ some (Char.ofNat b.toNat) :: unitsFrom none bs := by
  induction as generalizing pending with
  | nil => exact unitsFrom_cons_ascii hpending hb bs
  | cons a as ih =>
    rw [List.cons_append, unitsFrom, unitsFrom, ih (needsTrailing_step pending a),
      List.append_assoc]

/-- Bytes are decoded on either side of a byte below 128, which is a character of its own. -/
theorem decodeLossy_append_ascii {b : UInt8} (hb : b.toNat < 0x80) (as bs : Bytes) :
    decodeLossy (as ++ b :: bs) = decodeLossy as ++ Char.ofNat b.toNat :: decodeLossy bs := by
  rw [decodeLossy, units, unitsFrom_append_ascii needsTrailing_none hb, List.map_append,
    List.map_cons]
  rfl

/-- Encoded text is read back. -/
theorem decodeLossy_encode (t : Text) : decodeLossy (encode t) = t :=
  decodeLossy_of_decode? (decode?_encode t)

/-- Encoded text is read back, whatever follows it. -/
theorem decodeLossy_encode_append (t : Text) (bs : Bytes) :
    decodeLossy (encode t ++ bs) = t ++ decodeLossy bs := by
  rw [decodeLossy, units_encode_append, List.map_append, List.map_map]
  exact congrArg (· ++ decodeLossy bs) (List.map_id t)

end FileServer.Utf8
