import FileServer.Text.Utf8

/-!
# Encoded text is read back

The decoder reads the bytes of an encoded character and stands where it stood before them. The
first byte announces how many follow, and the range in which the second has to be excludes what no
character is encoded as.

* `lead_two`, `lead_three`, `lead_four`: what the first byte of a character announces;
* `unitsFrom_encodeChar`: the bytes of a character are read as this character;
* `decode?_encode`: encoded text is read back;
* `encode_cons_ascii`: a character below 128 is encoded as one byte;
* `mem_of_mem_encode`: a byte below 128 of encoded text is a character of it.
-/

namespace FileServer.Utf8

/-! ## First bytes -/

theorem lead_one {b : UInt8} (h : b.toNat < 0x80) : lead b = .whole (Char.ofNat b.toNat) := by
  simp [lead, h]

theorem lead_two {b : UInt8} (hlow : 0xC2 ≤ b.toNat) (hhigh : b.toNat < 0xE0) :
    lead b = .begins ⟨b.toNat - 0xC0, 1, 0x80, 0xBF⟩ := by
  have hwhole : ¬ b.toNat < 0x80 := by omega
  have hnone : ¬ b.toNat < 0xC2 := by omega
  simp [lead, hwhole, hnone, hhigh]

/-- The range of the second byte leaves out overlong forms and surrogates. -/
theorem lead_three {b : UInt8} (hlow : 0xE0 ≤ b.toNat) (hhigh : b.toNat < 0xF0) :
    ∃ low high, lead b = .begins ⟨b.toNat - 0xE0, 2, low, high⟩ ∧
      ∀ n, low.toNat ≤ n ∧ n ≤ high.toNat ↔
        0x80 ≤ n ∧ n ≤ 0xBF ∧ (b.toNat = 0xE0 → 0xA0 ≤ n) ∧ (b.toNat = 0xED → n ≤ 0x9F) := by
  have hwhole : ¬ b.toNat < 0x80 := by omega
  have hnone : ¬ b.toNat < 0xC2 := by omega
  have htwo : ¬ b.toNat < 0xE0 := by omega
  by_cases hfirst : b.toNat = 0xE0
  · refine ⟨0xA0, 0xBF, by simp [lead, hfirst], fun n => ?_⟩
    rw [show (0xA0 : UInt8).toNat = 0xA0 from rfl, show (0xBF : UInt8).toNat = 0xBF from rfl]
    omega
  · by_cases hsurrogate : b.toNat = 0xED
    · refine ⟨0x80, 0x9F, by simp [lead, hsurrogate], fun n => ?_⟩
      rw [show (0x80 : UInt8).toNat = 0x80 from rfl, show (0x9F : UInt8).toNat = 0x9F from rfl]
      omega
    · refine ⟨0x80, 0xBF, ?_, fun n => ?_⟩
      · simp [lead, hwhole, hnone, htwo, hfirst, hsurrogate, hhigh]
      · rw [show (0x80 : UInt8).toNat = 0x80 from rfl, show (0xBF : UInt8).toNat = 0xBF from rfl]
        omega

/-- The range of the second byte leaves out overlong forms and what is above the last character. -/
theorem lead_four {b : UInt8} (hlow : 0xF0 ≤ b.toNat) (hhigh : b.toNat ≤ 0xF4) :
    ∃ low high, lead b = .begins ⟨b.toNat - 0xF0, 3, low, high⟩ ∧
      ∀ n, low.toNat ≤ n ∧ n ≤ high.toNat ↔
        0x80 ≤ n ∧ n ≤ 0xBF ∧ (b.toNat = 0xF0 → 0x90 ≤ n) ∧ (b.toNat = 0xF4 → n ≤ 0x8F) := by
  have hwhole : ¬ b.toNat < 0x80 := by omega
  have hnone : ¬ b.toNat < 0xC2 := by omega
  have htwo : ¬ b.toNat < 0xE0 := by omega
  have hthree : ¬ b.toNat < 0xF0 := by omega
  have hne : b.toNat ≠ 0xE0 ∧ b.toNat ≠ 0xED := by omega
  by_cases hfirst : b.toNat = 0xF0
  · refine ⟨0x90, 0xBF, by simp [lead, hfirst], fun n => ?_⟩
    rw [show (0x90 : UInt8).toNat = 0x90 from rfl, show (0xBF : UInt8).toNat = 0xBF from rfl]
    omega
  · by_cases hlast : b.toNat = 0xF4
    · refine ⟨0x80, 0x8F, by simp [lead, hlast], fun n => ?_⟩
      rw [show (0x80 : UInt8).toNat = 0x80 from rfl, show (0x8F : UInt8).toNat = 0x8F from rfl]
      omega
    · have hfour : b.toNat < 0xF4 := by omega
      refine ⟨0x80, 0xBF, ?_, fun n => ?_⟩
      · simp [lead, hwhole, hnone, htwo, hthree, hne, hfirst, hfour]
      · rw [show (0x80 : UInt8).toNat = 0x80 from rfl, show (0xBF : UInt8).toNat = 0xBF from rfl]
        omega

theorem lead_none {b : UInt8} (h : 0x80 ≤ b.toNat ∧ b.toNat < 0xC2 ∨ 0xF4 < b.toNat) :
    lead b = .none := by
  have hwhole : ¬ b.toNat < 0x80 := by omega
  obtain ⟨-, hbelow⟩ | habove := h
  · simp [lead, hwhole, hbelow]
  · have hbelow : ¬ b.toNat < 0xC2 ∧ ¬ b.toNat < 0xE0 ∧ ¬ b.toNat < 0xF0 ∧ ¬ b.toNat < 0xF4 := by
      omega
    have hne : b.toNat ≠ 0xE0 ∧ b.toNat ≠ 0xED ∧ b.toNat ≠ 0xF0 ∧ b.toNat ≠ 0xF4 := by omega
    simp [lead, hwhole, hbelow, hne]

/-- A sequence goes on with a byte from 128 on, and there is one with which it can. -/
theorem range_of_lead {b : UInt8} {p : Pending} (h : lead b = .begins p) :
    0x80 ≤ p.low ∧ p.low ≤ p.high := by
  have hrange : ∀ {value missing : Nat} {low high : UInt8},
      Lead.begins ⟨value, missing, low, high⟩ = .begins p → 0x80 ≤ low ∧ low ≤ high →
        0x80 ≤ p.low ∧ p.low ≤ p.high := by
    rintro _ _ _ _ ⟨⟩ h
    exact h
  unfold lead at h
  simp only at h
  split at h
  · cases h
  split at h
  · cases h
  -- from here on, one case for each range of first bytes
  split at h
  · exact hrange h (by decide)
  split at h
  · exact hrange h (by decide)
  split at h
  · exact hrange h (by decide)
  split at h
  · exact hrange h (by decide)
  split at h
  · exact hrange h (by decide)
  split at h
  · exact hrange h (by decide)
  split at h
  · exact hrange h (by decide)
  · cases h

/-! ## Sequences -/

theorem unitsFrom_begins {b : UInt8} {p : Pending} (h : lead b = .begins p) (bs : Bytes) :
    unitsFrom none (b :: bs) = unitsFrom (some p) bs := by
  simp [unitsFrom, step, h]

/-- The byte that carries the last six bits of a number. -/
def trailing (n : Nat) : UInt8 := UInt8.ofNat (n % 64 + 0x80)

theorem toNat_trailing (n : Nat) : (trailing n).toNat = n % 64 + 0x80 := by
  rw [trailing, UInt8.toNat_ofNat']
  omega

theorem trailing_range (n : Nat) :
    (0x80 : UInt8).toNat ≤ n % 64 + 0x80 ∧ n % 64 + 0x80 ≤ (0xBF : UInt8).toNat := by
  show 0x80 ≤ n % 64 + 0x80 ∧ n % 64 + 0x80 ≤ 0xBF
  omega

/-- A byte that carries six bits, and is not the last one of its sequence. -/
theorem unitsFrom_more {value missing n : Nat} {low high : UInt8}
    (h : low.toNat ≤ n % 64 + 0x80 ∧ n % 64 + 0x80 ≤ high.toNat) (bs : Bytes) :
    unitsFrom (some ⟨value, missing + 2, low, high⟩) (trailing n :: bs) =
      unitsFrom (some ⟨value * 64 + n % 64, missing + 1, 0x80, 0xBF⟩) bs := by
  have hrange : low ≤ trailing n ∧ trailing n ≤ high := by
    rw [UInt8.le_iff_toNat_le, UInt8.le_iff_toNat_le, toNat_trailing]
    exact h
  have hbits : (trailing n).toNat - 0x80 = n % 64 := by rw [toNat_trailing]; omega
  simp [unitsFrom, step, hrange, hbits]

/-- The last byte of a sequence. -/
theorem unitsFrom_last {value n : Nat} {low high : UInt8}
    (h : low.toNat ≤ n % 64 + 0x80 ∧ n % 64 + 0x80 ≤ high.toNat) (bs : Bytes) :
    unitsFrom (some ⟨value, 1, low, high⟩) (trailing n :: bs) =
      some (Char.ofNat (value * 64 + n % 64)) :: unitsFrom none bs := by
  have hrange : low ≤ trailing n ∧ trailing n ≤ high := by
    rw [UInt8.le_iff_toNat_le, UInt8.le_iff_toNat_le, toNat_trailing]
    exact h
  have hbits : (trailing n).toNat - 0x80 = n % 64 := by rw [toNat_trailing]; omega
  simp [unitsFrom, step, hrange, hbits]

/-! ## Characters -/

theorem unitsFrom_one {v : Nat} (h : v < 0x80) (rest : Bytes) :
    unitsFrom none (UInt8.ofNat v :: rest) = some (Char.ofNat v) :: unitsFrom none rest := by
  have hb : (UInt8.ofNat v).toNat = v := by rw [UInt8.toNat_ofNat']; omega
  have hlead := lead_one (b := UInt8.ofNat v) (by omega)
  rw [hb] at hlead
  simp [unitsFrom, step, hlead]

theorem unitsFrom_two {v : Nat} (hlow : 0x80 ≤ v) (hhigh : v < 0x800) (rest : Bytes) :
    unitsFrom none (UInt8.ofNat (v / 64 % 0x20 + 0xC0) :: trailing v :: rest) =
      some (Char.ofNat v) :: unitsFrom none rest := by
  have hb : (UInt8.ofNat (v / 64 % 0x20 + 0xC0)).toNat = v / 64 + 0xC0 := by
    rw [UInt8.toNat_ofNat']; omega
  have hlead := lead_two (b := UInt8.ofNat (v / 64 % 0x20 + 0xC0)) (by omega) (by omega)
  have hvalue : (v / 64 + 0xC0 - 0xC0) * 64 + v % 64 = v := by omega
  rw [unitsFrom_begins hlead, unitsFrom_last (trailing_range v), hb, hvalue]

theorem unitsFrom_three {v : Nat} (hlow : 0x800 ≤ v) (hhigh : v < 0x10000)
    (hvalid : v < 0xD800 ∨ 0xDFFF < v) (rest : Bytes) :
    unitsFrom none (UInt8.ofNat (v / 4096 % 0x10 + 0xE0) :: trailing (v / 64) :: trailing v ::
      rest) = some (Char.ofNat v) :: unitsFrom none rest := by
  have hb : (UInt8.ofNat (v / 4096 % 0x10 + 0xE0)).toNat = v / 4096 + 0xE0 := by
    rw [UInt8.toNat_ofNat']; omega
  obtain ⟨low, high, hlead, hrange⟩ :=
    lead_three (b := UInt8.ofNat (v / 4096 % 0x10 + 0xE0)) (by omega) (by omega)
  have hsecond := (hrange (v / 64 % 64 + 0x80)).2 (by omega)
  have hvalue : ((v / 4096 + 0xE0 - 0xE0) * 64 + v / 64 % 64) * 64 + v % 64 = v := by omega
  rw [unitsFrom_begins hlead, unitsFrom_more hsecond, unitsFrom_last (trailing_range v), hb,
    hvalue]

theorem unitsFrom_four {v : Nat} (hlow : 0x10000 ≤ v) (hhigh : v < 0x110000) (rest : Bytes) :
    unitsFrom none (UInt8.ofNat (v / 262144 % 0x08 + 0xF0) :: trailing (v / 4096) ::
      trailing (v / 64) :: trailing v :: rest) = some (Char.ofNat v) :: unitsFrom none rest := by
  have hb : (UInt8.ofNat (v / 262144 % 0x08 + 0xF0)).toNat = v / 262144 + 0xF0 := by
    rw [UInt8.toNat_ofNat']; omega
  obtain ⟨low, high, hlead, hrange⟩ :=
    lead_four (b := UInt8.ofNat (v / 262144 % 0x08 + 0xF0)) (by omega) (by omega)
  have hsecond := (hrange (v / 4096 % 64 + 0x80)).2 (by omega)
  have hvalue : (((v / 262144 + 0xF0 - 0xF0) * 64 + v / 4096 % 64) * 64 + v / 64 % 64) * 64 +
      v % 64 = v := by omega
  rw [unitsFrom_begins hlead, unitsFrom_more hsecond, unitsFrom_more (trailing_range (v / 64)),
    unitsFrom_last (trailing_range v), hb, hvalue]

theorem unitsFrom_encodeChar (c : Char) (rest : Bytes) :
    unitsFrom none (String.utf8EncodeChar c ++ rest) = some c :: unitsFrom none rest := by
  have hvalid : c.toNat < 0xD800 ∨ 0xDFFF < c.toNat ∧ c.toNat < 0x110000 := c.valid
  have hc : Char.ofNat c.toNat = c := Char.ofNat_toNat c
  unfold String.utf8EncodeChar
  simp only [show c.val.toNat = c.toNat from rfl]
  split
  · have := unitsFrom_one (v := c.toNat) (by omega) rest
    rwa [hc] at this
  split
  · have := unitsFrom_two (v := c.toNat) (by omega) (by omega) rest
    rwa [hc] at this
  split
  · have := unitsFrom_three (v := c.toNat) (by omega) (by omega) (by omega) rest
    rwa [hc] at this
  · have := unitsFrom_four (v := c.toNat) (by omega) (by omega) rest
    rwa [hc] at this

/-! ## Texts -/

/-- Encoded text is read as it is, whatever follows it. -/
theorem units_encode_append (t : Text) (bs : Bytes) :
    units (encode t ++ bs) = t.map some ++ units bs := by
  unfold units
  induction t with
  | nil => rfl
  | cons c t ih =>
    rw [show encode (c :: t) = String.utf8EncodeChar c ++ encode t from rfl, List.append_assoc,
      unitsFrom_encodeChar, ih, List.map_cons, List.cons_append]

theorem units_encode (t : Text) : units (encode t) = t.map some := by
  have hunits := units_encode_append t []
  rwa [List.append_nil, show units [] = [] from rfl, List.append_nil] at hunits

/-- Encoded text is read back. -/
theorem decode?_encode (t : Text) : decode? (encode t) = some t := by
  rw [decode?, units_encode]
  induction t with
  | nil => rfl
  | cons c t ih => simp [ih]

/-- A character below 128 is one byte. -/
theorem encode_cons_ascii {c : Char} (h : c.toNat < 0x80) (t : Text) :
    encode (c :: t) = UInt8.ofNat c.toNat :: encode t := by
  have hone : String.utf8EncodeChar c = [UInt8.ofNat c.toNat] := by
    rw [String.utf8EncodeChar]
    simp only [show c.val.toNat = c.toNat from rfl]
    rw [if_pos (by omega)]
  rw [encode, List.flatMap_cons, hone]
  rfl

theorem encode_ne_nil {t : Text} (h : t ≠ []) : encode t ≠ [] := by
  intro hnil
  have hread := decode?_encode t
  rw [hnil] at hread
  exact h (Option.some.inj hread).symm

/-- A byte below 128 of encoded text is a character of it, and no part of another. -/
theorem mem_of_mem_encode {b : UInt8} (hb : b.toNat < 0x80) {t : Text} (h : b ∈ encode t) :
    Char.ofNat b.toNat ∈ t := by
  obtain ⟨c, hc, h⟩ := List.mem_flatMap.1 h
  have hlarge : ∀ n, 0x80 ≤ n % 256 → b ≠ UInt8.ofNat n := by
    rintro n hn rfl
    rw [UInt8.toNat_ofNat'] at hb
    omega
  unfold String.utf8EncodeChar at h
  simp only [show c.val.toNat = c.toNat from rfl] at h
  split at h
  · obtain rfl := List.mem_singleton.1 h
    have hv : (UInt8.ofNat c.toNat).toNat = c.toNat := by rw [UInt8.toNat_ofNat']; omega
    rwa [hv, Char.ofNat_toNat]
  · -- every byte of a longer sequence has its highest bit set
    exfalso
    revert h
    split
    · simp only [List.mem_cons, List.not_mem_nil, or_false, not_or, imp_false]
      exact ⟨hlarge _ (by omega), hlarge _ (by omega)⟩
    split
    · simp only [List.mem_cons, List.not_mem_nil, or_false, not_or, imp_false]
      exact ⟨hlarge _ (by omega), hlarge _ (by omega), hlarge _ (by omega)⟩
    · simp only [List.mem_cons, List.not_mem_nil, or_false, not_or, imp_false]
      exact ⟨hlarge _ (by omega), hlarge _ (by omega), hlarge _ (by omega), hlarge _ (by omega)⟩

end FileServer.Utf8
