import FileServer.Proofs.Text.Utf8

/-!
# Only encoded text is read

Bytes that are read as text without an ill-formed part are the encoding of that text, so every text
has one form in bytes. A decoder that accepted overlong forms or surrogates would break this: the
ranges of the second byte are what excludes them.

* `unitsFrom_some_eq`: the next byte of a sequence that is read to its end;
* `exists_of_unitsFrom_cons`: the bytes that are read as a character are its encoding;
* `decode?_eq_some_iff`: bytes are read as a text exactly if they encode it;
* `exists_of_encode_eq_append`: a last byte below 128 is the last character.
-/

namespace FileServer.Utf8

/-! ## Encoded characters -/

theorem encodeChar_ofNat {v : Nat} (h : v < 0xD800 ∨ 0xDFFF < v ∧ v < 0x110000) :
    String.utf8EncodeChar (Char.ofNat v) =
      if v ≤ 0x7F then [UInt8.ofNat v]
      else if v ≤ 0x7FF then [UInt8.ofNat (v / 64 % 0x20 + 0xC0), trailing v]
      else if v ≤ 0xFFFF then
        [UInt8.ofNat (v / 4096 % 0x10 + 0xE0), trailing (v / 64), trailing v]
      else
        [UInt8.ofNat (v / 262144 % 0x08 + 0xF0), trailing (v / 4096), trailing (v / 64),
          trailing v] := by
  have hv : (Char.ofNat v).val.toNat = v := by
    rw [Char.ofNat, dif_pos (show v.isValidChar from h)]
    rfl
  unfold String.utf8EncodeChar
  simp only [hv]
  rfl

theorem eq_ofNat_iff {b : UInt8} {n : Nat} : b = UInt8.ofNat n ↔ b.toNat = n % 256 := by
  rw [← UInt8.toNat_inj, UInt8.toNat_ofNat']

theorem eq_trailing_iff {b : UInt8} {n : Nat} : b = trailing n ↔ b.toNat = n % 64 + 0x80 := by
  rw [← UInt8.toNat_inj, toNat_trailing]

/-! ## Sequences that are read to their end -/

/-- The next byte of a sequence is in its range, if no part of the bytes is ill-formed. -/
theorem unitsFrom_some_eq {value missing : Nat} {low high : UInt8} {bs : Bytes} {t : Text}
    (h : unitsFrom (some ⟨value, missing, low, high⟩) bs = t.map some) :
    ∃ b rest, bs = b :: rest ∧ low.toNat ≤ b.toNat ∧ b.toNat ≤ high.toNat ∧
      if missing ≤ 1 then
        ∃ t', t = Char.ofNat (value * 64 + (b.toNat - 0x80)) :: t' ∧
          unitsFrom none rest = t'.map some
      else
        unitsFrom (some ⟨value * 64 + (b.toNat - 0x80), missing - 1, 0x80, 0xBF⟩) rest =
          t.map some := by
  have hwell : ∀ us, none :: us ≠ t.map some := by
    intro us heq
    have := List.mem_map.1 (heq ▸ List.mem_cons_self)
    simp at this
  cases bs with
  | nil => exact absurd h (hwell [])
  | cons b rest =>
    rw [unitsFrom, step] at h
    split at h
    · next hrange =>
      refine ⟨b, rest, rfl, hrange.1, hrange.2, ?_⟩
      simp only at h
      split at h
      · next hmissing =>
        rw [if_pos hmissing]
        cases t with
        | nil => simp at h
        | cons c t =>
          simp only [List.singleton_append, List.map_cons, List.cons.injEq, Option.some.injEq] at h
          exact ⟨t, by rw [h.1], h.2⟩
      · next hmissing =>
        rw [if_neg hmissing]
        simpa using h
    · split at h <;> exact absurd h (hwell _)

/-- The bytes that are read as a character are its encoding. -/
theorem exists_of_unitsFrom_cons {b : UInt8} {bs : Bytes} {t : Text}
    (h : unitsFrom none (b :: bs) = t.map some) :
    ∃ c t' rest, t = c :: t' ∧ b :: bs = String.utf8EncodeChar c ++ rest ∧
      unitsFrom none rest = t'.map some := by
  by_cases hone : b.toNat < 0x80
  · rw [unitsFrom, step, lead_one hone] at h
    cases t with
    | nil => cases h
    | cons c t =>
      obtain ⟨hc, hrest⟩ := List.cons.inj h
      obtain rfl := Option.some.inj hc
      refine ⟨_, t, bs, rfl, ?_, hrest⟩
      rw [encodeChar_ofNat (by omega), if_pos (by omega), UInt8.ofNat_toNat]
      rfl
  by_cases hnone : b.toNat < 0xC2 ∨ 0xF4 < b.toNat
  · rw [unitsFrom, step, lead_none (by omega)] at h
    cases t with
    | nil => cases h
    | cons c t => cases (List.cons.inj h).1
  by_cases htwo : b.toNat < 0xE0
  · rw [unitsFrom_begins (lead_two (by omega) htwo)] at h
    obtain ⟨b₁, rest, rfl, (hlow₁ : 0x80 ≤ _), (hhigh₁ : _ ≤ 0xBF), t', rfl, hrest⟩ :=
      unitsFrom_some_eq h
    refine ⟨_, t', rest, rfl, ?_, hrest⟩
    rw [encodeChar_ofNat (by omega), if_neg (by omega), if_pos (by omega)]
    simp only [List.cons_append, List.nil_append, List.cons.injEq, eq_ofNat_iff, eq_trailing_iff,
      and_true]
    omega
  by_cases hthree : b.toNat < 0xF0
  · obtain ⟨low, high, hlead, hrange⟩ := lead_three (b := b) (by omega) hthree
    rw [unitsFrom_begins hlead] at h
    obtain ⟨b₁, rest, rfl, hlow, hhigh, hread⟩ := unitsFrom_some_eq h
    obtain ⟨hlow₁, hhigh₁, hover, hsurrogate⟩ := (hrange b₁.toNat).1 ⟨hlow, hhigh⟩
    obtain ⟨b₂, rest, rfl, (hlow₂ : 0x80 ≤ _), (hhigh₂ : _ ≤ 0xBF), t', rfl, hrest⟩ :=
      unitsFrom_some_eq hread
    refine ⟨_, t', rest, rfl, ?_, hrest⟩
    rw [encodeChar_ofNat (by omega), if_neg (by omega), if_neg (by omega), if_pos (by omega)]
    simp only [List.cons_append, List.nil_append, List.cons.injEq, eq_ofNat_iff, eq_trailing_iff,
      and_true]
    omega
  · obtain ⟨low, high, hlead, hrange⟩ := lead_four (b := b) (by omega) (by omega)
    rw [unitsFrom_begins hlead] at h
    obtain ⟨b₁, rest, rfl, hlow, hhigh, hread⟩ := unitsFrom_some_eq h
    obtain ⟨hlow₁, hhigh₁, hover, hlast⟩ := (hrange b₁.toNat).1 ⟨hlow, hhigh⟩
    obtain ⟨b₂, rest, rfl, (hlow₂ : 0x80 ≤ _), (hhigh₂ : _ ≤ 0xBF), hread⟩ :=
      unitsFrom_some_eq hread
    obtain ⟨b₃, rest, rfl, (hlow₃ : 0x80 ≤ _), (hhigh₃ : _ ≤ 0xBF), t', rfl, hrest⟩ :=
      unitsFrom_some_eq hread
    refine ⟨_, t', rest, rfl, ?_, hrest⟩
    rw [encodeChar_ofNat (by omega), if_neg (by omega), if_neg (by omega), if_neg (by omega)]
    simp only [List.cons_append, List.nil_append, List.cons.injEq, eq_ofNat_iff, eq_trailing_iff,
      and_true]
    omega

theorem eq_encode_of_units {bs : Bytes} {t : Text} (h : unitsFrom none bs = t.map some) :
    bs = encode t := by
  induction t generalizing bs with
  | nil =>
    cases bs with
    | nil => rfl
    | cons b bs =>
      obtain ⟨c, t', -, ht, -⟩ := exists_of_unitsFrom_cons h
      cases ht
  | cons c t ih =>
    cases bs with
    | nil => cases h
    | cons b bs =>
      obtain ⟨c, t, rest, ht, hbytes, hrest⟩ := exists_of_unitsFrom_cons h
      obtain ⟨rfl, rfl⟩ := List.cons.inj ht
      rw [hbytes, ih hrest]
      rfl

theorem units_eq_of_decode? {bs : Bytes} {t : Text} (h : decode? bs = some t) :
    units bs = t.map some := by
  rw [decode?] at h
  generalize units bs = us at h ⊢
  induction us generalizing t with
  | nil =>
    obtain rfl : [] = t := Option.some.inj h
    rfl
  | cons u us ih =>
    cases u with
    | none => simp at h
    | some c =>
      obtain ⟨t', ht', rfl⟩ : ∃ t', us.mapM id = some t' ∧ c :: t' = t := by
        simpa [Option.bind_eq_some_iff] using h
      rw [List.map_cons, ih ht']

/-- Bytes are read as a text exactly if they encode it. -/
theorem decode?_eq_some_iff {bs : Bytes} {t : Text} : decode? bs = some t ↔ bs = encode t := by
  constructor
  · intro h
    exact eq_encode_of_units (units_eq_of_decode? h)
  · rintro rfl
    exact decode?_encode t

theorem encode_injective {s t : Text} (h : encode s = encode t) : s = t := by
  have hs := decode?_encode s
  rw [h, decode?_encode] at hs
  exact (Option.some.inj hs).symm

/-! ## Last characters -/

/-- A last byte below 128 is the last character of the text. -/
theorem exists_of_encode_eq_append {t : Text} {bs : Bytes} {b : UInt8} (hb : b.toNat < 0x80)
    (h : encode t = bs ++ [b]) : ∃ s, t = s ++ [Char.ofNat b.toNat] ∧ encode s = bs := by
  obtain rfl | ⟨s, c, rfl⟩ := t.eq_nil_or_concat
  · simp at h
  obtain hnil | ⟨first, last, hlast⟩ := (encode [c]).eq_nil_or_concat
  · exact absurd hnil (encode_ne_nil (by simp))
  rw [List.concat_eq_append] at h hlast ⊢
  rw [encode_append, hlast, ← List.append_assoc, List.append_singleton_inj] at h
  obtain ⟨hbytes, rfl⟩ := h
  have hmem : last ∈ encode [c] := by simp [hlast]
  obtain rfl : Char.ofNat last.toNat = c := List.mem_singleton.1 (mem_of_mem_encode hb hmem)
  have hwhole : encode [Char.ofNat last.toNat] = [last] := by
    rw [encode, List.flatMap_singleton, encodeChar_ofNat (by omega), if_pos (by omega),
      UInt8.ofNat_toNat]
  rw [hwhole] at hlast
  obtain rfl : first = [] := by
    have := congrArg List.length hlast
    simpa using this
  exact ⟨s, rfl, by rwa [List.append_nil] at hbytes⟩

end FileServer.Utf8
