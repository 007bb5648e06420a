import FileServer.Proofs.Text.Lossy
import FileServer.Proofs.Text.Utf8Exact

/-!
# What is replaced in ill-formed bytes

Bytes that are no encoded text have encoded characters in them, and other parts. Where no character
stands, the part that is replaced is the longest beginning of one, or a single byte if none begins
there. This cuts bytes in one way, and the decoder finds the cuts: an open sequence can always be
completed to a character as long as each byte was in its range, and never once a byte was not.

* `exists_completion`: an open sequence can be completed;
* `exists_isUnit`: what the decoder finds first is a character or a part that is replaced;
* `units_of_isIllFormed`: it finds every such part;
* `isLossyText_iff`: the text that is read has a replacement for each of them;
* `exists_of_decodeLossy_eq_append`: a character below 128 that is read is a byte.
-/

namespace FileServer.Utf8

/-- Whether bytes are the beginning of an encoded character. -/
def IsBeginning (part : Bytes) : Prop := ∃ c, part <+: String.utf8EncodeChar c

/-- A part of bytes that is replaced as a whole, and what follows it. -/
structure IsIllFormed (part rest : Bytes) : Prop where
  /-- There is no character in its place. -/
  unencoded : ∀ c, ¬ String.utf8EncodeChar c <+: part ++ rest
  nonempty : part ≠ []
  /-- It is the beginning of a character or a single byte. -/
  begins : IsBeginning part ∨ part.length = 1
  /-- No longer part is the beginning of a character. -/
  longest : ∀ longer, longer <+: part ++ rest → IsBeginning longer → longer.length ≤ part.length

/-- Whether a text is what bytes are read as, with one replacement for each ill-formed part. -/
inductive IsLossyText : Bytes → Text → Prop
  | nil : IsLossyText [] []
  | char (c : Char) {rest : Bytes} {t : Text} (h : IsLossyText rest t) :
      IsLossyText (String.utf8EncodeChar c ++ rest) (c :: t)
  | illFormed {part rest : Bytes} {t : Text} (hpart : IsIllFormed part rest)
      (h : IsLossyText rest t) : IsLossyText (part ++ rest) (replacement :: t)

/-! ## Characters -/

theorem units_encodeChar_append (c : Char) (rest : Bytes) :
    units (String.utf8EncodeChar c ++ rest) = some c :: units rest :=
  unitsFrom_encodeChar c rest

/-- Bytes that are read as one character encode it. -/
theorem eq_encodeChar_of_units {bs : Bytes} {c : Char} (h : units bs = [some c]) :
    bs = String.utf8EncodeChar c := by
  have hbytes : bs = encode [c] := eq_encode_of_units h
  rw [hbytes, encode, List.flatMap_singleton]

/-! ## Open sequences -/

/-- Whether bytes open a sequence: they are read without a character or an ill-formed part, and a
byte can follow. -/
structure Opens (part : Bytes) (p : Pending) : Prop where
  units_append : ∀ more, units (part ++ more) = unitsFrom (some p) more
  nonempty : part ≠ []
  range : p.low ≤ p.high

theorem opens_of_lead {b : UInt8} {p : Pending} (h : lead b = .begins p) : Opens [b] p where
  units_append := unitsFrom_begins h
  nonempty := List.cons_ne_nil b []
  range := (range_of_lead h).2

variable {part rest : Bytes} {p : Pending} {b : UInt8}

/-- A byte in the range of the sequence ends it or is part of it. -/
theorem unitsFrom_of_range (hb : p.low ≤ b ∧ b ≤ p.high) (rest : Bytes) :
    unitsFrom (some p) (b :: rest) =
      if p.missing ≤ 1 then some (Char.ofNat (p.value * 64 + (b.toNat - 0x80))) :: units rest
      else unitsFrom (some ⟨p.value * 64 + (b.toNat - 0x80), p.missing - 1, 0x80, 0xBF⟩) rest := by
  rw [unitsFrom, step, if_pos hb]
  dsimp only
  split <;> rfl

/-- A byte out of the range of the sequence leaves it ill-formed and is read anew. -/
theorem unitsFrom_of_not_range (hb : ¬ (p.low ≤ b ∧ b ≤ p.high)) (rest : Bytes) :
    unitsFrom (some p) (b :: rest) = none :: units (b :: rest) := by
  rw [unitsFrom, step, if_neg hb, units, unitsFrom, step]
  split <;> rfl

/-- An open sequence can be completed to a character. -/
theorem exists_completion (hp : p.low ≤ p.high) :
    ∃ more c, unitsFrom (some p) more = [some c] := by
  -- The least byte in the range will do each time.
  induction hmissing : p.missing generalizing p with
  | zero =>
    have hlow : p.low ≤ p.low ∧ p.low ≤ p.high := ⟨UInt8.le_refl _, hp⟩
    exact ⟨[p.low], _, by rw [unitsFrom_of_range hlow, if_pos (by omega)]; rfl⟩
  | succ n ih =>
    have hlow : p.low ≤ p.low ∧ p.low ≤ p.high := ⟨UInt8.le_refl _, hp⟩
    by_cases hlast : p.missing ≤ 1
    · exact ⟨[p.low], _, by rw [unitsFrom_of_range hlow, if_pos hlast]; rfl⟩
    · obtain ⟨more, c, hmore⟩ :=
        @ih ⟨p.value * 64 + (p.low.toNat - 0x80), p.missing - 1, 0x80, 0xBF⟩ (by simp)
          (by show p.missing - 1 = n; omega)
      exact ⟨p.low :: more, c, by rw [unitsFrom_of_range hlow, if_neg hlast, hmore]⟩

theorem Opens.isBeginning (h : Opens part p) : IsBeginning part := by
  obtain ⟨more, c, hmore⟩ := exists_completion h.range
  exact ⟨c, more, eq_encodeChar_of_units ((h.units_append more).trans hmore)⟩

/-- What is ill-formed however it goes on is no beginning of a character. -/
theorem not_isBeginning (h : ∀ more, ∃ us, units (part ++ more) = none :: us) :
    ¬ IsBeginning part := by
  rintro ⟨c, more, hc⟩
  obtain ⟨us, hus⟩ := h more
  have hread := units_encodeChar_append c []
  rw [List.append_nil, ← hc, hus] at hread
  cases hread

/-! ## Ill-formed parts -/

/-- A part is ill-formed as a whole if the next byte cannot belong to it. -/
theorem isIllFormed_of_units {us : List (Option Char)} (hnonempty : part ≠ [])
    (hbegins : IsBeginning part ∨ part.length = 1) (hunits : units (part ++ rest) = none :: us)
    (hnext : ∀ b more, rest = b :: more → ¬ IsBeginning (part ++ [b])) :
    IsIllFormed part rest where
  unencoded := by
    rintro c ⟨more, hc⟩
    rw [← hc, units_encodeChar_append] at hunits
    cases hunits
  nonempty := hnonempty
  begins := hbegins
  longest := by
    rintro longer hprefix ⟨c, hc⟩
    refine Nat.le_of_not_lt fun hlong => ?_
    obtain ⟨more, rfl⟩ := List.prefix_of_prefix_length_le (List.prefix_append part rest) hprefix
      (Nat.le_of_lt hlong)
    obtain - | ⟨b, more⟩ := more
    · simp at hlong
    · obtain ⟨last, hlast⟩ := (List.prefix_append_right_inj part).1 hprefix
      refine hnext b (more ++ last) hlast.symm ⟨c, .trans ?_ hc⟩
      exact (List.prefix_append_right_inj part).2 ⟨more, rfl⟩

/-- An open sequence is ill-formed if it ends, or if the next byte is out of its range. -/
theorem Opens.isIllFormed (h : Opens part p)
    (hrest : ∀ b more, rest = b :: more → ¬ (p.low ≤ b ∧ b ≤ p.high)) :
    IsIllFormed part rest ∧ units (part ++ rest) = none :: units rest := by
  have hunits : units (part ++ rest) = none :: units rest := by
    rw [h.units_append]
    cases rest with
    | nil => rfl
    | cons b more => exact unitsFrom_of_not_range (hrest b more rfl) more
  refine ⟨isIllFormed_of_units h.nonempty (.inl h.isBeginning) hunits ?_, hunits⟩
  intro b more hb
  refine not_isBeginning fun last => ⟨units (b :: last), ?_⟩
  rw [List.append_assoc, h.units_append]
  exact unitsFrom_of_not_range (hrest b more hb) last

/-- A byte with which no character begins is ill-formed by itself. -/
theorem isIllFormed_singleton (hb : lead b = .none) (rest : Bytes) :
    IsIllFormed [b] rest ∧ units (b :: rest) = none :: units rest := by
  have hunits : ∀ more, units (b :: more) = none :: units more := by
    intro more
    rw [units, unitsFrom, step, hb]
    rfl
  have hnone : ¬ IsBeginning [b] := not_isBeginning fun more => ⟨_, hunits more⟩
  refine ⟨isIllFormed_of_units (List.cons_ne_nil b []) (.inr rfl) (hunits rest) ?_, hunits rest⟩
  rintro next more - ⟨c, hc⟩
  exact hnone ⟨c, .trans ⟨[next], rfl⟩ hc⟩

/-! ## Cutting bytes -/

/-- Whether the first part of bytes is a character, or an ill-formed part that the decoder finds. -/
def IsUnit (part rest : Bytes) : Prop :=
  (∃ c, part = String.utf8EncodeChar c) ∨
    IsIllFormed part rest ∧ units (part ++ rest) = none :: units rest

theorem Opens.exists_isUnit (h : Opens part p) (bs : Bytes) :
    ∃ front rest, part ++ bs = front ++ rest ∧ IsUnit front rest := by
  induction bs generalizing part p with
  | nil => exact ⟨part, [], rfl, .inr (h.isIllFormed (by rintro b more ⟨⟩))⟩
  | cons b bs ih =>
    by_cases hb : p.low ≤ b ∧ b ≤ p.high
    · have hread : ∀ more, units (part ++ [b] ++ more) = unitsFrom (some p) (b :: more) := by
        intro more
        rw [List.append_assoc, h.units_append]
        rfl
      rw [List.append_cons]
      by_cases hlast : p.missing ≤ 1
      · have hwhole := hread []
        rw [unitsFrom_of_range hb, if_pos hlast, List.append_nil] at hwhole
        exact ⟨part ++ [b], bs, rfl, .inl ⟨_, eq_encodeChar_of_units hwhole⟩⟩
      · have hmore : ∀ more, units (part ++ [b] ++ more) = unitsFrom
            (some ⟨p.value * 64 + (b.toNat - 0x80), p.missing - 1, 0x80, 0xBF⟩) more := by
          intro more
          rw [hread, unitsFrom_of_range hb, if_neg hlast]
        exact ih ⟨hmore, by simp, by simp⟩
    · refine ⟨part, b :: bs, rfl, .inr (h.isIllFormed ?_)⟩
      rintro _ _ ⟨⟩
      exact hb

/-- Bytes begin with a character or with an ill-formed part. -/
theorem exists_isUnit (b : UInt8) (bs : Bytes) :
    ∃ front rest, b :: bs = front ++ rest ∧ IsUnit front rest := by
  cases hlead : lead b with
  | whole c =>
    refine ⟨[b], bs, rfl, .inl ⟨c, eq_encodeChar_of_units ?_⟩⟩
    rw [units, unitsFrom, step, hlead]
    rfl
  | begins p => exact (opens_of_lead hlead).exists_isUnit bs
  | none => exact ⟨[b], bs, rfl, .inr (isIllFormed_singleton hlead bs)⟩

theorem IsIllFormed.length_le {other more : Bytes} (h : IsIllFormed part rest)
    (hother : IsIllFormed other more) (heq : part ++ rest = other ++ more) :
    part.length ≤ other.length := by
  obtain hbegins | hone := h.begins
  · exact hother.longest part (heq ▸ List.prefix_append part rest) hbegins
  · have hpos := List.length_pos_iff.2 hother.nonempty
    omega

/-- The decoder finds every ill-formed part. -/
theorem units_of_isIllFormed (h : IsIllFormed part rest) :
    units (part ++ rest) = none :: units rest := by
  obtain ⟨b, bs, hbytes⟩ := List.exists_cons_of_ne_nil
    (List.append_ne_nil_of_left_ne_nil h.nonempty rest)
  obtain ⟨front, more, heq, ⟨c, rfl⟩ | ⟨hfront, hunits⟩⟩ := exists_isUnit b bs
  · rw [← hbytes] at heq
    exact absurd ⟨more, heq.symm⟩ (h.unencoded c)
  · -- Each of the two parts is the longest, so they are the same.
    rw [← hbytes] at heq
    obtain ⟨rfl, rfl⟩ := List.append_inj heq
      (Nat.le_antisymm (h.length_le hfront heq) (hfront.length_le h heq.symm))
    exact hunits

/-! ## Texts -/

theorem decodeLossy_encodeChar_append (c : Char) (rest : Bytes) :
    decodeLossy (String.utf8EncodeChar c ++ rest) = c :: decodeLossy rest := by
  rw [decodeLossy, units_encodeChar_append]
  rfl

theorem decodeLossy_of_isIllFormed (h : IsIllFormed part rest) :
    decodeLossy (part ++ rest) = replacement :: decodeLossy rest := by
  rw [decodeLossy, units_of_isIllFormed h]
  rfl

theorem IsUnit.ne_nil (h : IsUnit part rest) : part ≠ [] := by
  obtain ⟨c, rfl⟩ | ⟨hpart, -⟩ := h
  · have hencoded := encode_ne_nil (List.cons_ne_nil c [])
    rwa [encode, List.flatMap_singleton] at hencoded
  · exact hpart.nonempty

theorem isLossyText_decodeLossy (bs : Bytes) : IsLossyText bs (decodeLossy bs) := by
  induction hlength : bs.length using Nat.strongRecOn generalizing bs with
  | ind n ih =>
    cases bs with
    | nil => exact .nil
    | cons b bs =>
      obtain ⟨front, rest, hbytes, hunit⟩ := exists_isUnit b bs
      have hshort : rest.length < n := by
        have hpos := List.length_pos_iff.2 hunit.ne_nil
        rw [← hlength, hbytes, List.length_append]
        omega
      have hrest := ih rest.length hshort rest rfl
      rw [hbytes]
      obtain ⟨c, rfl⟩ | ⟨hpart, -⟩ := hunit
      · rw [decodeLossy_encodeChar_append]
        exact .char c hrest
      · rw [decodeLossy_of_isIllFormed hpart]
        exact .illFormed hpart hrest

/-- Bytes are read as a text exactly if it has their characters and one replacement for each
ill-formed part. -/
theorem isLossyText_iff {bs : Bytes} {t : Text} : IsLossyText bs t ↔ t = decodeLossy bs := by
  constructor
  · intro h
    induction h with
    | nil => rfl
    | char c _ ih => rw [decodeLossy_encodeChar_append, ih]
    | illFormed hpart _ ih => rw [decodeLossy_of_isIllFormed hpart, ih]
  · rintro rfl
    exact isLossyText_decodeLossy bs

/-- A character below 128 in what bytes are read as is a byte, which cuts them. -/
theorem exists_of_decodeLossy_eq_append {c : Char} (hc : c.toNat < 0x80) {bs : Bytes} {s t : Text}
    (h : decodeLossy bs = s ++ c :: t) : ∃ front back,
      bs = front ++ UInt8.ofNat c.toNat :: back ∧ decodeLossy front = s ∧ decodeLossy back = t := by
  -- What follows the byte is known by induction, and then what stands before it.
  suffices hback : ∃ front back,
      bs = front ++ UInt8.ofNat c.toNat :: back ∧ decodeLossy back = t by
    obtain ⟨front, back, rfl, rfl⟩ := hback
    have hbyte : (UInt8.ofNat c.toNat).toNat = c.toNat := by
      rw [UInt8.toNat_ofNat']
      omega
    rw [decodeLossy_append_ascii (by omega), hbyte, Char.ofNat_toNat] at h
    exact ⟨front, back, rfl, List.append_cancel_right h, rfl⟩
  generalize htext : decodeLossy bs = text at h
  have hlossy := isLossyText_iff.2 htext.symm
  clear htext
  induction hlossy generalizing s with
  | nil => cases s <;> cases h
  | char d hrest ih =>
    obtain - | ⟨x, s⟩ := s
    · obtain ⟨rfl, rfl⟩ := List.cons.inj h
      have hone := encode_cons_ascii hc []
      rw [encode, List.flatMap_singleton, encode_nil] at hone
      exact ⟨[], _, by rw [hone]; rfl, (isLossyText_iff.1 hrest).symm⟩
    · obtain ⟨front, back, rfl, hback⟩ := ih (List.cons.inj h).2
      exact ⟨_ ++ front, back, (List.append_assoc ..).symm, hback⟩
  | illFormed hpart hrest ih =>
    obtain - | ⟨x, s⟩ := s
    · obtain ⟨rfl, -⟩ := List.cons.inj h
      exact absurd hc (by decide)
    · obtain ⟨front, back, rfl, hback⟩ := ih (List.cons.inj h).2
      exact ⟨_ ++ front, back, (List.append_assoc ..).symm, hback⟩

theorem mem_of_mem_decodeLossy {c : Char} (hc : c.toNat < 0x80) {bs : Bytes}
    (h : c ∈ decodeLossy bs) : UInt8.ofNat c.toNat ∈ bs := by
  obtain ⟨s, t, hst⟩ := List.append_of_mem h
  obtain ⟨front, back, rfl, -, -⟩ := exists_of_decodeLossy_eq_append hc hst
  exact List.mem_append_right front List.mem_cons_self

theorem eq_nil_of_decodeLossy {bs : Bytes} (h : decodeLossy bs = []) : bs = [] := by
  have hlossy := isLossyText_decodeLossy bs
  rw [h] at hlossy
  cases hlossy
  rfl

/-- A byte that begins no character, and a character that is cut off. -/
example : decodeLossy [0x80, 0x41, 0xE2, 0x82] = [replacement, 'A', replacement] := by decide

end FileServer.Utf8
