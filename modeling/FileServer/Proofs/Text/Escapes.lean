import FileServer.Text.Hexadecimal
import FileServer.Text.Percent
import FileServer.Proofs.Text.Utf8

/-!
# Escapes

What is written into a link is read back from it, as is any other text in which some characters are
escaped, and every percent sign among them. A slash that is not escaped stays where it is: it is no
digit, so an escape that is incomplete before it stays incomplete.

* `decode_append_slash`: bytes are decoded on either side of a slash;
* `decode_of_writes`: a text is read back from every way to write it;
* `decode_encode`: an encoded text is read back;
* `isEscaped_encode`: it consists of unreserved characters and escapes.
-/

namespace FileServer.Percent

/-! ## Slashes -/

theorem escaped?_slash_high (sign low : UInt8) : escaped? sign 0x2F low = none := by
  have hdigit : hexValue? 0x2F = none := by decide
  simp [escaped?, hdigit]

theorem escaped?_slash_low (sign high : UInt8) : escaped? sign high 0x2F = none := by
  have hdigit : hexValue? 0x2F = none := by decide
  simp only [escaped?, hdigit]
  split
  · split <;> simp_all
  · rfl

theorem decode_cons_slash (bs : Bytes) : decode (0x2F :: bs) = 0x2F :: decode bs :=
  decode_cons_of_ne (by decide) bs

theorem decode_cons_cons_slash (b : UInt8) (bs : Bytes) :
    decode (b :: 0x2F :: bs) = b :: 0x2F :: decode bs := by
  have hb : decode (b :: 0x2F :: bs) = b :: decode (0x2F :: bs) := by
    match bs with
    | [] => rfl
    | low :: rest => rw [decode, escaped?_slash_high]
  rw [hb, decode_cons_slash]

/-- Bytes are decoded on either side of a slash. -/
theorem decode_append_slash (as bs : Bytes) :
    decode (as ++ 0x2F :: bs) = decode as ++ 0x2F :: decode bs := by
  fun_induction decode as with
  | case1 b high low rest c hescaped ih =>
    rw [List.cons_append, List.cons_append, List.cons_append, decode, hescaped]
    exact congrArg (c :: ·) ih
  | case2 b high low rest hescaped ih =>
    rw [List.cons_append, List.cons_append, List.cons_append, decode, hescaped]
    exact congrArg (b :: ·) ih
  | case3 short hshort =>
    -- at most two bytes stand before the slash, and no escape takes it in
    obtain _ | ⟨a, _ | ⟨b, _ | ⟨c, rest⟩⟩⟩ := short
    · exact decode_cons_slash bs
    · exact decode_cons_cons_slash a bs
    · rw [List.cons_append, List.cons_append, List.nil_append, decode, escaped?_slash_low,
        decode_cons_cons_slash]
      rfl
    · exact absurd rfl (hshort a b c rest)

/-! ## Ways to write a text -/

/-- Whether a text is the escapes of bytes, with digits in either case. -/
inductive Escapes : Bytes → Text → Prop
  | nil : Escapes [] []
  | cons {b : UInt8} {bs : Bytes} {high low : Char} {s : Text}
      (hhigh : Hexadecimal.digit? high = some (b.toNat / 16))
      (hlow : Hexadecimal.digit? low = some (b.toNat % 16)) (h : Escapes bs s) :
      Escapes (b :: bs) ('%' :: high :: low :: s)

/-- Whether a text writes another: each character of it stands for itself or is the escapes of its
bytes, and a percent sign is escaped. -/
inductive Writes : Text → Text → Prop
  | nil : Writes [] []
  | literal {c : Char} {t s : Text} (hc : c ≠ '%') (h : Writes t s) : Writes (c :: t) (c :: s)
  | escaped {c : Char} {t escape s : Text} (hc : Escapes (String.utf8EncodeChar c) escape)
      (h : Writes t s) : Writes (c :: t) (escape ++ s)

theorem Writes.append {t s t' s' : Text} (h : Writes t s) (h' : Writes t' s') :
    Writes (t ++ t') (s ++ s') := by
  induction h with
  | nil => exact h'
  | literal hc _ ih => exact .literal hc ih
  | escaped hc _ ih =>
    rw [List.append_assoc]
    exact .escaped hc ih

theorem writes_of_not_mem {t : Text} (h : '%' ∉ t) : Writes t t := by
  induction t with
  | nil => exact .nil
  | cons c t ih =>
    obtain ⟨hc, ht⟩ := not_or.1 (mt List.mem_cons.2 h)
    exact .literal (Ne.symm hc) (ih ht)

/-- Two digits stand for the byte whose halves they are. -/
theorem escaped?_of_hexValue? {b high low : UInt8}
    (hhigh : hexValue? high = some (UInt8.ofNat (b.toNat / 16)))
    (hlow : hexValue? low = some (UInt8.ofNat (b.toNat % 16))) :
    escaped? 0x25 high low = some b := by
  have hb := b.toNat_lt
  have hvalue : UInt8.ofNat (b.toNat / 16) * 16 + UInt8.ofNat (b.toNat % 16) = b := by
    rw [← UInt8.toNat_inj]
    simp only [UInt8.toNat_add, UInt8.toNat_mul, UInt8.toNat_ofNat',
      show (16 : UInt8).toNat = 16 from rfl]
    omega
  rw [escaped?, if_pos rfl, hhigh, hlow]
  exact congrArg some hvalue

theorem lt_of_digit? {c : Char} {n : Nat} (h : Hexadecimal.digit? c = some n) :
    c.toNat < 0x80 := by
  unfold Hexadecimal.digit? at h
  split at h
  · next hdigit =>
    have hnine : c.toNat ≤ 0x39 := of_decide_eq_true (Bool.and_eq_true_iff.1 hdigit).2
    omega
  split at h
  · next hlower =>
    have hf : c.toNat ≤ 0x66 := hlower.2
    omega
  split at h
  · next hupper =>
    have hf : c.toNat ≤ 0x46 := hupper.2
    omega
  · cases h

/-- A digit has the same value as a character and as a byte. -/
theorem hexValue?_of_digit? {c : Char} {n : Nat} (h : Hexadecimal.digit? c = some n) :
    hexValue? (UInt8.ofNat c.toNat) = some (UInt8.ofNat n) := by
  have hvalue : ∀ m < 0x80, ∀ n ∈ Hexadecimal.digit? (Char.ofNat m),
      hexValue? (UInt8.ofNat m) = some (UInt8.ofNat n) := by
    decide +kernel
  exact hvalue c.toNat (lt_of_digit? h) n (by rw [Char.ofNat_toNat]; exact h)

theorem decode_of_escapes {bs : Bytes} {s : Text} (h : Escapes bs s) (rest : Bytes) :
    decode (Utf8.encode s ++ rest) = bs ++ decode rest := by
  induction h with
  | nil => rfl
  | @cons b bs high low s hhigh hlow _ ih =>
    have hescaped := escaped?_of_hexValue? (hexValue?_of_digit? hhigh) (hexValue?_of_digit? hlow)
    have hsign : UInt8.ofNat ('%' : Char).toNat = 0x25 := rfl
    rw [Utf8.encode_cons_ascii (by decide), Utf8.encode_cons_ascii (lt_of_digit? hhigh),
      Utf8.encode_cons_ascii (lt_of_digit? hlow), hsign, List.cons_append, List.cons_append,
      List.cons_append, decode, hescaped]
    exact congrArg (b :: ·) ih

/-- Bytes without a percent sign stand for themselves. -/
theorem decode_append_of_not_mem {bs : Bytes} (h : 0x25 ∉ bs) (rest : Bytes) :
    decode (bs ++ rest) = bs ++ decode rest := by
  induction bs with
  | nil => rfl
  | cons b bs ih =>
    obtain ⟨hb, hbs⟩ := not_or.1 (mt List.mem_cons.2 h)
    rw [List.cons_append, decode_cons_of_ne (Ne.symm hb), ih hbs, List.cons_append]

/-- A text is read back from every way to write it. -/
theorem decode_of_writes {t s : Text} (h : Writes t s) (rest : Bytes) :
    decode (Utf8.encode s ++ rest) = Utf8.encode t ++ decode rest := by
  have happend : ∀ (c : Char) (t : Text), Utf8.encode (c :: t) = Utf8.encode [c] ++ Utf8.encode t :=
    fun c t => Utf8.encode_append [c] t
  induction h with
  | nil => rfl
  | @literal c t s hc _ ih =>
    have hsign : 0x25 ∉ Utf8.encode [c] := fun hmem =>
      hc (List.mem_singleton.1 (Utf8.mem_of_mem_encode (by decide) hmem)).symm
    rw [happend, happend c t, List.append_assoc, decode_append_of_not_mem hsign, ih,
      List.append_assoc]
  | @escaped c t escape s hc _ ih =>
    have hbytes : Utf8.encode [c] = String.utf8EncodeChar c := List.flatMap_singleton _ _
    rw [Utf8.encode_append, List.append_assoc, decode_of_escapes hc, ih, happend c t, hbytes,
      List.append_assoc]

/-- The text with every percent sign escaped, and nothing else. -/
def escapeSigns (t : Text) : Text := t.flatMap fun c => if c = '%' then "%25".toList else [c]

theorem writes_escapeSigns (t : Text) : Writes t (escapeSigns t) := by
  induction t with
  | nil => exact .nil
  | cons c t ih =>
    rw [escapeSigns, List.flatMap_cons]
    split
    · next hc =>
      subst hc
      exact .escaped (.cons (by decide) (by decide) .nil) ih
    · next hc => exact .literal hc ih

/-! ## Encoded texts -/

/-- The byte of a digit. -/
def hexByte (n : Nat) : UInt8 := UInt8.ofNat (hexDigit n).toNat

theorem hexDigit_lt : ∀ n < 16, (hexDigit n).toNat < 0x80 := by decide

theorem hexValue?_hexByte : ∀ n < 16, hexValue? (hexByte n) = some (UInt8.ofNat n) := by decide

theorem escaped?_hexByte (b : UInt8) :
    escaped? 0x25 (hexByte (b.toNat / 16)) (hexByte (b.toNat % 16)) = some b := by
  have hb := b.toNat_lt
  exact escaped?_of_hexValue? (hexValue?_hexByte _ (by omega)) (hexValue?_hexByte _ (by omega))

theorem lt_of_isUnreserved {b : UInt8} (h : isUnreserved b) : b.toNat < 0x80 := by
  have hlt := of_decide_eq_true (Bool.and_eq_true_iff.1 h).1
  exact UInt8.lt_iff_toNat_lt.1 hlt

theorem encode_encodeByte (b : UInt8) : Utf8.encode (encodeByte b) =
    if isUnreserved b then [b] else [0x25, hexByte (b.toNat / 16), hexByte (b.toNat % 16)] := by
  have hb := b.toNat_lt
  unfold encodeByte
  split
  · next hunreserved =>
    have hlt := lt_of_isUnreserved hunreserved
    have hc : (Char.ofNat b.toNat).toNat = b.toNat := by
      rw [Char.ofNat, dif_pos (show b.toNat.isValidChar from .inl (by omega))]
      rfl
    rw [Utf8.encode_cons_ascii (by omega), hc, UInt8.ofNat_toNat]
    rfl
  · rw [Utf8.encode_cons_ascii (by decide), Utf8.encode_cons_ascii (hexDigit_lt _ (by omega)),
      Utf8.encode_cons_ascii (hexDigit_lt _ (by omega))]
    rfl

theorem decode_encodeByte (b : UInt8) (rest : Bytes) :
    decode (Utf8.encode (encodeByte b) ++ rest) = b :: decode rest := by
  rw [encode_encodeByte]
  split
  · next hunreserved =>
    have hb : b ≠ 0x25 := by
      rintro rfl
      revert hunreserved
      decide
    exact decode_cons_of_ne hb rest
  · rw [List.cons_append, List.cons_append, List.cons_append, List.nil_append, decode,
      escaped?_hexByte]

/-- An encoded text is read back. -/
theorem decode_encode (t : Text) : decode (Utf8.encode (encode t)) = Utf8.encode t := by
  rw [encode, Utf8.encode_flatMap]
  induction Utf8.encode t with
  | nil => rfl
  | cons b bs ih => rw [List.flatMap_cons, decode_encodeByte, ih]

/-! ## What links consist of -/

/-- The characters that stand for themselves in a link. -/
def IsUnreservedChar (c : Char) : Prop := c.isAlphanum ∨ c ∈ ['-', '_', '.', '~']

/-- Texts of unreserved characters and of escapes with upper-case digits. -/
inductive IsEscaped : Text → Prop
  | nil : IsEscaped []
  | unreserved {c : Char} {t : Text} (hc : IsUnreservedChar c) (ht : IsEscaped t) :
      IsEscaped (c :: t)
  | escape {high low : Char} {t : Text} (hhigh : high ∈ "0123456789ABCDEF".toList)
      (hlow : low ∈ "0123456789ABCDEF".toList) (ht : IsEscaped t) :
      IsEscaped ('%' :: high :: low :: t)

theorem isEscaped_encodeByte_append (b : UInt8) {t : Text} (ht : IsEscaped t) :
    IsEscaped (encodeByte b ++ t) := by
  have hb := b.toNat_lt
  have hdigit : ∀ n < 16, hexDigit n ∈ "0123456789ABCDEF".toList := by decide
  unfold encodeByte
  split
  · next hunreserved =>
    refine .unreserved ?_ ht
    have hc := (Bool.and_eq_true_iff.1 hunreserved).2
    simpa [IsUnreservedChar, or_assoc] using hc
  · exact .escape (hdigit _ (by omega)) (hdigit _ (by omega)) ht

/-- An encoded text consists of unreserved characters and escapes. -/
theorem isEscaped_encode (t : Text) : IsEscaped (encode t) := by
  rw [encode]
  induction Utf8.encode t with
  | nil => exact .nil
  | cons b bs ih =>
    rw [List.flatMap_cons]
    exact isEscaped_encodeByte_append b ih

theorem IsEscaped.forall_mem {t : Text} (h : IsEscaped t) :
    ∀ c ∈ t, IsUnreservedChar c ∨ c = '%' := by
  have halphanum : "0123456789ABCDEF".toList.all Char.isAlphanum := by decide
  have hdigit : ∀ c ∈ "0123456789ABCDEF".toList, IsUnreservedChar c := fun c hc =>
    .inl (List.all_eq_true.1 halphanum c hc)
  induction h with
  | nil => exact List.forall_mem_nil _
  | unreserved hc _ ih => exact List.forall_mem_cons.2 ⟨.inl hc, ih⟩
  | escape hhigh hlow _ ih =>
    refine List.forall_mem_cons.2 ⟨.inr rfl, List.forall_mem_cons.2 ⟨.inl (hdigit _ hhigh), ?_⟩⟩
    exact List.forall_mem_cons.2 ⟨.inl (hdigit _ hlow), ih⟩

/-- What delimits a part of a target or of a page is not in a link. -/
theorem IsEscaped.not_mem {t : Text} (h : IsEscaped t) {c : Char}
    (hc : c ∈ ['/', '?', '#', ' ', '\r', '\n', '<', '>', '"', '\'', '&']) : c ∉ t := by
  have hother : ['/', '?', '#', ' ', '\r', '\n', '<', '>', '"', '\'', '&'].all fun c =>
      ¬ (c.isAlphanum ∨ c ∈ ['-', '_', '.', '~']) ∧ c ≠ '%' := by decide
  intro hmem
  obtain ⟨hreserved, hpercent⟩ := of_decide_eq_true (List.all_eq_true.1 hother c hc)
  exact (h.forall_mem c hmem).elim hreserved hpercent

end FileServer.Percent
