import FileServer.Http.Version
import FileServer.Proofs.Text.Lines

/-!
# Version tokens

What can be said of a token on which a version is read: it consists of `HTTP/` and two lists of
digits with a point between them, so it can stand in a request line. Of such tokens those are read
whose numbers fit in a byte.

* `eq_of_numbers?`: the shape of the token;
* `forall_mem_of_parse`: its characters;
* `parse_token`, `parse_eq_error_version_iff`: what is made of a token by its numbers, and which
  tokens are malformed.
-/

namespace FileServer.Version

theorem isDigit_of_byte? {digits : Text} {b : UInt8} (h : byte? digits = some b) :
    ∀ c ∈ digits, c.isDigit := by
  unfold byte? Decimal.parse? at h
  split at h
  · next n hn =>
    have hall := (Option.ite_none_right_eq_some.1 hn).1.2
    exact List.all_eq_true.1 hall
  · cases h

theorem eq_of_numbers? {token : Text} {a b : UInt8} (h : numbers? token = some (a, b)) :
    ∃ major minor, token = "HTTP/".toList ++ (major ++ '.' :: minor) ∧
      byte? major = some a ∧ byte? minor = some b := by
  unfold numbers? at h
  split at h
  · next numbers =>
    split at h
    · next major minor hsplit =>
      have hjoin : numbers = major ++ '.' :: minor := by
        rw [← intercalate_splitOn '.' numbers, hsplit]
        simp [List.intercalate]
      split at h
      · next x y hx hy =>
        obtain ⟨rfl, rfl⟩ : x = a ∧ y = b := by simpa using h
        exact ⟨major, minor, by rw [hjoin]; rfl, hx, hy⟩
      · cases h
    · cases h
  · cases h

/-- A version token holds nothing but the letters of HTTP, a slash, a point and digits. -/
theorem forall_mem_of_parse {token : Text} {version : Version} (h : parse token = .ok version) :
    ∀ c ∈ token, c ∈ "HTTP/.".toList ∨ c.isDigit := by
  obtain ⟨hnumbers, -⟩ := parse_eq_ok.1 h
  obtain ⟨major, minor, rfl, hmajor, hminor⟩ := eq_of_numbers? hnumbers
  intro c hc
  rw [List.mem_append, List.mem_append, List.mem_cons] at hc
  rcases hc with hc | hc | rfl | hc
  · exact .inl (List.mem_append_left ['.'] hc)
  · exact .inr (isDigit_of_byte? hmajor c hc)
  · exact .inl (by decide)
  · exact .inr (isDigit_of_byte? hminor c hc)

theorem ne_nil_of_parse {token : Text} {version : Version} (h : parse token = .ok version) :
    token ≠ [] := by
  rintro rfl
  cases h

/-! ## Tokens by their numbers -/

/-- Whether a text writes a number: it has digits, and nothing else. -/
def IsNumber (digits : Text) : Prop := digits ≠ [] ∧ ∀ c ∈ digits, c.isDigit

instance (digits : Text) : Decidable (IsNumber digits) :=
  @instDecidableAnd _ _ inferInstance (List.decidableBAll _ digits)

/-- The token with two numbers. -/
def token (major minor : Text) : Text := "HTTP/".toList ++ (major ++ '.' :: minor)

theorem byte?_of_isNumber {digits : Text} (h : IsNumber digits) :
    byte? digits = if Decimal.value digits < 256 then some (UInt8.ofNat (Decimal.value digits))
      else none := by
  have hread : Decimal.parse? digits = some (Decimal.value digits) :=
    if_pos ⟨h.1, List.all_eq_true.2 h.2⟩
  rw [byte?, hread]

theorem isNumber_of_byte? {digits : Text} {b : UInt8} (h : byte? digits = some b) :
    IsNumber digits ∧ Decimal.value digits < 256 := by
  have hdigits : IsNumber digits := by
    refine ⟨?_, isDigit_of_byte? h⟩
    rintro rfl
    cases h
  refine ⟨hdigits, ?_⟩
  rw [byte?_of_isNumber hdigits] at h
  exact (Option.ite_none_right_eq_some.1 h).1

theorem IsNumber.point_not_mem {digits : Text} (h : IsNumber digits) : '.' ∉ digits :=
  fun hmem => absurd (h.2 _ hmem) (by decide)

/-- The numbers of a token are read apart. -/
theorem numbers?_token {major minor : Text} (hmajor : IsNumber major) (hminor : IsNumber minor) :
    numbers? (token major minor) =
      (byte? major).bind fun a => (byte? minor).map fun b => (a, b) := by
  have hsplit : splitOn '.' (major ++ '.' :: minor) = [major, minor] := by
    rw [splitOn_append_cons hmajor.point_not_mem, splitOn_of_not_mem hminor.point_not_mem]
  show numbers? ('H' :: 'T' :: 'T' :: 'P' :: '/' :: (major ++ '.' :: minor)) = _
  simp only [numbers?, hsplit]
  cases byte? major <;> cases byte? minor <;> rfl

/-- What is made of a token by its numbers. -/
theorem parse_token {major minor : Text} (hmajor : IsNumber major) (hminor : IsNumber minor) :
    parse (token major minor) =
      if Decimal.value major < 256 ∧ Decimal.value minor < 256 then
        if 2 ≤ Decimal.value major then
          .error (.unsupportedVersion (Decimal.value major) (Decimal.value minor))
        else .ok ⟨UInt8.ofNat (Decimal.value major), UInt8.ofNat (Decimal.value minor)⟩
      else .error (.version (token major minor)) := by
  rw [parse, numbers?_token hmajor hminor, byte?_of_isNumber hmajor, byte?_of_isNumber hminor]
  by_cases ha : Decimal.value major < 256
  · by_cases hb : Decimal.value minor < 256
    · have hle : (2 : UInt8) ≤ UInt8.ofNat (Decimal.value major) ↔ 2 ≤ Decimal.value major := by
        rw [UInt8.le_iff_toNat_le, UInt8.toNat_ofNat_of_lt' ha]
        rfl
      simp only [ha, hb, and_self, if_true, Option.map_some, Option.bind_some, hle,
        UInt8.toNat_ofNat_of_lt' ha, UInt8.toNat_ofNat_of_lt' hb]
    · simp only [ha, hb, and_false, if_true, if_false, Option.map_none, Option.bind_some]
  · simp only [ha, false_and, if_false, Option.bind_none]

/-- A token is malformed unless it has two numbers that fit in a byte. -/
theorem parse_eq_error_version_iff {t : Text} :
    parse t = .error (.version t) ↔ ¬ ∃ major minor, IsNumber major ∧ IsNumber minor ∧
      t = token major minor ∧ Decimal.value major < 256 ∧ Decimal.value minor < 256 := by
  constructor
  · rintro h ⟨major, minor, hmajor, hminor, rfl, hfits⟩
    rw [parse_token hmajor hminor, if_pos hfits] at h
    split at h <;> cases h
  · intro h
    cases hnumbers : numbers? t with
    | none => rw [parse, hnumbers]
    | some numbers =>
      obtain ⟨major, minor, ht, hmajor, hminor⟩ := eq_of_numbers? hnumbers
      obtain ⟨hmajor, ha⟩ := isNumber_of_byte? hmajor
      obtain ⟨hminor, hb⟩ := isNumber_of_byte? hminor
      exact absurd ⟨major, minor, hmajor, hminor, ht, ha, hb⟩ h

end FileServer.Version
