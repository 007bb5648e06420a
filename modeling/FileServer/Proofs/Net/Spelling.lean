import FileServer.Net.Address
import FileServer.Proofs.Text.Cut
import FileServer.Proofs.Text.Readers

/-!
# Spellings of addresses

Which texts stand for an IP address and which for a socket address, said apart from the readers.
An IPv4 address has one spelling. The groups of an IPv6 address have one to four digits in either
case, a run of zero groups may be left out, and the last two groups may be spelled as an IPv4
address; in a socket address a scope may follow. The readers accept these texts and find in them
what they spell.

* `readV4_append`, `readGroups_append`: the readers take a spelling off the front of a text;
* `parse?_of_spells`, `SocketAddress.parse?_of_spells`: every spelling is read as its address.
-/

namespace FileServer

namespace IpAddress

/-! ## Spellings -/

/-- Whether a text spells a group: it has one to four digits, in either case. -/
def IsGroup (t : Text) (group : UInt16) : Prop :=
  t ≠ [] ∧ t.length ≤ 4 ∧ (∀ c ∈ t, (Hexadecimal.digit? c).isSome) ∧
    Hexadecimal.value t = group.toNat

/-- The two groups that an IPv4 address stands for. -/
def groupsOfV4 (a b c d : UInt8) : List UInt16 :=
  [a.toUInt16 <<< 8 ||| b.toUInt16, c.toUInt16 <<< 8 ||| d.toUInt16]

/-- Whether a text spells groups, with colons between them. The flag says whether the last two are
spelled as an IPv4 address. -/
inductive IsGroups : Bool → Text → List UInt16 → Prop
  | none : IsGroups false [] []
  | group {t : Text} {n : UInt16} (h : IsGroup t n) : IsGroups false t [n]
  | embedded (a b c d : UInt8) : IsGroups true (renderV4 a b c d) (groupsOfV4 a b c d)
  | more {isEmbedded : Bool} {t u : Text} {n : UInt16} {ns : List UInt16} (ht : IsGroup t n)
      (hne : ns ≠ []) (hu : IsGroups isEmbedded u ns) :
      IsGroups isEmbedded (t ++ ':' :: u) (n :: ns)

/-- Whether a text spells an address. -/
inductive Spells : Text → IpAddress → Prop
  | v4 (a b c d : UInt8) : Spells (renderV4 a b c d) (.v4 a b c d)
  | whole {isEmbedded : Bool} {t : Text} {groups : Vector UInt16 8}
      (h : IsGroups isEmbedded t groups.toList) : Spells t (.v6 groups)
  | shortened {isEmbedded : Bool} {front back : Text} {before after : List UInt16} {zeros : Nat}
      {groups : Vector UInt16 8} (hfront : IsGroups false front before)
      (hback : IsGroups isEmbedded back after) (hzeros : 0 < zeros)
      (hgroups : groups.toList = before ++ List.replicate zeros 0 ++ after) :
      Spells (front ++ "::".toList ++ back) (.v6 groups)

/-- Whether what follows a spelling does not go on with it. -/
structure Ends (rest : Text) : Prop where
  digit : ∀ c ∈ rest.head?, Hexadecimal.digit? c = Option.none
  point : rest.head? ≠ some '.'
  /-- A colon is followed by another one. -/
  colon : ∀ more, rest = ':' :: more → more.head? = some ':'

theorem ends_nil : Ends [] := ⟨by simp, by simp, by simp⟩

theorem ends_cons {c : Char} (hdigit : Hexadecimal.digit? c = Option.none) (hpoint : c ≠ '.')
    (hcolon : c ≠ ':') (rest : Text) : Ends (c :: rest) := by
  refine ⟨?_, ?_, ?_⟩
  · rintro d ⟨⟩
    exact hdigit
  · rintro ⟨⟩
    exact hpoint rfl
  · rintro more ⟨⟩
    exact absurd rfl hcolon

theorem ends_colons (rest : Text) : Ends ("::".toList ++ rest) := by
  refine ⟨?_, ?_, ?_⟩
  · rintro d ⟨⟩
    decide
  · rintro ⟨⟩
  · rintro more ⟨⟩
    rfl

/-! ## IPv4 -/

open Reader

/-- A decimal digit is a hexadecimal one. -/
theorem isDigit_eq_false {c : Char} (h : Hexadecimal.digit? c = Option.none) :
    c.isDigit = false := by
  rw [Hexadecimal.digit?] at h
  split at h
  · cases h
  · next hc => exact eq_false_of_ne_true hc

theorem octet_append (n : UInt8) {rest : Text} (hrest : ∀ c ∈ rest.head?, c.isDigit = false) :
    octet (Decimal.render n.toNat ++ rest) = some (n, rest) := by
  have hdigits : ∀ c ∈ Decimal.render n.toNat, c.isDigit := fun _ => Decimal.render_isDigit
  obtain ⟨htake, hdrop⟩ := span_append hdigits hrest
  have hlt : n.toNat < 256 := n.toNat_lt
  have hne : Decimal.render n.toNat ≠ [] := Nat.toDigits_ne_nil
  have hlength : (Decimal.render n.toNat).length ≤ 3 :=
    (Nat.length_toDigits_le_iff (by decide) (by decide)).2 (by omega)
  have hzero : (Decimal.render n.toNat).head? = some '0' → Decimal.render n.toNat = ['0'] := by
    intro hhead
    obtain ⟨more, hmore⟩ := List.head?_eq_some_iff.1 hhead
    rw [hmore, Decimal.eq_nil_of_render hmore]
  have hplain : ¬ (Decimal.render n.toNat = [] ∨ 3 < (Decimal.render n.toNat).length ∨
      ((Decimal.render n.toNat).head? = some '0' ∧ Decimal.render n.toNat ≠ ['0'])) := by
    rintro (hnil | hlong | ⟨hhead, hother⟩)
    · exact hne hnil
    · omega
    · exact hother (hzero hhead)
  simp only [octet, htake, hdrop, if_neg hplain, Decimal.value_render, if_pos hlt,
    UInt8.ofNat_toNat]

theorem renderV4_eq (a b c d : UInt8) : renderV4 a b c d =
    Decimal.render a.toNat ++ (['.'] ++ (Decimal.render b.toNat ++ (['.'] ++
      (Decimal.render c.toNat ++ (['.'] ++ Decimal.render d.toNat))))) := by
  simp [renderV4, List.intercalate]

/-- An IPv4 address is taken off the front of a text that does not go on with a digit. -/
theorem readV4_append (a b c d : UInt8) {rest : Text}
    (hrest : ∀ c ∈ rest.head?, c.isDigit = false) :
    readV4 (renderV4 a b c d ++ rest) = some (.v4 a b c d, rest) := by
  have hpoint : ∀ (n : UInt8) (more : Text),
      octet (Decimal.render n.toNat ++ (['.'] ++ more)) = some (n, ['.'] ++ more) :=
    fun n more => octet_append n (by rintro c ⟨⟩; rfl)
  simp only [renderV4_eq, readV4, List.append_assoc]
  rw [bind_of_eq (hpoint a _), bind_of_eq (literal_append _ _), bind_of_eq (hpoint b _),
    bind_of_eq (literal_append _ _), bind_of_eq (hpoint c _), bind_of_eq (literal_append _ _),
    bind_of_eq (octet_append d hrest)]
  rfl

/-- Without a point behind its first digits, a text does not begin with an IPv4 address. -/
theorem readV4_eq_none {input : Text} (h : (input.dropWhile Char.isDigit).head? ≠ some '.') :
    readV4 input = Option.none := by
  refine bind_eq_none fun n rest hread => bind_eq_none fun u more hliteral => ?_
  have hrest : rest = input.dropWhile Char.isDigit := by
    rw [octet] at hread
    split at hread
    · cases hread
    · split at hread
      · exact (Prod.mk.inj (Option.some.inj hread)).2.symm
      · cases hread
  rw [literal_singleton_eq_none (hrest ▸ h)] at hliteral
  cases hliteral

/-! ## Groups -/

theorem group_append {t : Text} {n : UInt16} (h : IsGroup t n) {rest : Text}
    (hrest : ∀ c ∈ rest.head?, Hexadecimal.digit? c = Option.none) :
    group (t ++ rest) = some (n, rest) := by
  obtain ⟨hne, hlength, hdigits, hvalue⟩ := h
  obtain ⟨htake, -⟩ := span_append (p := fun c => (Hexadecimal.digit? c).isSome) hdigits
    fun c hc => by rw [hrest c hc]; rfl
  have hplain : ¬ (t = [] ∨ 4 < t.length) := by
    rintro (hnil | hlong)
    · exact hne hnil
    · omega
  simp only [group, htake, if_neg hplain, hvalue, UInt16.ofNat_toNat, List.drop_left]

theorem group_eq_none {input : Text}
    (h : ∀ c ∈ input.head?, Hexadecimal.digit? c = Option.none) : group input = Option.none := by
  have htake : input.takeWhile (fun c => (Hexadecimal.digit? c).isSome) = [] := by
    cases input with
    | nil => rfl
    | cons c input => simp [h c rfl]
  simp only [group, htake, true_or, if_true]

/-- A group that no point follows does not begin an IPv4 address. -/
theorem readV4_group_append {t : Text} (h : ∀ c ∈ t, (Hexadecimal.digit? c).isSome) {rest : Text}
    (hdigit : ∀ c ∈ rest.head?, Hexadecimal.digit? c = Option.none)
    (hpoint : rest.head? ≠ some '.') : readV4 (t ++ rest) = Option.none := by
  apply readV4_eq_none
  induction t with
  | nil =>
    cases rest with
    | nil => simp
    | cons c rest => simpa [isDigit_eq_false (hdigit c rfl)] using hpoint
  | cons c t ih =>
    obtain ⟨hc, ht⟩ := List.forall_mem_cons.1 h
    rw [List.cons_append, List.dropWhile_cons]
    split
    · exact ih ht
    · rintro ⟨⟩
      cases hc

/-- What stands before a group. -/
def separator (first : Bool) : Text := if first then [] else [':']

theorem read_separator (first : Bool) (input : Text) :
    (if first then pure () else Reader.literal [':'] : Reader Unit) (separator first ++ input) =
      some ((), input) := by
  cases first with
  | true => rfl
  | false => exact literal_append [':'] input

section

variable {limit : Nat} {input rest : Text}

theorem readGroups_of_v4 {a b c d : UInt8} (hlimit : 1 ≤ limit) (first : Bool)
    (h : readV4 input = some (.v4 a b c d, rest)) :
    readGroups (limit + 1) first (separator first ++ input) = (groupsOfV4 a b c d, true, rest) := by
  have hread : readV4Groups input = some (groupsOfV4 a b c d, rest) := by
    rw [readV4Groups, h]
    rfl
  simp only [readGroups, if_pos hlimit, bind_of_eq (read_separator first input), hread]

theorem readGroups_of_group {n : UInt16} (first : Bool) (hv4 : readV4 input = Option.none)
    (h : group input = some (n, rest)) :
    readGroups (limit + 1) first (separator first ++ input) =
      (n :: (readGroups limit false rest).1, (readGroups limit false rest).2) := by
  have hread : readV4Groups input = Option.none := by rw [readV4Groups, hv4]
  simp only [readGroups, bind_of_eq (read_separator first input), hread, h, ite_self]

theorem readGroups_of_none (first : Bool) (hv4 : readV4 input = Option.none)
    (h : group input = Option.none) :
    readGroups limit first (separator first ++ input) =
      ([], false, separator first ++ input) := by
  have hread : readV4Groups input = Option.none := by rw [readV4Groups, hv4]
  cases limit with
  | zero => rfl
  | succ limit =>
    simp only [readGroups, bind_of_eq (read_separator first input), hread, h, ite_self]

theorem readGroups_of_head (h : input.head? ≠ some ':') :
    readGroups limit false input = ([], false, input) := by
  have hnone : ∀ {α : Type} (reader : Reader α),
      (Reader.literal [':'] >>= fun _ => reader) input = Option.none := fun reader =>
    bind_eq_none fun u rest hliteral => by
      rw [literal_singleton_eq_none h] at hliteral
      cases hliteral
  cases limit with
  | zero => rfl
  | succ limit => simp [readGroups, hnone]

/-- Without a digit, no groups are taken. -/
theorem readGroups_of_digit (h : ∀ c ∈ input.head?, Hexadecimal.digit? c = Option.none)
    (hpoint : input.head? ≠ some '.') : readGroups limit true input = ([], false, input) :=
  readGroups_of_none true (readV4_group_append (t := []) (by simp) h hpoint) (group_eq_none h)

theorem readGroups_of_ends (h : Ends rest) : readGroups limit false rest = ([], false, rest) := by
  by_cases hcolon : rest.head? = some ':'
  · obtain ⟨more, rfl⟩ := List.head?_eq_some_iff.1 hcolon
    obtain ⟨last, rfl⟩ := List.head?_eq_some_iff.1 (h.colon more rfl)
    have hdigit : ∀ c ∈ (':' :: last).head?, Hexadecimal.digit? c = Option.none := by
      rintro c ⟨⟩
      decide
    exact readGroups_of_none false (readV4_group_append (t := []) (by simp) hdigit (by simp))
      (group_eq_none hdigit)
  · exact readGroups_of_head hcolon

end

/-- Groups are taken off the front of a text that does not go on with them. -/
theorem readGroups_append {isEmbedded : Bool} {t rest : Text} {ns : List UInt16}
    (h : IsGroups isEmbedded t ns) (hne : ns ≠ []) {limit : Nat} (hlimit : ns.length ≤ limit)
    (hrest : Ends rest) (first : Bool) :
    readGroups limit first (separator first ++ (t ++ rest)) = (ns, isEmbedded, rest) := by
  obtain - | limit := limit
  · exact absurd (List.eq_nil_of_length_eq_zero (Nat.le_zero.1 hlimit)) hne
  induction h generalizing limit first with
  | none => exact absurd rfl hne
  | group ht =>
    have hv4 := readV4_group_append ht.2.2.1 hrest.digit hrest.point
    rw [readGroups_of_group first hv4 (group_append ht hrest.digit), readGroups_of_ends hrest]
  | embedded a b c d =>
    have htwo : 2 ≤ limit + 1 := hlimit
    exact readGroups_of_v4 (by omega) first
      (readV4_append a b c d fun c hc => isDigit_eq_false (hrest.digit c hc))
  | @more _ t u n ns ht hns _ ih =>
    have hcolon : ∀ c ∈ (':' :: (u ++ rest)).head?, Hexadecimal.digit? c = Option.none := by
      rintro c ⟨⟩
      decide
    have hv4 := readV4_group_append ht.2.2.1 hcolon (by simp)
    rw [List.append_assoc, List.cons_append,
      readGroups_of_group first hv4 (group_append ht hcolon)]
    obtain - | limit := limit
    · exact absurd (List.eq_nil_of_length_eq_zero (Nat.le_zero.1 (Nat.le_of_succ_le_succ hlimit)))
        hns
    · have hmore := ih hns false limit (Nat.le_of_succ_le_succ hlimit)
      rw [separator, if_neg (by decide), List.singleton_append] at hmore
      rw [hmore]

/-- The first groups of a text, of which there may be none, are taken off its front. -/
theorem readGroups_part {isEmbedded : Bool} {t rest : Text} {ns : List UInt16}
    (h : IsGroups isEmbedded t ns) {limit : Nat} (hlimit : ns.length ≤ limit) (hrest : Ends rest) :
    readGroups limit true (t ++ rest) = (ns, isEmbedded, rest) := by
  by_cases hne : ns = []
  · cases h with
    | none => exact readGroups_of_digit hrest.digit hrest.point
    | group | embedded | more => cases hne
  · exact readGroups_append h hne hlimit hrest true

/-! ## Addresses -/

theorem ofGroups?_toList (groups : Vector UInt16 8) :
    ofGroups? groups.toList = some (.v6 groups) := by
  have hlength : groups.toList.length = 8 := by simp
  rw [ofGroups?, dif_pos hlength]
  congr 1

/-- An IPv6 address is taken off the front of a text that does not go on with it. -/
theorem readV6_append {t rest : Text} {groups : Vector UInt16 8} (h : Spells t (.v6 groups))
    (hrest : Ends rest) : readV6 (t ++ rest) = some (.v6 groups, rest) := by
  cases h with
  | whole hgroups =>
    have hlength : groups.toList.length = 8 := by simp
    rw [readV6, readGroups_part hgroups (Nat.le_of_eq hlength) hrest]
    simp only [hlength, if_true, ofGroups?_toList, Option.map_some]
  | @shortened isEmbedded front back before after zeros _ hfront hback hzeros heq =>
    have hlength : before.length + zeros + after.length = 8 := by
      have hsum := congrArg List.length heq
      simp only [Vector.length_toList, List.length_append, List.length_replicate] at hsum
      omega
    have hshort : before.length ≠ 8 := by omega
    rw [List.append_assoc, List.append_assoc, readV6,
      readGroups_part hfront (by omega) (ends_colons _)]
    have hzeros : 8 - before.length - after.length = zeros := by omega
    simp only [if_neg hshort, Bool.false_eq_true, if_false, literal_append,
      readGroups_part hback (show after.length ≤ 7 - before.length by omega) hrest, hzeros, ← heq,
      ofGroups?_toList, Option.map_some]

/-- A text that spells an IPv6 address does not begin with an IPv4 address. -/
theorem readV4_of_spells {t : Text} {groups : Vector UInt16 8} (h : Spells t (.v6 groups))
    (rest : Text) : readV4 (t ++ rest) = Option.none := by
  have hcolon : ∀ {u : Text} {n : UInt16} {more : Text}, IsGroup u n →
      readV4 (u ++ ':' :: more) = Option.none := fun hu =>
    readV4_group_append hu.2.2.1 (by rintro c ⟨⟩; decide) (by simp)
  cases h with
  | whole hgroups =>
    have hlength : groups.toList.length = 8 := by simp
    generalize groups.toList = ns at *
    cases hgroups with
    | none | group | embedded => cases hlength
    | more ht =>
      rw [List.append_assoc]
      exact hcolon ht
  | shortened hfront =>
    cases hfront with
    | none => exact readV4_eq_none (by simp)
    | group ht =>
      rw [List.append_assoc, List.append_assoc]
      exact hcolon ht
    | more ht =>
      rw [List.append_assoc, List.append_assoc, List.append_assoc]
      exact hcolon ht

/-- Every spelling of an address is read as the address. -/
theorem parse?_of_spells {t : Text} {ip : IpAddress} (h : Spells t ip) : parse? t = some ip := by
  rw [parse?, readAll_eq_some]
  cases ip with
  | v4 a b c d =>
    cases h
    have hread : readV4 (renderV4 a b c d ++ []) = some (.v4 a b c d, []) :=
      readV4_append a b c d (by simp)
    rw [List.append_nil] at hread
    exact or_of_eq hread
  | v6 groups =>
    have hv4 := readV4_of_spells h []
    have hv6 := readV6_append h ends_nil
    rw [List.append_nil] at hv4 hv6
    rw [or_of_none hv4, hv6]

end IpAddress

end FileServer
