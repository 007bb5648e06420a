import Mathlib.Data.List.TakeWhile
import FileServer.Proofs.Net.Spelling

/-!
# What is read as an address

A text that is read as an address is a spelling of it, so that the spellings are all the texts that
are accepted. Each reader is inverted: what it gives was spelled by what it took.

* `eq_append_of_octet`, `isGroup_of_group`, `isGroups_of_readGroups`: the readers one by one;
* `parse?_eq_some_iff`: the texts that are read as an address.
-/

namespace FileServer.IpAddress

open Reader

variable {input rest : Text}

/-! ## IPv4 -/

theorem eq_append_of_octet {n : UInt8} (h : octet input = some (n, rest)) :
    input = Decimal.render n.toNat ++ rest := by
  rw [octet] at h
  split at h
  · cases h
  next hplain =>
  split at h
  · next hlt =>
    obtain ⟨rfl, rfl⟩ := Prod.mk.inj (Option.some.inj h)
    have hdigits : ∀ c ∈ input.takeWhile Char.isDigit, c.isDigit := fun c hc =>
      List.mem_takeWhile_imp hc
    have hzero : (input.takeWhile Char.isDigit).head? = some '0' →
        input.takeWhile Char.isDigit = ['0'] := fun hhead =>
      Decidable.by_contra fun hother => hplain (.inr (.inr ⟨hhead, hother⟩))
    rw [UInt8.toNat_ofNat_of_lt' hlt,
      Decimal.render_value (fun hnil => hplain (.inl hnil)) hdigits hzero,
      List.takeWhile_append_dropWhile]
  · cases h

theorem eq_append_of_readV4 {ip : IpAddress} (h : readV4 input = some (ip, rest)) :
    ∃ a b c d, ip = .v4 a b c d ∧ input = renderV4 a b c d ++ rest := by
  obtain ⟨a, _, ha, h⟩ := bind_eq_some.1 h
  obtain ⟨_, _, hfirst, h⟩ := bind_eq_some.1 h
  obtain ⟨b, _, hb, h⟩ := bind_eq_some.1 h
  obtain ⟨_, _, hsecond, h⟩ := bind_eq_some.1 h
  obtain ⟨c, _, hc, h⟩ := bind_eq_some.1 h
  obtain ⟨_, _, hthird, h⟩ := bind_eq_some.1 h
  obtain ⟨d, _, hd, h⟩ := bind_eq_some.1 h
  obtain ⟨rfl, rfl⟩ := Prod.mk.inj (Option.some.inj h)
  refine ⟨a, b, c, d, rfl, ?_⟩
  rw [eq_append_of_octet ha, eq_append_of_literal hfirst, eq_append_of_octet hb,
    eq_append_of_literal hsecond, eq_append_of_octet hc, eq_append_of_literal hthird,
    eq_append_of_octet hd, renderV4_eq]
  simp only [List.append_assoc]

/-! ## Groups -/

theorem isGroup_of_group {n : UInt16} (h : group input = some (n, rest)) :
    ∃ t, input = t ++ rest ∧ IsGroup t n := by
  rw [group] at h
  split at h
  · cases h
  · next hplain =>
    obtain ⟨hne, hlength⟩ := not_or.1 hplain
    obtain ⟨rfl, rfl⟩ := Prod.mk.inj (Option.some.inj h)
    generalize hdigits : input.takeWhile (fun c => (Hexadecimal.digit? c).isSome) = digits at *
    have hall : ∀ c ∈ digits, (Hexadecimal.digit? c).isSome := fun c hc => by
      rw [← hdigits] at hc
      exact List.mem_takeWhile_imp (p := fun c => (Hexadecimal.digit? c).isSome) hc
    have hlt : Hexadecimal.value digits < 65536 := by
      calc Hexadecimal.value digits < 16 ^ digits.length := Hexadecimal.value_lt hall
        _ ≤ 16 ^ 4 := Nat.pow_le_pow_right (by decide) (by omega)
    have hinput : digits ++ input.drop digits.length = input := by
      rw [← hdigits]
      exact List.prefix_iff_eq_append.1 (List.takeWhile_prefix _)
    exact ⟨digits, hinput.symm, hne, by omega, hall, (UInt16.toNat_ofNat_of_lt' hlt).symm⟩

theorem eq_append_of_separator {first : Bool} {u : Unit}
    (h : (if first then pure () else Reader.literal [':'] : Reader Unit) input = some (u, rest)) :
    input = separator first ++ rest := by
  cases first with
  | true => exact (Prod.mk.inj (Option.some.inj h)).2
  | false => exact eq_append_of_literal h

/-- The groups that are read are spelled by what was taken, before which a separator stands. -/
theorem isGroups_of_readGroups {limit : Nat} {first isEmbedded : Bool} {ns : List UInt16}
    (h : readGroups limit first input = (ns, isEmbedded, rest)) :
    ns.length ≤ limit ∧ ∃ t, IsGroups isEmbedded t ns ∧
      input = (if ns = [] then [] else separator first) ++ t ++ rest := by
  induction limit generalizing first input ns with
  | zero =>
    cases h
    exact ⟨Nat.le_refl 0, [], .none, by simp⟩
  | succ limit ih =>
    rw [readGroups] at h
    split at h
    · next groups after hembedded =>
      obtain ⟨rfl, rfl, rfl⟩ : groups = ns ∧ true = isEmbedded ∧ after = rest := by
        simpa using h
      obtain ⟨hlimit, hread⟩ := Option.ite_none_right_eq_some.1 hembedded
      obtain ⟨_, between, hseparator, hv4⟩ := bind_eq_some.1 hread
      rw [readV4Groups] at hv4
      split at hv4
      · next a b c d after hread =>
        obtain ⟨a', b', c', d', hip, hbetween⟩ := eq_append_of_readV4 hread
        obtain ⟨rfl, rfl, rfl, rfl⟩ := IpAddress.v4.inj hip
        obtain ⟨rfl, rfl⟩ := Prod.mk.inj (Option.some.inj hv4)
        refine ⟨show 2 ≤ limit + 1 by omega, _, .embedded a b c d, ?_⟩
        rw [eq_append_of_separator hseparator, hbetween, if_neg (by simp), List.append_assoc]
      · cases hv4
    · split at h
      · next n after hgroup =>
        obtain ⟨_, between, hseparator, hgroup⟩ := bind_eq_some.1 hgroup
        obtain ⟨t, rfl, ht⟩ := isGroup_of_group hgroup
        generalize hmore : readGroups limit false after = result at h
        obtain ⟨ms, isEmbedded', rest'⟩ := result
        obtain ⟨rfl, rfl, rfl⟩ : n :: ms = ns ∧ isEmbedded' = isEmbedded ∧ rest' = rest := by
          simpa using h
        obtain ⟨hlength, u, hu, hafter⟩ := ih hmore
        refine ⟨Nat.succ_le_succ hlength, ?_⟩
        rw [eq_append_of_separator hseparator, if_neg (List.cons_ne_nil n ms), hafter]
        by_cases hms : ms = []
        · subst hms
          cases hu
          exact ⟨t, .group ht, by simp⟩
        · refine ⟨t ++ ':' :: u, .more ht hms hu, ?_⟩
          simp [hms, separator]
      · obtain ⟨rfl, rfl, rfl⟩ : [] = ns ∧ false = isEmbedded ∧ input = rest := by
          simpa using h
        exact ⟨Nat.zero_le _, [], .none, by simp⟩

/-! ## Addresses -/

theorem eq_of_ofGroups? {ns : List UInt16} {ip : IpAddress} (h : ofGroups? ns = some ip) :
    ∃ groups : Vector UInt16 8, ip = .v6 groups ∧ groups.toList = ns := by
  rw [ofGroups?] at h
  split at h
  · next hlength => exact ⟨_, (Option.some.inj h).symm, rfl⟩
  · cases h

theorem spells_of_readV6 {ip : IpAddress} (h : readV6 input = some (ip, rest)) :
    ∃ t groups, ip = .v6 groups ∧ Spells t ip ∧ input = t ++ rest := by
  rw [readV6] at h
  generalize hfront : readGroups 8 true input = result at h
  obtain ⟨before, isEmbedded, between⟩ := result
  obtain ⟨hbefore, front, hgroups, rfl⟩ := isGroups_of_readGroups hfront
  have hseparator : (if before = [] then [] else separator true) = [] := by simp [separator]
  rw [hseparator, List.nil_append]
  simp only at h
  split at h
  · obtain ⟨_, hip, heq⟩ := Option.map_eq_some_iff.1 h
    obtain ⟨rfl, rfl⟩ := Prod.mk.inj heq
    obtain ⟨groups, rfl, rfl⟩ := eq_of_ofGroups? hip
    exact ⟨front, groups, rfl, .whole hgroups, rfl⟩
  next hshort =>
  split at h
  · cases h
  next hplain =>
  obtain rfl : isEmbedded = false := eq_false_of_ne_true hplain
  split at h
  · cases h
  next u more hcolons =>
  generalize hback : readGroups (7 - before.length) true more = result at h
  obtain ⟨after, isEmbedded, last⟩ := result
  obtain ⟨hafter, back, hgroups', rfl⟩ := isGroups_of_readGroups hback
  obtain ⟨_, hip, heq⟩ := Option.map_eq_some_iff.1 h
  obtain ⟨rfl, rfl⟩ := Prod.mk.inj heq
  obtain ⟨groups, rfl, hlist⟩ := eq_of_ofGroups? hip
  have hzeros : 0 < 8 - before.length - after.length := by omega
  refine ⟨_, groups, rfl, .shortened hgroups hgroups' hzeros hlist, ?_⟩
  rw [eq_append_of_literal hcolons]
  simp [separator]

/-- The spellings of an address are the texts that are read as the address. -/
theorem parse?_eq_some_iff {t : Text} {ip : IpAddress} : parse? t = some ip ↔ Spells t ip := by
  refine ⟨fun h => ?_, parse?_of_spells⟩
  rw [parse?, readAll_eq_some] at h
  cases hv4 : readV4 t with
  | some result =>
    obtain ⟨other, rest⟩ := result
    rw [or_of_eq hv4] at h
    obtain ⟨rfl, rfl⟩ := Prod.mk.inj (Option.some.inj h)
    obtain ⟨a, b, c, d, rfl, rfl⟩ := eq_append_of_readV4 hv4
    rw [List.append_nil]
    exact .v4 a b c d
  | none =>
    rw [or_of_none hv4] at h
    obtain ⟨u, groups, rfl, hspells, rfl⟩ := spells_of_readV6 h
    rwa [List.append_nil]

end FileServer.IpAddress
