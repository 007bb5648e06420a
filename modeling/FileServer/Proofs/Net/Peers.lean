import FileServer.Proofs.Net.Reading

/-!
# Spellings of socket addresses

A socket address is spelled as an IPv4 address or an IPv6 address in brackets, and a port; within
the brackets a scope may follow the address, which is no part of it. Ports and scopes may have
leading zeros.

* `numberBelow_append`, `isNumber_of_numberBelow`: how numbers are read;
* `parse?_eq_some_iff`: the texts that are read as a socket address.
-/

namespace FileServer.SocketAddress

open Reader

/-- Whether digits write a number below a bound. -/
def IsNumber (bound : Nat) (digits : Text) (n : Nat) : Prop :=
  digits ≠ [] ∧ (∀ c ∈ digits, c.isDigit) ∧ Decimal.value digits = n ∧ n < bound

/-- Whether a text is a scope, which an address may do without. -/
def IsScope (t : Text) : Prop :=
  t = [] ∨ ∃ digits n, t = '%' :: digits ∧ IsNumber UInt32.size digits n

/-- Whether a text spells a socket address. -/
inductive Spells : Text → SocketAddress → Prop
  | v4 {digits : Text} {port : UInt16} (a b c d : UInt8)
      (hport : IsNumber 65536 digits port.toNat) :
      Spells (IpAddress.renderV4 a b c d ++ ':' :: digits) ⟨.v4 a b c d, port⟩
  | v6 {t scope digits : Text} {groups : Vector UInt16 8} {port : UInt16}
      (ht : IpAddress.Spells t (.v6 groups)) (hscope : IsScope scope)
      (hport : IsNumber 65536 digits port.toNat) :
      Spells ('[' :: (t ++ (scope ++ ']' :: ':' :: digits))) ⟨.v6 groups, port⟩

variable {input rest : Text} {bound n : Nat} {port : UInt16}

/-! ## Numbers -/

theorem numberBelow_append {digits : Text} (h : IsNumber bound digits n)
    (hrest : ∀ c ∈ rest.head?, c.isDigit = false) :
    numberBelow bound (digits ++ rest) = some (n, rest) := by
  obtain ⟨hne, hdigits, hvalue, hlt⟩ := h
  obtain ⟨htake, hdrop⟩ := span_append (p := Char.isDigit) hdigits hrest
  have hread : Decimal.parse? digits = some n := by
    rw [Decimal.parse?, if_pos ⟨hne, List.all_eq_true.2 hdigits⟩, hvalue]
  simp only [numberBelow, htake, hdrop, hread, if_pos hlt]

theorem isNumber_of_numberBelow (h : numberBelow bound input = some (n, rest)) :
    ∃ digits, input = digits ++ rest ∧ IsNumber bound digits n := by
  rw [numberBelow] at h
  split at h
  · next m hread =>
    obtain ⟨⟨hne, hdigits⟩, hvalue⟩ := Option.ite_none_right_eq_some.1 hread
    obtain ⟨hlt, heq⟩ := Option.ite_none_right_eq_some.1 h
    obtain ⟨rfl, rfl⟩ := Prod.mk.inj (Option.some.inj heq)
    exact ⟨_, List.takeWhile_append_dropWhile.symm, hne, List.all_eq_true.1 hdigits,
      Option.some.inj hvalue, hlt⟩
  · cases h

/-! ## Ports and scopes -/

theorem readPort_append {digits : Text} (h : IsNumber 65536 digits port.toNat) :
    readPort (':' :: digits) = some (port, []) := by
  have hnumber : numberBelow 65536 (digits ++ []) = some (port.toNat, []) :=
    numberBelow_append h (by simp)
  rw [List.append_nil] at hnumber
  rw [readPort, bind_of_eq (literal_singleton ':' digits), map_of_eq hnumber,
    UInt16.ofNat_toNat]

theorem isNumber_of_readPort (h : readPort input = some (port, rest)) :
    ∃ digits, input = ':' :: (digits ++ rest) ∧ IsNumber 65536 digits port.toNat := by
  obtain ⟨_, between, hcolon, h⟩ := bind_eq_some.1 h
  obtain ⟨n, _, hnumber, h⟩ := bind_eq_some.1 (by rwa [map_eq_pure_bind] at h)
  obtain ⟨rfl, rfl⟩ := Prod.mk.inj (Option.some.inj h)
  obtain ⟨digits, rfl, hne, hdigits, hvalue, hlt⟩ := isNumber_of_numberBelow hnumber
  refine ⟨digits, eq_append_of_literal hcolon, hne, hdigits, ?_⟩
  rw [UInt16.toNat_ofNat_of_lt' hlt]
  exact ⟨hvalue, hlt⟩

theorem readScope_append {scope : Text} (h : IsScope scope) (rest : Text) :
    (readScope <|> pure () : Reader Unit) (scope ++ ']' :: rest) = some ((), ']' :: rest) := by
  obtain rfl | ⟨digits, n, rfl, hnumber⟩ := h
  · have hnone : readScope (']' :: rest) = none := bind_eq_none fun u more hliteral => by
      rw [literal_singleton_eq_none (by simp)] at hliteral
      cases hliteral
    exact or_of_none hnone
  · apply or_of_eq
    rw [List.cons_append, readScope, bind_of_eq (literal_singleton '%' _),
      bind_of_eq (numberBelow_append hnumber (by rintro c ⟨⟩; rfl))]
    rfl

theorem isScope_of_readScope {u : Unit}
    (h : (readScope <|> pure () : Reader Unit) input = some (u, rest)) :
    ∃ scope, input = scope ++ rest ∧ IsScope scope := by
  cases hscope : readScope input with
  | some result =>
    obtain ⟨u, after⟩ := result
    rw [or_of_eq hscope] at h
    obtain ⟨-, rfl⟩ := Prod.mk.inj (Option.some.inj h)
    obtain ⟨_, between, hsign, hscope⟩ := bind_eq_some.1 hscope
    obtain ⟨n, after, hnumber, hscope⟩ := bind_eq_some.1 hscope
    obtain ⟨-, rfl⟩ := Prod.mk.inj (Option.some.inj hscope)
    obtain ⟨digits, rfl, hdigits⟩ := isNumber_of_numberBelow hnumber
    refine ⟨'%' :: digits, ?_, .inr ⟨digits, n, rfl, hdigits⟩⟩
    rw [eq_append_of_literal hsign]
    rfl
  | none =>
    rw [or_of_none hscope] at h
    obtain ⟨-, rfl⟩ := Prod.mk.inj (Option.some.inj h)
    exact ⟨[], rfl, .inl rfl⟩

/-! ## Socket addresses -/

theorem IsScope.ends {scope : Text} (h : IsScope scope) (rest : Text) :
    IpAddress.Ends (scope ++ ']' :: rest) := by
  obtain rfl | ⟨digits, n, rfl, -⟩ := h
  · exact IpAddress.ends_cons (by decide) (by decide) (by decide) rest
  · exact IpAddress.ends_cons (by decide) (by decide) (by decide) _

theorem parse?_of_spells {t : Text} {address : SocketAddress} (h : Spells t address) :
    parse? t = some address := by
  rw [parse?, readAll_eq_some]
  cases h with
  | v4 a b c d hport =>
    apply or_of_eq
    rw [readV4, bind_of_eq (IpAddress.readV4_append a b c d (by rintro c ⟨⟩; rfl)),
      bind_of_eq (readPort_append hport)]
    rfl
  | @v6 t scope digits groups port ht hscope hport =>
    have hv4 : readV4 ('[' :: (t ++ (scope ++ ']' :: ':' :: digits))) = none :=
      bind_eq_none fun ip more hread => by
        rw [IpAddress.readV4_eq_none (by simp)] at hread
        cases hread
    rw [or_of_none hv4, readV6, bind_of_eq (literal_singleton '[' _),
      bind_of_eq (IpAddress.readV6_append ht (hscope.ends _)),
      bind_of_eq (readScope_append hscope _), bind_of_eq (literal_singleton ']' _),
      bind_of_eq (readPort_append hport)]
    rfl

/-- The spellings of a socket address are the texts that are read as it. -/
theorem parse?_eq_some_iff {t : Text} {address : SocketAddress} :
    parse? t = some address ↔ Spells t address := by
  refine ⟨fun h => ?_, parse?_of_spells⟩
  rw [parse?, readAll_eq_some] at h
  cases hv4 : readV4 t with
  | some result =>
    obtain ⟨other, rest⟩ := result
    rw [or_of_eq hv4] at h
    obtain ⟨rfl, rfl⟩ := Prod.mk.inj (Option.some.inj h)
    obtain ⟨ip, between, hip, h⟩ := bind_eq_some.1 hv4
    obtain ⟨port, _, hport, h⟩ := bind_eq_some.1 h
    obtain ⟨rfl, rfl⟩ := Prod.mk.inj (Option.some.inj h)
    obtain ⟨a, b, c, d, rfl, rfl⟩ := IpAddress.eq_append_of_readV4 hip
    obtain ⟨digits, rfl, hdigits⟩ := isNumber_of_readPort hport
    rw [List.append_nil]
    exact .v4 a b c d hdigits
  | none =>
    rw [or_of_none hv4] at h
    obtain ⟨_, _, hopen, h⟩ := bind_eq_some.1 h
    obtain ⟨ip, _, hip, h⟩ := bind_eq_some.1 h
    obtain ⟨_, _, hread, h⟩ := bind_eq_some.1 h
    obtain ⟨_, _, hclose, h⟩ := bind_eq_some.1 h
    obtain ⟨port, _, hport, h⟩ := bind_eq_some.1 h
    obtain ⟨rfl, rfl⟩ := Prod.mk.inj (Option.some.inj h)
    obtain ⟨u, groups, rfl, hspells, rfl⟩ := IpAddress.spells_of_readV6 hip
    obtain ⟨scope, rfl, hscope⟩ := isScope_of_readScope hread
    obtain ⟨digits, rfl, hdigits⟩ := isNumber_of_readPort hport
    rw [eq_append_of_literal hopen, eq_append_of_literal hclose, List.append_nil]
    exact .v6 hspells hscope hdigits

end FileServer.SocketAddress
