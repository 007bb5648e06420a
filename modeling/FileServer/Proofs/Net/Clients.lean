import FileServer.AccessLog
import FileServer.Proofs.Net.Peers

/-!
# The name of a client

A client is named by its IP address in writing. This is one of the spellings of the address, so
that the address is read back from the name: leaving out the first of the longest runs of zero
groups loses nothing, and neither does the spelling of an IPv4 address that an IPv6 address stands
for.

* `zeroRun_spec`: what is left out in writing is a run of zero groups;
* `spells_render`: an address in writing is a spelling of it;
* `mem_render`: the characters of an address in writing;
* `parses_rawIp`: the name of a client tells its address, and nothing else of it.
-/

namespace FileServer

namespace IpAddress

/-! ## Runs of zeros -/

theorem leadingZeros_spec (ns : List UInt16) :
    ns = List.replicate (leadingZeros ns) 0 ++ ns.drop (leadingZeros ns) := by
  have hzeros : ns.takeWhile (· = 0) = List.replicate (leadingZeros ns) 0 := by
    refine List.eq_replicate_iff.2 ⟨rfl, fun n hn => ?_⟩
    exact of_decide_eq_true (List.mem_takeWhile_imp (p := fun n => decide (n = 0)) hn)
  rw [← hzeros]
  exact (List.prefix_iff_eq_append.1 (List.takeWhile_prefix _)).symm

/-- The groups are those before the run, zeros, and those after it. -/
theorem zeroRun_spec (ns : List UInt16) :
    ns = ns.take (zeroRun ns).1 ++ List.replicate (zeroRun ns).2 0 ++
      ns.drop ((zeroRun ns).1 + (zeroRun ns).2) := by
  induction ns with
  | nil => rfl
  | cons n ns ih =>
    simp only [zeroRun]
    split
    · rw [List.take_zero, List.nil_append, Nat.zero_add]
      exact leadingZeros_spec (n :: ns)
    · rw [Nat.add_right_comm, List.take_succ_cons, List.drop_succ_cons, List.cons_append,
        List.cons_append, ← ih]

/-! ## Writing -/

theorem isGroup_toDigits (n : UInt16) : IsGroup (Nat.toDigits 16 n.toNat) n := by
  have hlt : n.toNat < 16 ^ 4 := n.toNat_lt
  refine ⟨Nat.toDigits_ne_nil, ?_, fun c hc => Hexadecimal.isSome_digit?_of_mem_toDigits hc,
    Hexadecimal.value_toDigits n.toNat⟩
  exact (Nat.length_toDigits_le_iff (by decide) (by decide)).2 hlt

theorem isGroups_renderGroups (ns : List UInt16) : IsGroups false (renderGroups ns) ns := by
  induction ns with
  | nil => exact .none
  | cons n ns ih =>
    cases ns with
    | nil =>
      rw [renderGroups, List.map_singleton, List.intercalate_singleton]
      exact .group (isGroup_toDigits n)
    | cons m ns =>
      rw [renderGroups, List.map_cons, List.map_cons, List.intercalate_cons_cons,
        List.append_assoc]
      exact .more (isGroup_toDigits n) (List.cons_ne_nil m ns) ih

/-- A group is put together again from its two bytes. -/
theorem join_bytes (n : UInt16) :
    (n >>> 8).toUInt8.toUInt16 <<< 8 ||| n.toUInt8.toUInt16 = n := by
  apply UInt16.toNat_inj.1
  have hlt : n.toNat < 2 ^ 16 := n.toNat_lt
  have hhigh : ((n >>> 8).toUInt8.toUInt16 <<< 8).toNat = n.toNat / 2 ^ 8 * 2 ^ 8 := by
    simp [Nat.shiftRight_eq_div_pow, Nat.shiftLeft_eq]
    omega
  have hlow : n.toUInt8.toUInt16.toNat = n.toNat % 2 ^ 8 := by simp
  rw [UInt16.toNat_or, hhigh, hlow, ← Nat.shiftLeft_eq,
    ← Nat.shiftLeft_add_eq_or_of_lt (Nat.mod_lt _ (by decide)), Nat.shiftLeft_eq,
    Nat.div_add_mod']

/-- The groups of an IPv6 address that stands for an IPv4 address. -/
theorem eq_of_mapped? {ns : List UInt16} {a b c d : UInt8} (h : mapped? ns = some (a, b, c, d)) :
    ns = List.replicate 5 0 ++ 0xFFFF :: groupsOfV4 a b c d := by
  unfold mapped? at h
  split at h
  · next high low =>
    obtain ⟨rfl, rfl, rfl, rfl⟩ : (high >>> 8).toUInt8 = a ∧ high.toUInt8 = b ∧
        (low >>> 8).toUInt8 = c ∧ low.toUInt8 = d := by
      simpa using h
    rw [groupsOfV4, join_bytes, join_bytes]
    rfl
  · cases h

/-- An address in writing is a spelling of it. -/
theorem spells_render (ip : IpAddress) : Spells ip.render ip := by
  cases ip with
  | v4 a b c d => exact .v4 a b c d
  | v6 groups =>
    rw [render, renderV6]
    split
    · next a b c d hmapped =>
      have hffff : IsGroup "ffff".toList 0xFFFF := by
        refine ⟨by decide, by decide, fun c hc => ?_, rfl⟩
        rw [List.eq_of_mem_replicate (show c ∈ List.replicate 4 'f' from hc)]
        rfl
      have hback : IsGroups true ("ffff".toList ++ ':' :: renderV4 a b c d)
          (0xFFFF :: groupsOfV4 a b c d) :=
        .more hffff (by simp [groupsOfV4]) (.embedded a b c d)
      exact .shortened .none hback (show 0 < 5 by decide) (eq_of_mapped? hmapped)
    · simp only
      split
      · next hrun =>
        exact .shortened (isGroups_renderGroups _) (isGroups_renderGroups _)
          (show 0 < (zeroRun groups.toList).2 by omega) (zeroRun_spec groups.toList)
      · exact .whole (isGroups_renderGroups groups.toList)

/-! ## Characters -/

/-- Whether a character may stand in an address. -/
def IsAddressChar (c : Char) : Prop := c = '.' ∨ c = ':' ∨ (Hexadecimal.digit? c).isSome

instance (c : Char) : Decidable (IsAddressChar c) :=
  inferInstanceAs (Decidable (c = '.' ∨ c = ':' ∨ (Hexadecimal.digit? c).isSome))

theorem mem_renderV4 {a b c d : UInt8} {x : Char} (h : x ∈ renderV4 a b c d) : IsAddressChar x := by
  have hdigit : ∀ {n : Nat}, x ∈ Decimal.render n → IsAddressChar x := fun hx => by
    refine .inr (.inr ?_)
    rw [Hexadecimal.digit?, if_pos (Decimal.render_isDigit hx), Option.isSome_some]
  simp only [renderV4_eq, List.mem_append, List.mem_singleton] at h
  rcases h with h | rfl | h | rfl | h | rfl | h
  · exact hdigit h
  · exact .inl rfl
  · exact hdigit h
  · exact .inl rfl
  · exact hdigit h
  · exact .inl rfl
  · exact hdigit h

theorem IsGroups.mem {isEmbedded : Bool} {t : Text} {ns : List UInt16}
    (h : IsGroups isEmbedded t ns) {x : Char} (hx : x ∈ t) : IsAddressChar x := by
  induction h with
  | none => cases hx
  | group ht => exact .inr (.inr (ht.2.2.1 x hx))
  | embedded => exact mem_renderV4 hx
  | more ht _ _ ih =>
    rw [List.mem_append, List.mem_cons] at hx
    rcases hx with hx | rfl | hx
    · exact .inr (.inr (ht.2.2.1 x hx))
    · exact .inr (.inl rfl)
    · exact ih hx

theorem Spells.mem {t : Text} {ip : IpAddress} (h : Spells t ip) {x : Char} (hx : x ∈ t) :
    IsAddressChar x := by
  cases h with
  | v4 => exact mem_renderV4 hx
  | whole hgroups => exact hgroups.mem hx
  | shortened hfront hback =>
    rw [List.mem_append, List.mem_append] at hx
    rcases hx with (hx | hx) | hx
    · exact hfront.mem hx
    · exact .inr (.inl (List.eq_of_mem_replicate (show x ∈ List.replicate 2 ':' from hx)))
    · exact hback.mem hx

theorem not_mem_render {x : Char} (h : ¬ IsAddressChar x) (ip : IpAddress) : x ∉ ip.render :=
  fun hx => h ((spells_render ip).mem hx)

theorem render_injective {ip other : IpAddress} (h : ip.render = other.render) : ip = other := by
  have hread := parse?_of_spells (spells_render ip)
  rw [h, parse?_of_spells (spells_render other)] at hread
  exact (Option.some.inj hread).symm

/-- The IPv6 address that stands for an IPv4 address. -/
def mapped (a b c d : UInt8) : IpAddress :=
  .v6 #v[0, 0, 0, 0, 0, 0xFFFF, a.toUInt16 <<< 8 ||| b.toUInt16, c.toUInt16 <<< 8 ||| d.toUInt16]

end IpAddress

/-! ## Clients -/

/-- The name of a client is read as its address, so that two clients have one name just if they
have one address. The text that the client's socket address was read from may be any spelling of
it; how it is spelled, the port and the scope do not matter. An IPv4 address and the IPv6 address
that stands for it have different names. -/
theorem parses_rawIp :
    (∀ t peer, SocketAddress.parse? t = some peer ↔ SocketAddress.Spells t peer) ∧
    (∀ t peer, SocketAddress.parse? t = some peer →
      IpAddress.parse? (rawIp peer) = some peer.ip) ∧
    (∀ t u peer other, SocketAddress.parse? t = some peer → SocketAddress.parse? u = some other →
      (rawIp peer = rawIp other ↔ peer.ip = other.ip)) ∧
    ∀ a b c d port other,
      rawIp ⟨.v4 a b c d, port⟩ ≠ rawIp ⟨IpAddress.mapped a b c d, other⟩ := by
  refine ⟨fun t peer => SocketAddress.parse?_eq_some_iff, fun t peer _ => ?_,
    fun t u peer other _ _ => ⟨fun h => IpAddress.render_injective h, fun h => ?_⟩,
    fun a b c d port other h => ?_⟩
  · exact IpAddress.parse?_of_spells (IpAddress.spells_render peer.ip)
  · rw [rawIp, rawIp, h]
  · cases IpAddress.render_injective h

/-- Two spellings, with different ports and one with a scope, of the address `::ffff:1.2.3.4`. -/
theorem parses_rawIp_of_mapped :
    ∃ peer other, SocketAddress.parse? "[::FFFF:1.2.3.4%7]:080".toList = some peer ∧
      SocketAddress.parse? "[0:0:0:0:0:ffff:0102:304]:443".toList = some other ∧
      peer ≠ other ∧ rawIp peer = rawIp other ∧
      IpAddress.parse? (rawIp peer) = some peer.ip := by
  have hpeer : SocketAddress.parse? "[::FFFF:1.2.3.4%7]:080".toList =
      some ⟨IpAddress.mapped 1 2 3 4, 80⟩ := by decide +kernel
  have hother : SocketAddress.parse? "[0:0:0:0:0:ffff:0102:304]:443".toList =
      some ⟨IpAddress.mapped 1 2 3 4, 443⟩ := by decide +kernel
  exact ⟨_, _, hpeer, hother, by decide,
    (parses_rawIp.2.2.1 _ _ _ _ hpeer hother).2 rfl, parses_rawIp.2.1 _ _ hpeer⟩

end FileServer
