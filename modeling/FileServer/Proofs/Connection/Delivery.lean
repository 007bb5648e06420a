import FileServer.Http.MediaTable
import FileServer.Proofs.Connection.HeadEnd
import Mathlib.Data.List.Infix

/-!
# The head of a request, however it arrives

What is read as the head depends on the bytes of a stream and on how it ends (`IsReceived`), not on
the pieces in which the bytes arrive. Reading stops with the piece that decides where the head ends,
so nothing that comes after this piece has any influence on the connection: not other bytes, not an
error, and not silence.

* `isReceived_readFrom`: the induction over the pieces, for what is read;
* `readFrom_append`, `readFrom_of_decided`: pieces are passed over while the end of the head is
  open, and no piece is touched after the one that decides it;
* `hold_delivery`: what follows for a connection.
-/

namespace FileServer

instance (bytes : Bytes) : Decidable (Undecided bytes) :=
  decidable_of_iff (¬ StartsBlank bytes ∧ ∀ other ∈ bytes.inits, ¬ EndsBlank other)
    ⟨fun h => ⟨h.1, fun other hother => h.2 other ((List.mem_inits _ _).2 hother)⟩,
      fun h => ⟨h.1, fun other hother => h.2 other ((List.mem_inits _ _).1 hother)⟩⟩

/-- What is received when all bytes of a stream were read and the end of the head is still open. -/
def Ending.received (ending : Ending) (bytes : Bytes) : Received :=
  match ending with
  | .closed => if bytes = [] then .nothing else .head bytes
  | .failed error => .failed error
  | .silent => .waiting

theorem Ending.received_eq_nothing_iff {ending : Ending} {bytes : Bytes} :
    ending.received bytes = .nothing ↔ bytes = [] ∧ ending = .closed := by
  cases ending with
  | closed => by_cases hnil : bytes = [] <;> simp [received, hnil]
  | failed | silent => simp [received]

theorem Ending.received_eq_head_iff {ending : Ending} {bytes head : Bytes} :
    ending.received bytes = .head head ↔ bytes ≠ [] ∧ ending = .closed ∧ head = bytes := by
  cases ending with
  | closed => by_cases hnil : bytes = [] <;> simp [received, hnil, eq_comm]
  | failed | silent => simp [received]

/-- What is to be received of a stream, from its bytes and its end. -/
inductive IsReceived (bytes : Bytes) (ending : Ending) : Received → Prop
  | blank (h : StartsBlank bytes) : IsReceived bytes ending .nothing
  | head {head : Bytes} (h : ¬ StartsBlank bytes) (hhead : IsHeadOf head bytes) :
      IsReceived bytes ending (.head head)
  | ended (h : Undecided bytes) : IsReceived bytes ending (ending.received bytes)

theorem IsReceived.unique {bytes : Bytes} {ending : Ending} {received received' : Received}
    (h : IsReceived bytes ending received) (h' : IsReceived bytes ending received') :
    received = received' := by
  cases h with
  | blank hblank =>
    cases h' with
    | blank => rfl
    | head hnot => exact absurd hblank hnot
    | ended hopen => exact absurd hblank hopen.not_startsBlank
  | head hnot hhead =>
    cases h' with
    | blank hblank => exact absurd hblank hnot
    | head _ hhead' => rw [hhead.unique hhead']
    | ended hopen => exact absurd hhead hopen.not_isHeadOf
  | ended hopen =>
    cases h' with
    | blank hblank => exact absurd hblank hopen.not_startsBlank
    | head _ hhead => exact absurd hhead hopen.not_isHeadOf
    | ended => rfl

theorem isReceived_of_advance_complete {bytes head : Bytes} (ending : Ending)
    (h : Scan.start.advance bytes = (.complete, head)) : IsReceived bytes ending (.head head) := by
  have hfinds := Scan.finds_advance undecided_nil bytes
  rw [show Scan.after [] = .start from rfl, h] at hfinds
  cases hfinds with
  | complete hnot hhead => exact .head hnot hhead

theorem isReceived_of_advance_more {bytes taken : Bytes} {scan : Scan} (ending : Ending)
    (h : Scan.start.advance bytes = (.more scan, taken)) :
    IsReceived bytes ending (ending.received bytes) := by
  have hfinds := Scan.finds_advance undecided_nil bytes
  rw [show Scan.after [] = .start from rfl, h] at hfinds
  cases hfinds with
  | more hopen => exact .ended hopen

theorem isReceived_nothing_iff {bytes : Bytes} {ending : Ending} :
    IsReceived bytes ending .nothing ↔ StartsBlank bytes ∨ bytes = [] ∧ ending = .closed := by
  constructor
  · intro h
    generalize hreceived : Received.nothing = received at h
    cases h with
    | blank hblank => exact .inl hblank
    | head => cases hreceived
    | ended => exact .inr (Ending.received_eq_nothing_iff.1 hreceived.symm)
  · rintro (hblank | ⟨rfl, rfl⟩)
    · exact .blank hblank
    · exact .ended undecided_nil

theorem isReceived_head_iff {head bytes : Bytes} {ending : Ending} :
    IsReceived bytes ending (.head head) ↔ ¬ StartsBlank bytes ∧ (IsHeadOf head bytes ∨
      Undecided bytes ∧ bytes ≠ [] ∧ ending = .closed ∧ head = bytes) := by
  constructor
  · intro h
    generalize hreceived : Received.head head = received at h
    cases h with
    | blank => cases hreceived
    | head hnot hhead =>
      obtain rfl := Received.head.inj hreceived
      exact ⟨hnot, .inl hhead⟩
    | ended hopen =>
      exact ⟨hopen.not_startsBlank, .inr ⟨hopen, Ending.received_eq_head_iff.1 hreceived.symm⟩⟩
  · rintro ⟨hnot, hhead | ⟨hopen, hended⟩⟩
    · exact .head hnot hhead
    · rw [← Ending.received_eq_head_iff.2 hended]
      exact .ended hopen

theorem IsReceived.nothing_or_head {bytes : Bytes} {received : Received}
    (h : IsReceived bytes .closed received) :
    received = .nothing ∨ ∃ head, received = .head head := by
  cases h with
  | blank => exact .inl rfl
  | head => exact .inr ⟨_, rfl⟩
  | ended =>
    by_cases hnil : bytes = []
    · exact .inl (if_pos hnil)
    · exact .inr ⟨_, if_neg hnil⟩

namespace Peer

open Scan (after Finds finds_advance)

variable {before chunk : Bytes}

/-! ## Reading piece by piece -/

/-- A piece that leaves the end of the head open is taken whole. -/
theorem advance_of_undecided (h : Undecided (before ++ chunk)) :
    (after before).advance chunk = (.more (after (before ++ chunk)), chunk) := by
  have hfinds := finds_advance h.of_append chunk
  generalize (after before).advance chunk = found at hfinds
  cases hfinds with
  | more => rfl
  | blank hblank => exact absurd hblank h.not_startsBlank
  | complete _ hhead => exact absurd hhead h.not_isHeadOf

theorem readFrom_append (ending : Ending) {first : List Bytes}
    (h : Undecided (before ++ first.flatten)) (rest : List Bytes) :
    readFrom ending (after before) before (first ++ rest) =
      readFrom ending (after (before ++ first.flatten)) (before ++ first.flatten) rest := by
  induction first generalizing before with
  | nil => simp
  | cons chunk first ih =>
    rw [List.flatten_cons, ← List.append_assoc] at h ⊢
    rw [List.cons_append, readFrom, advance_of_undecided h.of_append]
    exact ih h

/-- No piece is touched after the one that decides where the head ends. -/
theorem readFrom_of_decided (h : Undecided before) (hdecided : ¬ Undecided (before ++ chunk)) :
    ∃ received, ∀ ending rest,
      readFrom ending (after before) before (chunk :: rest) = (received, rest) := by
  have hfinds := finds_advance h chunk
  generalize hadvance : (after before).advance chunk = found at hfinds
  cases hfinds with
  | more hopen => exact absurd hopen hdecided
  | blank => exact ⟨.nothing, fun ending rest => by rw [readFrom, hadvance]⟩
  | complete => exact ⟨.head _, fun ending rest => by rw [readFrom, hadvance]⟩

/-- What is to be received of a stream is received. -/
theorem isReceived_readFrom (ending : Ending) (h : Undecided before) (chunks : List Bytes) :
    IsReceived (before ++ chunks.flatten) ending
      (readFrom ending (after before) before chunks).1 := by
  induction chunks generalizing before with
  | nil =>
    have hreceived : (readFrom ending (after before) before []).1 = ending.received before := by
      cases ending <;> rfl
    rw [hreceived, List.flatten_nil, List.append_nil]
    exact .ended h
  | cons chunk chunks ih =>
    rw [List.flatten_cons, ← List.append_assoc, readFrom]
    have hfinds := finds_advance h chunk
    generalize (after before).advance chunk = found at hfinds ⊢
    cases hfinds with
    | more hopen => exact ih hopen
    | blank hblank => exact .blank (hblank.append _)
    | complete hnot hhead =>
      have hlonger := hhead.append chunks.flatten
      refine .head ?_ hlonger
      rwa [hlonger.startsBlank_iff, ← hhead.startsBlank_iff]

/-! ## Reading a head -/

theorem isReceived_readHead (peer : Peer) :
    IsReceived peer.chunks.flatten peer.ending peer.readHead.1 :=
  isReceived_readFrom peer.ending undecided_nil peer.chunks

/-- What is read is a matter of the bytes and of how they end. -/
theorem readHead_eq_iff {peer : Peer} {received : Received} :
    peer.readHead.1 = received ↔ IsReceived peer.chunks.flatten peer.ending received := by
  refine ⟨?_, fun h => peer.isReceived_readHead.unique h⟩
  rintro rfl
  exact peer.isReceived_readHead

/-- A head that ends with its blank line is read whatever follows it. -/
theorem readHead_of_append {peer peer' : Peer} {head more : Bytes}
    (h : peer.readHead.1 = .head head) (hends : EndsBlank head)
    (hbytes : peer'.chunks.flatten = head ++ more) : peer'.readHead.1 = .head head := by
  rw [readHead_eq_iff, isReceived_head_iff] at h ⊢
  obtain ⟨hnot, hhead | ⟨hopen, -, -, rfl⟩⟩ := h
  · have hmore := hhead.self.append more
    rw [hbytes, hmore.startsBlank_iff, ← hhead.startsBlank_iff]
    exact ⟨hnot, .inl hmore⟩
  · exact absurd hends (hopen.not_endsBlank _ (List.prefix_refl _))

theorem readHead_of_undecided {peer : Peer} (h : Undecided peer.chunks.flatten) :
    peer.readHead = (peer.ending.received peer.chunks.flatten, []) := by
  have hread := @readFrom_append [] peer.ending peer.chunks h []
  rw [List.append_nil, List.nil_append] at hread
  refine hread.trans ?_
  cases peer.ending <;> rfl

/-- Nothing that comes after the deciding piece is touched or has an influence. -/
theorem exists_readHead_of_decided {first : List Bytes} (hopen : Undecided first.flatten)
    (hdecided : ¬ Undecided (first.flatten ++ chunk)) :
    ∃ received, ∀ rest ending writeLimit flushError,
      readHead ⟨first ++ chunk :: rest, ending, writeLimit, flushError⟩ = (received, rest) := by
  obtain ⟨received, hreceived⟩ := readFrom_of_decided hopen hdecided
  refine ⟨received, fun rest ending writeLimit flushError => ?_⟩
  rw [readHead, ← hreceived ending rest]
  exact @readFrom_append [] ending first hopen (chunk :: rest)

end Peer

namespace Conversation

variable {site : Site} {disk : Disk} {now : Nat}

/-- A connection is the same but for what is left unread, if the same is read at first. -/
theorem hold_eq_of_readHead {peer peer' : Peer} (hread : peer'.readHead.1 = peer.readHead.1)
    (hlimit : peer'.writeLimit = peer.writeLimit) (hflush : peer'.flushError = peer.flushError) :
    hold site disk now peer' =
      { hold site disk now peer with unread := peer'.readHead.2 } := by
  have hwrite : peer'.write = peer.write := by
    funext bytes
    rw [Peer.write, Peer.write, hlimit]
  unfold hold
  generalize peer'.readHead = read' at hread ⊢
  generalize peer.readHead = read at hread
  obtain ⟨received', unread'⟩ := read'
  obtain ⟨received, unread⟩ := read
  obtain rfl : received' = received := hread
  cases received' with
  | head head =>
    simp only [send, hwrite, hflush]
    split
    · rfl
    · split <;> rfl
  | nothing | failed | waiting => rfl

theorem unread_hold (peer : Peer) : (hold site disk now peer).unread = peer.readHead.2 := by
  rw [@hold_eq_of_readHead site disk now peer peer rfl rfl rfl]

/-- What is read as the head of a request, and all that follows from it, depends on the bytes that
a peer sends and on how its side ends. There is no request if the first line is blank or the peer
closes its side at once. Otherwise the head is the shortest beginning that ends with a blank line,
or everything if the peer closes its side before that; if its side breaks before that, nothing is
written. Once a piece has come that decides this, no other piece is touched, and neither what the
peer goes on to send nor how its side ends changes anything. -/
theorem hold_delivery (site : Site) (disk : Disk) (now : Nat) (peer : Peer) :
    let bytes := peer.chunks.flatten
    (peer.readHead.1 = .nothing ↔ StartsBlank bytes ∨ bytes = [] ∧ peer.ending = .closed) ∧
    (∀ head, peer.readHead.1 = .head head ↔ ¬ StartsBlank bytes ∧ (IsHeadOf head bytes ∨
      Undecided bytes ∧ bytes ≠ [] ∧ peer.ending = .closed ∧ head = bytes)) ∧
    (peer.ending = .closed → peer.readHead.1 = .nothing ∨ ∃ head, peer.readHead.1 = .head head) ∧
    (∀ error, peer.ending = .failed error → Undecided bytes →
      hold site disk now peer = ⟨.failed error, [], false, [], []⟩) ∧
    (∀ chunks, chunks.flatten = bytes → ∃ unread,
      { peer with chunks }.readHead = (peer.readHead.1, unread) ∧
      hold site disk now { peer with chunks } = { hold site disk now peer with unread }) ∧
    ∀ first chunk rest, peer.chunks = first ++ chunk :: rest → Undecided first.flatten →
      ¬ Undecided (first.flatten ++ chunk) →
      (hold site disk now peer).unread = rest ∧
      ∀ more ending, hold site disk now { peer with chunks := first ++ chunk :: more, ending } =
        { hold site disk now peer with unread := more } := by
  intro bytes
  refine ⟨Peer.readHead_eq_iff.trans isReceived_nothing_iff,
    fun head => Peer.readHead_eq_iff.trans isReceived_head_iff, fun hclosed => ?_,
    fun error hfailed hopen => ?_, fun chunks hchunks => ?_, ?_⟩
  · have hreceived := peer.isReceived_readHead
    rw [hclosed] at hreceived
    exact hreceived.nothing_or_head
  · have hread := Peer.readHead_of_undecided hopen
    rw [hfailed, Ending.received] at hread
    simp only [hold, hread]
  · have hsame : ({ peer with chunks } : Peer).readHead.1 = peer.readHead.1 := by
      rw [Peer.readHead_eq_iff, show ({ peer with chunks } : Peer).chunks.flatten = _ from hchunks]
      exact peer.isReceived_readHead
    exact ⟨({ peer with chunks } : Peer).readHead.2, Prod.ext hsame rfl,
      hold_eq_of_readHead hsame rfl rfl⟩
  · intro first chunk rest hchunks hopen hdecided
    obtain ⟨received, hread⟩ := Peer.exists_readHead_of_decided hopen hdecided
    have hpeer : peer.readHead = (received, rest) := by
      obtain ⟨chunks, ending, writeLimit, flushError⟩ := peer
      obtain rfl : chunks = _ := hchunks
      exact hread rest ending writeLimit flushError
    refine ⟨by rw [unread_hold, hpeer], fun more ending => ?_⟩
    have hmore := hread more ending peer.writeLimit peer.flushError
    have hsame : ({ peer with chunks := first ++ chunk :: more, ending } : Peer).readHead.1 =
        peer.readHead.1 := by rw [hmore, hpeer]
    rw [hold_eq_of_readHead hsame rfl rfl, hmore]

/-- A blank line in pieces: the connection does not wait for what comes after it, and an error that
comes before its last byte ends the connection. -/
theorem hold_delivery_of_pieces :
    let bytes := fun s : String => Utf8.encode s.toList
    let first := [bytes "GET / HTTP/1.0\r", bytes "\n", bytes "\r"]
    let peer : Peer := ⟨first ++ [bytes "\nbody", bytes "more"], .silent, none, none⟩
    let broken : Peer := ⟨first, .failed .timedOut, none, none⟩
    let hold := hold ⟨[bytes "srv"]⟩ ⟨[]⟩ 0
    Undecided first.flatten ∧ ¬ Undecided (first.flatten ++ bytes "\nbody") ∧
      (hold peer).unread = [bytes "more"] ∧
      hold { peer with chunks := first ++ [bytes "\nbody"], ending := .failed .timedOut } =
        { hold peer with unread := [] } ∧
      hold broken = ⟨.failed .timedOut, [], false, [], []⟩ := by
  intro bytes first peer broken hold
  have hopen : Undecided first.flatten := by decide +kernel
  have hdecided : ¬ Undecided (first.flatten ++ bytes "\nbody") := by decide +kernel
  obtain ⟨-, -, -, -, -, hpieces⟩ := hold_delivery ⟨[bytes "srv"]⟩ ⟨[]⟩ 0 peer
  obtain ⟨-, -, -, hfailed, -, -⟩ := hold_delivery ⟨[bytes "srv"]⟩ ⟨[]⟩ 0 broken
  obtain ⟨hunread, hmore⟩ := hpieces first (bytes "\nbody") [bytes "more"] rfl hopen hdecided
  exact ⟨hopen, hdecided, hunread, hmore [] (.failed .timedOut), hfailed .timedOut rfl hopen⟩

end Conversation

end FileServer
