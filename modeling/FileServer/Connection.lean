import FileServer.Exchange

/-!
# Connections

A connection is described by what the peer does: the pieces in which its bytes arrive, how its
side ends, and how much it takes before writing fails. The head of a request is read piece by
piece, and no further than to its blank line; then the response is written and flushed.

* `Scan.advance_append`: scanning two pieces is scanning the bytes of both;
* `Peer.written_prefix`: what is written is a beginning of the response.
-/

namespace FileServer

/-! ## The end of a head -/

/-- Where a scan for the end of a head stands. -/
inductive Scan where
  /-- Nothing has been read. -/
  | start
  /-- A CR has been read, and nothing else. -/
  | startReturn
  /-- Within a line. -/
  | line
  /-- After a line. -/
  | lineStart
  /-- After a line and a CR. -/
  | lineReturn
  deriving DecidableEq, Repr

/-- What a scan has found. -/
inductive Progress where
  /-- The head goes on. -/
  | more (scan : Scan)
  /-- The first line is blank. -/
  | blank
  /-- The blank line after the head. -/
  | complete
  deriving DecidableEq, Repr

namespace Scan

/-- Takes one byte into account. -/
def step (scan : Scan) (b : UInt8) : Progress :=
  if b = 0x0A then
    match scan with
    | start | startReturn => .blank
    | line => .more lineStart
    | lineStart | lineReturn => .complete
  else if b = 0x0D then
    match scan with
    | start => .more startReturn
    | lineStart => .more lineReturn
    | _ => .more line
  else .more line

/-- Scans bytes, and gives those that belong to the head. -/
def advance : Scan → Bytes → Progress × Bytes
  | scan, [] => (.more scan, [])
  | scan, b :: bs =>
    match scan.step b with
    | .more next =>
      let (progress, taken) := advance next bs
      (progress, b :: taken)
    | done => (done, [b])

theorem advance_append {scan next : Scan} {as : Bytes} {taken : Bytes}
    (h : advance scan as = (.more next, taken)) (bs : Bytes) :
    advance scan (as ++ bs) = ((advance next bs).1, taken ++ (advance next bs).2) := by
  induction as generalizing scan taken with
  | nil =>
    simp only [advance, Prod.mk.injEq, Progress.more.injEq] at h
    obtain ⟨rfl, rfl⟩ := h
    simp
  | cons a as ih =>
    simp only [advance, List.cons_append] at h ⊢
    split at h
    · rename_i mid hstep
      simp only [Prod.mk.injEq] at h
      obtain ⟨hprogress, rfl⟩ := h
      have := ih (Prod.ext hprogress rfl)
      simp [this]
    · simp_all

end Scan

/-! ## The peer -/

/-- What comes after the last piece that a peer sends. -/
inductive Ending where
  /-- The peer closes its side. -/
  | closed
  | failed (error : StreamError)
  /-- Nothing ever comes. -/
  | silent
  deriving DecidableEq, Repr

/-- What a peer does on a connection. -/
structure Peer where
  /-- The pieces in which its bytes arrive. -/
  chunks : List Bytes
  ending : Ending
  /-- How many bytes it takes before writing to it fails. -/
  writeLimit : Option (Nat × StreamError)
  /-- Why flushing fails. -/
  flushError : Option StreamError
  deriving DecidableEq, Repr

/-- What was read as the head of a request. -/
inductive Received where
  | head (bytes : Bytes)
  /-- The peer sent nothing, or a blank line. -/
  | nothing
  | failed (error : StreamError)
  /-- The peer sent part of a head and neither goes on nor closes. -/
  | waiting
  deriving DecidableEq, Repr

namespace Peer

/-- Reads pieces until the head is complete, and gives the pieces that were not touched. -/
def readFrom (ending : Ending) : Scan → Bytes → List Bytes → Received × List Bytes
  | _, taken, [] =>
    match ending with
    | .closed => (if taken = [] then .nothing else .head taken, [])
    | .failed error => (.failed error, [])
    | .silent => (.waiting, [])
  | scan, taken, chunk :: chunks =>
    match scan.advance chunk with
    | (.more next, bytes) => readFrom ending next (taken ++ bytes) chunks
    | (.blank, _) => (.nothing, chunks)
    | (.complete, bytes) => (.head (taken ++ bytes), chunks)

/-- Reads the head of a request. -/
def readHead (peer : Peer) : Received × List Bytes := readFrom peer.ending .start [] peer.chunks

/-- What of a response reaches the peer, and whether writing failed. -/
def write (peer : Peer) (bytes : Bytes) : Bytes × Option StreamError :=
  match peer.writeLimit with
  | some (limit, error) =>
    if bytes.length ≤ limit then (bytes, none) else (bytes.take limit, some error)
  | none => (bytes, none)

theorem written_prefix (peer : Peer) (bytes : Bytes) : (peer.write bytes).1 <+: bytes := by
  unfold write
  split
  · split
    · exact List.prefix_refl _
    · exact List.take_prefix _ _
  · exact List.prefix_refl _

end Peer

/-! ## Handling a connection -/

/-- How a connection went. -/
inductive Finish where
  | exchanged (exchange : Exchange)
  /-- There was no request. -/
  | noRequest
  | failed (error : StreamError)
  /-- The server still waits for the peer. -/
  | waiting
  deriving DecidableEq, Repr

/-- What happened on a connection. -/
structure Conversation where
  finish : Finish
  /-- What was written to the peer. -/
  written : Bytes
  /-- Whether the connection was flushed. -/
  flushed : Bool
  /-- The pieces of which nothing was read. -/
  unread : List Bytes
  events : List Event

/-- Sends a reply. -/
def Conversation.send (peer : Peer) (reply : Reply) (unread : List Bytes) : Conversation :=
  match peer.write reply.response.wire with
  | (written, some error) => ⟨.failed error, written, false, unread, reply.events⟩
  | (written, none) =>
    match peer.flushError with
    | some error => ⟨.failed error, written, true, unread, reply.events⟩
    | none => ⟨.exchanged reply.exchange, written, true, unread, reply.events⟩

/-- Reads a request from a peer and answers it. -/
def Conversation.hold (site : Site) (disk : Disk) (now : Nat) (peer : Peer) : Conversation :=
  match peer.readHead with
  | (.head head, unread) => .send peer (Reply.respond site disk now head) unread
  | (.nothing, unread) => ⟨.noRequest, [], false, unread, []⟩
  | (.failed error, unread) => ⟨.failed error, [], false, unread, []⟩
  | (.waiting, unread) => ⟨.waiting, [], false, unread, []⟩

end FileServer
