import FileServer.Http.MediaTable
import FileServer.Proofs.Wire
import FileServer.Server

/-!
# The log and the wire

The access log is written from the exchange and the wire from the response, and a receiver knows
only the wire. What is logged is what a receiver finds there: the number on the status line and the
bytes after the first blank line. There is an entry only when all of this was written and flushed,
so a connection that breaks leaves no trace in the log, and on the wire no more than a beginning of
the response.

* `exchange_agrees`: what is said of a response is what a receiver finds in its bytes;
* `finish_hold_eq_exchanged_iff`: when a connection ends in an exchange, and in which;
* `serve_agrees`: the log and the wire.
-/

namespace FileServer

/-! ## The status line -/

/-- The number on the status line, between its first two spaces. -/
def Frame.code? (frame : Frame) : Option Nat := do
  Decimal.parse? (← (splitOn ' ' frame.statusLine)[1]?)

theorem Response.code?_frame (response : Response) :
    response.frame.code? = some response.status.code := by
  simp only [Frame.code?, frame, statusText]
  cases response.status <;> decide +kernel

/-- What is counted of a response is what it is. -/
theorem Reply.exchange_respond (site : Site) (disk : Disk) (now : Nat) (head : Bytes) :
    (respond site disk now head).exchange.status = (respond site disk now head).response.status ∧
      (respond site disk now head).exchange.bytes =
        (respond site disk now head).response.bodyLength := by
  unfold respond
  split
  · simp only [toRequest, and_self]
  · simp only [toError, and_self]

/-- What an exchange says of the response is what a receiver finds in its bytes. -/
theorem Reply.exchange_agrees (site : Site) (disk : Disk) (now : Nat) (head : Bytes) :
    let reply := respond site disk now head
    (Frame.ofBytes? reply.response.wire).bind Frame.code? = some reply.exchange.status.code ∧
      ∃ before body, cutAt? (Frame.crlf ++ Frame.crlf) reply.response.wire = some (before, body) ∧
        reply.exchange.bytes = body.length := by
  intro reply
  obtain ⟨hstatus, hbytes⟩ := exchange_respond site disk now head
  refine ⟨?_, _, _, Response.cutAt?_wire (isWritable_respond site disk now head), hbytes⟩
  rw [frame_respond, Option.bind_some, Response.code?_frame, ← hstatus]

/-! ## The end of a connection -/

namespace Conversation

variable {site : Site} {disk : Disk} {now : Nat} {peer : Peer}

/-- A connection ends in an exchange if a head was read and all of its answer was written and
flushed. -/
theorem finish_hold_eq_exchanged_iff {exchange : Exchange} :
    (hold site disk now peer).finish = .exchanged exchange ↔
      ∃ head, peer.readHead.1 = .head head ∧
        (hold site disk now peer).written = (Reply.respond site disk now head).response.wire ∧
        (hold site disk now peer).flushed = true ∧ peer.flushError = none ∧
        exchange = (Reply.respond site disk now head).exchange := by
  unfold hold
  generalize peer.readHead = read
  obtain ⟨received, unread⟩ := read
  cases received with
  | head head => simp [finish_send_eq_exchanged_iff, flushed_send_iff]
  | nothing | failed | waiting => simp

theorem written_hold_of_noHead (h : ∀ head, peer.readHead.1 ≠ .head head) :
    (hold site disk now peer).written = [] := by
  unfold hold
  generalize peer.readHead = read at h
  obtain ⟨received, unread⟩ := read
  cases received with
  | head head => exact absurd rfl (h head)
  | nothing | failed | waiting => rfl

end Conversation

/-! ## Serving -/

namespace Server

theorem log_serve_iff_sent {server : Server} {disk : Disk} {now : Nat} {client : SocketAddress}
    {peer : Peer} {closing : Closing} {entry : LogEntry} :
    (server.serve disk now client peer closing).log = some entry ↔
      ∃ head, peer.readHead.1 = .head head ∧
        (server.serve disk now client peer closing).conversation.written =
          (Reply.respond server.site disk now head).response.wire ∧
        (server.serve disk now client peer closing).conversation.flushed = true ∧
        peer.flushError = none ∧ entry = ⟨server.client client, server.zone.timeAt now,
          (Reply.respond server.site disk now head).exchange⟩ := by
  rw [log_serve_eq_some_iff, conversation_serve]
  simp only [Conversation.finish_hold_eq_exchanged_iff]
  constructor
  · rintro ⟨exchange, ⟨head, hread, hwire, hflush, herror, rfl⟩, rfl⟩
    exact ⟨head, hread, hwire, hflush, herror, rfl⟩
  · rintro ⟨head, hread, hwire, hflush, herror, rfl⟩
    exact ⟨_, ⟨head, hread, hwire, hflush, herror, rfl⟩, rfl⟩

/-- A connection is logged if a head was read and all of its answer was written and flushed, and
not otherwise. The entry names the client as the server's format does, and what it says of the
response is what a receiver finds in the bytes that were written: the number on the status line and
how many bytes come after the first blank line. Whether or not writing succeeds, what is written is
a beginning of the answer to the head that was read; without a head, nothing is written. -/
theorem serve_agrees (server : Server) (disk : Disk) (now : Nat) (client : SocketAddress)
    (peer : Peer) (closing : Closing) :
    let visit := server.serve disk now client peer closing
    let written := visit.conversation.written
    let reply := Reply.respond server.site disk now
    (∀ entry, visit.log = some entry ↔ ∃ head, peer.readHead.1 = .head head ∧
      written = (reply head).response.wire ∧ visit.conversation.flushed = true ∧
      peer.flushError = none ∧
      entry = ⟨server.client client, server.zone.timeAt now, (reply head).exchange⟩) ∧
    (∀ entry, visit.log = some entry →
      entry.client = server.client client ∧
      (Frame.ofBytes? written).bind Frame.code? = some entry.exchange.status.code ∧
      ∃ head body, cutAt? (Frame.crlf ++ Frame.crlf) written = some (head, body) ∧
        entry.exchange.bytes = body.length) ∧
    (∀ head, peer.readHead.1 = .head head → written <+: (reply head).response.wire) ∧
    ((∀ head, peer.readHead.1 ≠ .head head) → written = []) := by
  intro visit written reply
  have hwritten : written = (Conversation.hold server.site disk now peer).written :=
    congrArg Conversation.written (conversation_serve server disk now client peer closing)
  refine ⟨fun entry => log_serve_iff_sent, fun entry hentry => ?_, fun head hread => ?_,
    fun hnone => ?_⟩
  · obtain ⟨head, -, hwire, -, -, rfl⟩ := log_serve_iff_sent.1 hentry
    obtain ⟨hcode, hbytes⟩ := Reply.exchange_agrees server.site disk now head
    rw [← hwire] at hcode hbytes
    exact ⟨rfl, hcode, hbytes⟩
  · rw [hwritten]
    exact Reply.written_hold_of_readHead (Prod.ext hread rfl)
  · rw [hwritten]
    exact Conversation.written_hold_of_noHead hnone

/-- A file that one client reads in full, and another that goes away after seven bytes. -/
theorem serve_agrees_of_file :
    let bytes := fun s : String => Utf8.encode s.toList
    let disk : Disk := ⟨[⟨[], bytes "srv", .object (.directory .all)⟩,
      ⟨[bytes "srv"], bytes "a.txt", .object (.file ⟨.all, ⟨0, 0⟩, bytes "one\r\n\r\ntwo"⟩)⟩]⟩
    let address : SocketAddress := ⟨.v4 127 0 0 1, 8080⟩
    let server : Server := ⟨⟨[bytes "srv"]⟩, address, rawIp, .utc⟩
    let peer : Peer := ⟨[bytes "GET /a.txt HTTP/1.0\r\n\r\n"], .silent, none, none⟩
    let broken : Peer := { peer with writeLimit := some (7, .brokenPipe) }
    let visit := server.serve disk 0 address peer ⟨none, [], .closed⟩
    let brokenVisit := server.serve disk 0 address broken ⟨none, [], .closed⟩
    (∃ entry, visit.log = some entry ∧ entry.client = "127.0.0.1".toList ∧
      (Frame.ofBytes? visit.conversation.written).bind Frame.code? =
        some entry.exchange.status.code) ∧
      brokenVisit.log = none ∧ brokenVisit.conversation.written = bytes "HTTP/1." := by
  intro bytes disk address server peer broken visit brokenVisit
  obtain ⟨hlog, hagrees, -, -⟩ := serve_agrees server disk 0 address peer ⟨none, [], .closed⟩
  obtain ⟨hlogBroken, -, -, -⟩ := serve_agrees server disk 0 address broken ⟨none, [], .closed⟩
  have hread : peer.readHead.1 = .head (bytes "GET /a.txt HTTP/1.0\r\n\r\n") := by decide +kernel
  have hwire : visit.conversation.written = (Reply.respond server.site disk 0
      (bytes "GET /a.txt HTTP/1.0\r\n\r\n")).response.wire := by decide +kernel
  have hentry := (hlog _).2 ⟨_, hread, hwire, by decide +kernel, rfl, rfl⟩
  obtain ⟨hclient, hcode, -⟩ := hagrees _ hentry
  have hwritten : brokenVisit.conversation.written = bytes "HTTP/1." := by decide +kernel
  refine ⟨⟨_, hentry, hclient.trans (by decide +kernel), hcode⟩, ?_, hwritten⟩
  rw [Option.eq_none_iff_forall_ne_some]
  intro entry hbroken
  obtain ⟨head, -, hwhole, -⟩ := (hlogBroken entry).1 hbroken
  -- seven bytes are no response
  have hframe := Reply.frame_respond server.site disk 0 head
  have hnone : Frame.ofBytes? (bytes "HTTP/1.") = none := by decide +kernel
  rw [← hwhole, hwritten, hnone] at hframe
  cases hframe

end Server

end FileServer
