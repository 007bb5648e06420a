import FileServer.Http.MediaTable
import FileServer.Proofs.Http.Framing
import FileServer.Proofs.Reply

/-!
# What reaches a client

Every reply can be taken apart again by the one who receives it, and nothing that the client sent
can add a line to it: the names of its fields are fixed and the values stay within their lines.

* `isWritable_respond`: the fields of a reply can be written;
* `frame_hold`: what a client that gets a whole reply finds in it.
-/

namespace FileServer.Reply

variable {site : Site} {disk : Disk} {now : Nat}

theorem isWritable_respond (site : Site) (disk : Disk) (now : Nat) (head : Bytes) :
    (respond site disk now head).response.IsWritable := by
  have hnames : ∀ name ∈ fieldNames, Request.IsFieldName name := by decide
  intro header hmem
  refine ⟨hnames _ ((names_respond site disk now head).subset (List.mem_map_of_mem hmem)), ?_⟩
  rw [headers_respond, List.mem_append, List.mem_append] at hmem
  obtain hown | hcommon | hlength := hmem
  · exact (isSound_draft site disk head).oneLine header hown
  · simp only [commonFields, List.mem_cons, List.not_mem_nil, or_false] at hcommon
    obtain rfl | rfl | rfl := hcommon
    · show Text.IsOneLine serverName
      decide
    · exact HttpDate.isOneLine_render now
    · show Text.IsOneLine "close".toList
      decide
  · unfold lengthFields at hlength
    split at hlength
    · cases hlength
    · obtain rfl := List.mem_singleton.1 hlength
      exact Decimal.isOneLine_render _

theorem frame_respond (site : Site) (disk : Disk) (now : Nat) (head : Bytes) :
    Frame.ofBytes? (respond site disk now head).response.wire =
      some (respond site disk now head).response.frame :=
  Response.ofBytes?_wire (isWritable_respond site disk now head)

theorem body_respond_of_notModified {head : Bytes}
    (h : (respond site disk now head).response.status = .notModified) :
    (respond site disk now head).response.body = none := by
  rw [status_respond] at h
  rw [body_respond, (isSound_draft site disk head).bodiless h]
  split <;> rfl

/-- A response that is written in full is taken apart by its separators into its own parts. No name
or value breaks a line, no name comes twice, and the fields that every response has say what they
are to say: the length is that of the body, or of the body that is left out where only a head was
asked for. Of an unchanged file there is neither a body nor a length. -/
theorem frame_hold {site : Site} {disk : Disk} {now : Nat} {peer : Peer}
    (h : (Conversation.hold site disk now peer).flushed = true) :
    ∃ head unread response, peer.readHead = (.head head, unread) ∧
      response = (respond site disk now head).response ∧
      Frame.ofBytes? (Conversation.hold site disk now peer).written = some response.frame ∧
      (∀ header ∈ response.headers,
        Text.IsOneLine header.name ∧ Text.IsOneLine header.value) ∧
      Header.Distinct response.headers ∧
      Header.values "Server".toList response.headers = [serverName] ∧
      Header.values "Date".toList response.headers = [HttpDate.render now] ∧
      Header.values "Connection".toList response.headers = ["close".toList] ∧
      (response.status = .notModified →
        Header.values Draft.contentLength response.headers = [] ∧ response.body = none) ∧
      (response.status ≠ .notModified →
        Header.values Draft.contentLength response.headers =
          [Decimal.render (draft site disk head).bodyLength] ∧
        response.body = if asksHeadOnly head then none else (draft site disk head).body) := by
  obtain ⟨head, unread, hread, hwritten⟩ := written_hold_of_flushed h
  have hlength := values_contentLength site disk now head
  refine ⟨head, unread, _, hread, rfl, ?_, fun header hmem => ?_, ?_, ?_, ?_, ?_,
    fun hunchanged => ⟨?_, ?_⟩, fun hother => ⟨?_, ?_⟩⟩
  · rw [hwritten, frame_respond]
  · obtain ⟨hname, hvalue⟩ := isWritable_respond site disk now head header hmem
    exact ⟨hname.2.2, hvalue⟩
  · exact distinct_respond site disk now head
  · exact values_commonFields site disk now head List.mem_cons_self
  · exact values_commonFields site disk now head (List.mem_cons_of_mem _ List.mem_cons_self)
  · exact values_commonFields site disk now head
      (List.mem_cons_of_mem _ (List.mem_cons_of_mem _ List.mem_cons_self))
  · rw [hlength, if_pos hunchanged]
  · exact body_respond_of_notModified hunchanged
  · rw [hlength, if_neg hother]
  · exact body_respond

/-- A redirect repeats a query in which a colon stands. -/
theorem frame_hold_of_redirect :
    let bytes := fun s : String => Utf8.encode s.toList
    let disk : Disk := ⟨[⟨[], bytes "srv", .object (.directory .all)⟩,
      ⟨[bytes "srv"], bytes "d", .object (.directory .all)⟩]⟩
    let peer : Peer := ⟨[bytes "GET /d?a: HT", bytes "TP/1.0\r\n\r\n"], .closed, none, none⟩
    let conversation := Conversation.hold ⟨[bytes "srv"]⟩ disk 0 peer
    conversation.flushed = true ∧
      (Frame.ofBytes? conversation.written).map (·.headers.take 1) =
        some [⟨"Location".toList, "/d/?a:".toList⟩] ∧
      ∃ response : Response, Frame.ofBytes? conversation.written = some response.frame := by
  intro bytes disk peer conversation
  have hflushed : (Conversation.hold ⟨[bytes "srv"]⟩ disk 0 peer).flushed = true := by
    decide +kernel
  obtain ⟨head, unread, response, -, -, hframe, -⟩ := frame_hold hflushed
  exact ⟨hflushed, by decide +kernel, response, hframe⟩

end FileServer.Reply
