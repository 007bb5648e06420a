import FileServer.Proofs.Connection.Delivery
import FileServer.Proofs.Http.HeadLayout
import FileServer.Proofs.Text.Utf8Exact

/-!
# One boundary for the reader and the parser

The reader of a connection cuts a head off the bytes that arrive, and the parser stops within the
text that it is given. Both stop at the same place: what the grammar of heads leaves unread is what
the reader leaves to the connection. What follows a head that ends with its blank line is of no
consequence, whether the head is a request or has an error in it.

* `advance_fieldBlock`: the reader passes over the lines that state fields, and stops with them;
* `isReceived_of_isHead`: the reader cuts off what the parser reads;
* `parse_append`: a parser that is given more than a head reads the head;
* `parse_and_readHead`: both, and what follows for a connection.
-/

namespace FileServer

/-! ## Lines of bytes -/

namespace Scan

/-- Within a line, the reader passes over bytes that end none. -/
theorem advance_of_plain {bytes : Bytes} (h : ∀ b ∈ bytes, b ≠ 0x0A ∧ b ≠ 0x0D) (hne : bytes ≠ [])
    (scan : Scan) : scan.advance bytes = (.more line, bytes) := by
  induction bytes generalizing scan with
  | nil => exact absurd rfl hne
  | cons b bytes ih =>
    obtain ⟨⟨hlf, hcr⟩, hbytes⟩ := List.forall_mem_cons.1 h
    have hstep : scan.step b = .more line := by rw [step.eq_def, if_neg hlf, if_neg hcr]
    cases bytes with
    | nil => simp [advance, hstep]
    | cons c bytes => rw [advance, hstep]; simp [ih hbytes (by simp) line]

theorem advance_encode {t : Text} (h : Text.IsOneLine t) (hne : t ≠ []) (scan : Scan) :
    scan.advance (Utf8.encode t) = (.more line, Utf8.encode t) := by
  refine advance_of_plain (fun b hb => ⟨?_, ?_⟩) (Utf8.encode_ne_nil hne) scan
  · rintro rfl
    exact (Text.isOneLine_iff.1 h).2 (Utf8.mem_of_mem_encode (by decide) hb)
  · rintro rfl
    exact (Text.isOneLine_iff.1 h).1 (Utf8.mem_of_mem_encode (by decide) hb)

/-- A line that is not blank is passed over. -/
theorem advance_line {t : Text} (h : Text.IsOneLine t) (hne : t ≠ []) {ending : LineEnd}
    (hending : ending ≠ .missing) (scan : Scan) (bytes : Bytes) :
    scan.advance (Utf8.encode (t ++ ending.text) ++ bytes) =
      ((lineStart.advance bytes).1,
        Utf8.encode (t ++ ending.text) ++ (lineStart.advance bytes).2) := by
  have hend : line.advance (Utf8.encode ending.text) =
      (.more lineStart, Utf8.encode ending.text) := by
    cases ending with
    | lf => decide
    | crlf => decide
    | missing => exact absurd rfl hending
  have hline : scan.advance (Utf8.encode (t ++ ending.text)) =
      (.more lineStart, Utf8.encode (t ++ ending.text)) := by
    rw [Utf8.encode_append, advance_append (advance_encode h hne scan), hend]
  exact advance_append hline bytes

theorem advance_blank {ending : LineEnd} (hending : ending ≠ .missing) (bytes : Bytes) :
    lineStart.advance (Utf8.encode ending.text ++ bytes) =
      (.complete, Utf8.encode ending.text) := by
  cases ending with
  | lf => rfl
  | crlf => rfl
  | missing => exact absurd rfl hending

end Scan

namespace Request

open Scan (lineStart)

/-! ## The reader cuts off what the parser reads -/

theorem advance_fieldLine {line : Text} {header : Header} (h : FieldLine line header)
    (bytes : Bytes) : lineStart.advance (Utf8.encode line ++ bytes) =
      ((lineStart.advance bytes).1, Utf8.encode line ++ (lineStart.advance bytes).2) := by
  obtain ⟨hname, hpadding, hvalue, hending⟩ := h
  exact Scan.advance_line (isOneLine_field hname hpadding hvalue) (by simp) hending lineStart bytes

/-- The reader passes over the lines that state fields, and stops with the blank line or where the
text ends. -/
theorem advance_fieldBlock {text rest : Text} {headers : List Header}
    (h : FieldBlock text headers rest) : ∃ block, text = block ++ rest ∧
      (lineStart.advance (Utf8.encode text) = (.complete, Utf8.encode block) ∨ rest = [] ∧
        lineStart.advance (Utf8.encode text) = (.more lineStart, Utf8.encode block)) := by
  induction h with
  | ended => exact ⟨[], rfl, .inr ⟨rfl, rfl⟩⟩
  | blank hending rest =>
    refine ⟨_, rfl, .inl ?_⟩
    rw [Utf8.encode_append, Scan.advance_blank hending]
  | @field line text rest _ _ hline _ ih =>
    obtain ⟨block, htext, hfound⟩ := ih
    refine ⟨line ++ block, by rw [htext, List.append_assoc], ?_⟩
    rw [Utf8.encode_append, advance_fieldLine hline, Utf8.encode_append]
    obtain hfound | ⟨hrest, hfound⟩ := hfound
    · exact .inl (by rw [hfound])
    · exact .inr ⟨hrest, by rw [hfound]⟩

/-- The reader cuts off a stream what the parser reads of its text. -/
theorem isReceived_of_isHead {text rest : Text} {request : Request}
    (h : IsHead text request rest) : ∃ head, text = head ++ rest ∧
      IsReceived (Utf8.encode text) .closed (.head (Utf8.encode head)) := by
  obtain @⟨_, versionToken, fields, _, ending, htarget, htoken, -, hlast, hfields⟩ := h
  have hline := isOneLine_requestLine htarget htoken
  have hne : request.requestLine versionToken ≠ [] := by simp [requestLine]
  obtain ⟨block, rfl, hfound⟩ := advance_fieldBlock hfields
  refine ⟨request.requestLine versionToken ++ ending.text ++ block, by simp, ?_⟩
  -- a text without blank line is taken whole when the peer closes its side
  have hended : ∀ {text : Text} {scan : Scan}, text ≠ [] →
      Scan.start.advance (Utf8.encode text) = (.more scan, Utf8.encode text) →
      IsReceived (Utf8.encode text) .closed (.head (Utf8.encode text)) := by
    intro text scan htext hadvance
    have hreceived := isReceived_of_advance_more .closed hadvance
    rwa [Ending.received, if_neg (Utf8.encode_ne_nil htext)] at hreceived
  by_cases hending : ending = .missing
  · -- a request line without ending is the whole text
    obtain ⟨rfl, rfl⟩ := List.append_eq_nil_iff.1 (hlast hending)
    rw [hending, LineEnd.text, List.append_nil, List.append_nil, List.append_nil]
    exact hended hne (Scan.advance_encode hline hne _)
  · have hadvance := Scan.advance_line hline hne hending Scan.start (Utf8.encode (block ++ rest))
    rw [← Utf8.encode_append] at hadvance
    obtain hfound | ⟨rfl, hfound⟩ := hfound
    · rw [hfound, ← Utf8.encode_append] at hadvance
      exact isReceived_of_advance_complete .closed hadvance
    · rw [hfound, ← Utf8.encode_append] at hadvance
      rw [List.append_nil] at hadvance ⊢
      exact hended (by simp [hne]) hadvance

/-! ## The parser reads no more than the head -/

/-- A text whose bytes end with a blank line ends with a blank line. -/
theorem exists_of_endsBlank {text : Text} (h : EndsBlank (Utf8.encode text)) :
    ∃ (before : Text) (ending : LineEnd),
      ending ≠ .missing ∧ text = before ++ '\n' :: ending.text := by
  obtain ⟨line, hline, bytes, hbytes⟩ := h
  simp only [blankLines, List.mem_cons, List.not_mem_nil, or_false] at hline
  obtain rfl | rfl := hline
  · have hlast : Utf8.encode text = bytes ++ [0x0A] ++ [0x0A] := by rw [← hbytes]; simp
    obtain ⟨first, rfl, hfirst⟩ := Utf8.exists_of_encode_eq_append (by decide) hlast
    obtain ⟨before, rfl, -⟩ := Utf8.exists_of_encode_eq_append (by decide) hfirst
    exact ⟨before, .lf, by decide, by simp [LineEnd.text]⟩
  · have hlast : Utf8.encode text = bytes ++ [0x0A] ++ [0x0D] ++ [0x0A] := by rw [← hbytes]; simp
    obtain ⟨first, rfl, hfirst⟩ := Utf8.exists_of_encode_eq_append (by decide) hlast
    obtain ⟨second, rfl, hsecond⟩ := Utf8.exists_of_encode_eq_append (by decide) hfirst
    obtain ⟨before, rfl, -⟩ := Utf8.exists_of_encode_eq_append (by decide) hsecond
    exact ⟨before, .crlf, by decide, by simp [LineEnd.text]⟩

/-- Field lines are read up to the first blank line. -/
theorem headers?_append {ls : List Line} (hblank : ∃ line ∈ ls, line.text = [])
    (more : List Line) : headers? (ls ++ more) = headers? ls := by
  induction ls with
  | nil => simp at hblank
  | cons line ls ih =>
    rw [List.cons_append, headers?, headers?]
    split
    · rfl
    · next hline =>
      obtain ⟨blank, hmem, htext⟩ := hblank
      obtain rfl | hmem := List.mem_cons.1 hmem
      · exact absurd htext hline
      · rw [ih ⟨blank, hmem, htext⟩]

/-- The lines of a text that ends with a blank line stay the same when more text comes, and the
blank line is not the first of them. -/
theorem exists_lines_of_endsBlank {text : Text} (h : EndsBlank (Utf8.encode text)) :
    ∃ line ls, (∃ blank ∈ ls, blank.text = []) ∧
      ∀ more, Text.lines (text ++ more) = line :: (ls ++ Text.lines more) := by
  obtain ⟨before, ending, hending, rfl⟩ := exists_of_endsBlank h
  obtain ⟨line, ls, hfirst⟩ := List.exists_cons_of_ne_nil
    (Text.lines_ne_nil (t := before ++ ['\n']) (by simp))
  refine ⟨line, ls ++ [⟨[], ending⟩], ⟨⟨[], ending⟩, by simp, rfl⟩, fun more => ?_⟩
  have hblank : Text.lines (ending.text ++ more) = ⟨[], ending⟩ :: Text.lines more :=
    Text.lines_line Text.isOneLine_nil hending more
  rw [List.append_assoc, List.cons_append, Text.lines_append, hblank, hfirst]
  simp

/-- A parser that is given more than a head reads the head, or finds the same error in it. -/
theorem parse_append {text : Text} (h : EndsBlank (Utf8.encode text)) (more : Text) :
    parse (text ++ more) = parse text := by
  obtain ⟨line, ls, hblank, hlines⟩ := exists_lines_of_endsBlank h
  have htext := hlines []
  rw [List.append_nil, Text.lines_nil, List.append_nil] at htext
  unfold parse
  rw [hlines, htext]
  simp only [headers?_append hblank]

theorem firstLine_append {text : Text} (h : EndsBlank (Utf8.encode text)) (more : Text) :
    Text.firstLine (text ++ more) = Text.firstLine text := by
  obtain ⟨line, ls, -, hlines⟩ := exists_lines_of_endsBlank h
  have htext := hlines []
  rw [List.append_nil] at htext
  rw [Text.firstLine, Text.firstLine, hlines, htext]

/-- The reader and the parser agree on the end of a head. What the parser reads of an accepted text,
up to where the grammar goes on to nothing else, is the head that the reader cuts off its bytes. A
head that ends with its blank line is parsed as the same request, or fails for the same reason,
whatever text follows it, and whatever bytes follow it on a connection, the connection goes on as
without them. -/
theorem parse_and_readHead (site : Site) (disk : Disk) (now : Nat) :
    (∀ text request, parse text = .ok request → ∃ head rest, text = head ++ rest ∧
      (∀ unread, IsHead text request unread ↔ unread = rest) ∧
      ∀ peer : Peer, peer.chunks.flatten = Utf8.encode text → peer.ending = .closed →
        peer.readHead.1 = .head (Utf8.encode head)) ∧
    (∀ (peer : Peer) head text, peer.readHead.1 = .head head → EndsBlank head →
      Utf8.decode? head = some text → ∀ more, parse (text ++ more) = parse text) ∧
    ∀ (peer : Peer) head, peer.readHead.1 = .head head → EndsBlank head →
      ∀ chunks more ending, chunks.flatten = head ++ more → ∃ unread,
        Conversation.hold site disk now { peer with chunks, ending } =
          { Conversation.hold site disk now peer with unread } := by
  refine ⟨fun text request h => ?_, fun peer head text _ hends hdecode more => ?_,
    fun peer head h hends chunks more ending hchunks => ?_⟩
  · obtain ⟨rest, hrest⟩ := isHead_of_parse h
    obtain ⟨head, htext, hreceived⟩ := isReceived_of_isHead hrest
    refine ⟨head, rest, htext, fun unread => ⟨fun hunread => ?_, ?_⟩, fun peer hbytes hclosed => ?_⟩
    · obtain ⟨head', htext', hreceived'⟩ := isReceived_of_isHead hunread
      have hsame := Received.head.inj (hreceived'.unique hreceived)
      rw [htext, Utf8.encode_injective hsame] at htext'
      exact (List.append_cancel_left htext').symm
    · rintro rfl
      exact hrest
    · rwa [Peer.readHead_eq_iff, hbytes, hclosed]
  · rw [Utf8.decode?_eq_some_iff] at hdecode
    exact parse_append (hdecode ▸ hends) more
  · have hsame : ({ peer with chunks, ending } : Peer).readHead.1 = .head head :=
      Peer.readHead_of_append h hends hchunks
    exact ⟨_, Conversation.hold_eq_of_readHead (hsame.trans h.symm) rfl rfl⟩

/-- A head without version, mixed endings and a body that looks like more fields; and an accepted
text that goes on after its blank line. -/
theorem parse_and_readHead_of_body :
    let bad := "GET /\nHost: a\r\n\r\n".toList
    let body := "b: c\n\n".toList
    let good := "HEAD /?q HTTP/1.0\r\n\nbody".toList
    let peer : Peer := ⟨[Utf8.encode bad], .silent, none, none⟩
    let hold := Conversation.hold ⟨[]⟩ ⟨[]⟩ 0
    peer.readHead.1 = .head (Utf8.encode bad) ∧ EndsBlank (Utf8.encode bad) ∧
      Utf8.decode? (Utf8.encode bad) = some bad ∧ parse (bad ++ body) = parse bad ∧
      (∃ unread,
        hold { peer with chunks := [Utf8.encode bad, Utf8.encode body], ending := .closed } =
          { hold peer with unread }) ∧
      parse good = .ok ⟨.head, "/?q".toList, .http10, []⟩ ∧
      ∃ head rest, good = head ++ rest ∧
        ∀ unread, IsHead good ⟨.head, "/?q".toList, .http10, []⟩ unread ↔ unread = rest := by
  intro bad body good peer hold
  have hread : peer.readHead.1 = .head (Utf8.encode bad) := by decide +kernel
  have hends : EndsBlank (Utf8.encode bad) := by decide +kernel
  have hdecode : Utf8.decode? (Utf8.encode bad) = some bad := Utf8.decode?_encode bad
  have hgood : parse good = .ok ⟨.head, "/?q".toList, .http10, []⟩ := by decide +kernel
  obtain ⟨haccepted, hparse, hhold⟩ := parse_and_readHead ⟨[]⟩ ⟨[]⟩ 0
  obtain ⟨head, rest, htext, hunread, -⟩ := haccepted good _ hgood
  refine ⟨hread, hends, hdecode, hparse peer _ bad hread hends hdecode body, ?_, hgood, head, rest,
    htext, hunread⟩
  exact hhold peer _ hread hends _ (Utf8.encode body) .closed rfl

end Request

/-! ## Replies to texts -/

namespace Reply

variable {site : Site} {disk : Disk} {now : Nat}

@[simp] theorem parseHead_encode (text : Text) :
    parseHead (Utf8.encode text) = Request.parse text := by
  rw [parseHead, Utf8.decode?_encode]

@[simp] theorem requestLine_encode (text : Text) :
    requestLine (Utf8.encode text) = Text.firstLine text := by
  rw [requestLine, Utf8.decodeLossy_of_decode? (Utf8.decode?_encode text)]

theorem respond_append {text : Text} (h : EndsBlank (Utf8.encode text)) (more : Text) :
    respond site disk now (Utf8.encode (text ++ more)) =
      respond site disk now (Utf8.encode text) := by
  simp only [respond, parseHead_encode, requestLine_encode, Request.parse_append h,
    Request.firstLine_append h]

/-- A head that is accepted is a text. -/
theorem exists_parse_of_parseHead {head : Bytes} {request : Request}
    (h : parseHead head = .ok request) :
    ∃ text, head = Utf8.encode text ∧ Request.parse text = .ok request := by
  unfold parseHead at h
  split at h
  · next text hdecode => exact ⟨text, Utf8.decode?_eq_some_iff.1 hdecode, h⟩
  · cases h

theorem isWritable_of_parseHead {head : Bytes} {request : Request}
    (h : parseHead head = .ok request) : request.IsWritable := by
  obtain ⟨_, -, hparse⟩ := exists_parse_of_parseHead h
  obtain ⟨_, hhead⟩ := Request.isHead_of_parse hparse
  exact Request.isWritable_of_isHead hhead

/-- What can be written is accepted if a request with its version was. -/
theorem exists_parseHead_of_isWritable {head : Bytes} {request next : Request}
    (h : parseHead head = .ok request) (hversion : next.version = request.version)
    (hnext : next.IsWritable) : ∃ other, parseHead other = .ok next := by
  obtain ⟨_, -, hparse⟩ := exists_parse_of_parseHead h
  obtain ⟨text, htext⟩ := Request.exists_parse_of_isWritable hparse hversion hnext
  exact ⟨Utf8.encode text, (parseHead_encode text).trans htext⟩

/-- A request that is accepted is accepted with any other target as well. -/
theorem exists_parseHead_withTarget {head : Bytes} {request : Request}
    (h : parseHead head = .ok request) {target : Text} (htarget : Request.IsToken target) :
    ∃ other, parseHead other = .ok { request with target } :=
  exists_parseHead_of_isWritable h rfl ⟨htarget, (isWritable_of_parseHead h).2⟩

end Reply

/-- A text that is accepted as a request is replied to in the same way when it comes on a
connection, where the reader leaves what follows the head. -/
theorem Conversation.hold_of_isHead {site : Site} {disk : Disk} {now : Nat} {text rest : Text}
    {request : Request} (h : Request.IsHead text request rest) {peer : Peer}
    (hbytes : peer.chunks.flatten = Utf8.encode text) (hclosed : peer.ending = .closed) :
    ∃ unread, hold site disk now peer =
      send peer (Reply.respond site disk now (Utf8.encode text)) unread := by
  obtain ⟨head, rfl, hreceived⟩ := Request.isReceived_of_isHead h
  have hread : peer.readHead.1 = .head (Utf8.encode head) := by
    rwa [Peer.readHead_eq_iff, hbytes, hclosed]
  have hreply : Reply.respond site disk now (Utf8.encode (head ++ rest)) =
      Reply.respond site disk now (Utf8.encode head) := by
    obtain ⟨-, hhead | ⟨-, -, -, hwhole⟩⟩ := isReceived_head_iff.1 hreceived
    · exact Reply.respond_append hhead.endsBlank rest
    · rw [hwhole]
  refine ⟨peer.readHead.2, ?_⟩
  rw [hold, hreply, show peer.readHead = (_, peer.readHead.2) from Prod.ext hread rfl]

end FileServer
