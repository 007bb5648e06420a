import FileServer.Proofs.Connection.Boundary
import FileServer.Proofs.Http.Fields
import FileServer.Proofs.Site.Drafts

/-!
# Replies

The answer to a request head is a draft that was completed, with the body left out where the head
asks for a head only. Everything that a client gets to see of a reply is said of its draft, and the
draft is sound whatever was asked.

* `draft_cases`: a draft is the page of an error, or the answer of the site to a request;
* `headers_respond`, `body_respond`: the fields and the body of a reply, from its draft;
* `isSound_draft`: the draft is sound, since the target of a request is one line;
* `header_contentLength_respond`: the length that is stated, of a body that may be left out;
* `status_respond_of_parseHead`, `body_and_length_respond`: a reply that is an answer of the site;
* `flushed_send_iff`, `finish_send_eq_exchanged_iff`: when sending a reply succeeds;
* `written_hold_of_readHead`: what is written on a connection is a reply, or a beginning of one.
-/

namespace FileServer

namespace Reply

/-- The draft that answers a request head: that of the site, or the page of an error. -/
def draft (site : Site) (disk : Disk) (head : Bytes) : Draft Status :=
  match parseHead head with
  | .ok request => (ofRequest site disk request).1
  | .error error => refusal error

/-- Whether a head asks for the head of the answer only. -/
def asksHeadOnly (head : Bytes) : Bool :=
  match parseHead head with
  | .ok request => request.method = .head
  | .error _ => false

variable {site : Site} {disk : Disk} {now : Nat} {head : Bytes}

theorem response_respond : (respond site disk now head).response =
    if asksHeadOnly head then (finish now (draft site disk head)).withoutBody
    else finish now (draft site disk head) := by
  unfold respond asksHeadOnly draft
  cases parseHead head with
  | ok request => simp only [toRequest, decide_eq_true_eq]
  | error error => simp only [toError, Bool.false_eq_true, if_false]

/-- A request that is served is answered by the site. -/
theorem draft_of_parseHead {request : Request} (hparse : parseHead head = .ok request)
    (hmethod : request.method.isSupported) :
    draft site disk head = (site.answer disk request).draft := by
  simp only [draft, hparse, ofRequest, hmethod, if_true]

/-- A head is answered by the page of an error, or as a request that is served. -/
theorem draft_cases (site : Site) (disk : Disk) (head : Bytes) :
    (∃ error, draft site disk head = refusal error) ∨
      ∃ request, parseHead head = .ok request ∧ request.method.isSupported ∧
        draft site disk head = (site.answer disk request).draft := by
  cases hparse : parseHead head with
  | error error => exact .inl ⟨error, by rw [draft, hparse]⟩
  | ok request =>
    by_cases hmethod : request.method.isSupported
    · exact .inr ⟨request, rfl, hmethod, draft_of_parseHead hparse hmethod⟩
    · refine .inl ⟨.method request.method.token, ?_⟩
      simp only [draft, hparse, ofRequest, if_neg hmethod]

/-- The page of an error says that it is one. -/
theorem status_refusal_mem (error : RequestError) :
    (refusal error).status ∈ [.badRequest, .notImplemented, .httpVersionNotSupported] := by
  rw [refusal, Draft.status_error]
  cases error <;> simp [RequestError.status]

/-! ## Completed drafts -/

@[simp] theorem status_finish (now : Nat) (draft : Draft Status) :
    (finish now draft).status = draft.status := by
  simp only [finish, Draft.status_build, Draft.status_header]

@[simp] theorem body_finish (now : Nat) (draft : Draft Status) :
    (finish now draft).body = draft.body := by
  simp only [finish, Draft.body_build, Draft.body_header]

/-- The fields that every response has. -/
def commonFields (now : Nat) : List Header :=
  [⟨"Server".toList, serverName⟩, ⟨"Date".toList, HttpDate.render now⟩,
    ⟨"Connection".toList, "close".toList⟩]

/-- The field that states the length of the body, unless it is left out. -/
def lengthFields (draft : Draft Status) : List Header :=
  if draft.bodyLength = 0 ∧ draft.statesEmptyLength = false then []
  else [⟨Draft.contentLength, Decimal.render draft.bodyLength⟩]

theorem headers_finish (now : Nat) (draft : Draft Status) :
    (finish now draft).headers = draft.headers ++ (commonFields now ++ lengthFields draft) := by
  have hname : ∀ name ∈ ["Server".toList, "Date".toList, "Connection".toList],
      sameName name Draft.contentLength = false := by decide
  rw [finish, Draft.build, Draft.headers_header (hname _ (by simp)),
    Draft.headers_header (hname _ (by simp)), Draft.headers_header (hname _ (by simp))]
  simp only [Draft.bodyLength_header, Draft.statesEmptyLength_header, lengthFields, commonFields]
  split <;> simp

@[simp] theorem status_respond :
    (respond site disk now head).response.status = (draft site disk head).status := by
  rw [response_respond]
  split <;> simp [Response.withoutBody]

theorem headers_respond : (respond site disk now head).response.headers =
    (draft site disk head).headers ++
      (commonFields now ++ lengthFields (draft site disk head)) := by
  rw [← headers_finish, response_respond]
  split <;> rfl

theorem body_respond : (respond site disk now head).response.body =
    if asksHeadOnly head then none else (draft site disk head).body := by
  rw [response_respond]
  split <;> simp [Response.withoutBody]

/-! ## Soundness -/

theorem isSound_refusal (error : RequestError) : (refusal error).IsSound :=
  Draft.isSound_error (by cases error <;> simp [RequestError.status]) _

theorem isToken_target_of_parseHead {request : Request} (h : parseHead head = .ok request) :
    Request.IsToken request.target := by
  obtain ⟨_, -, hparse⟩ := exists_parse_of_parseHead h
  obtain ⟨_, ⟨htarget, -, -, -, -⟩⟩ := Request.isHead_of_parse hparse
  exact htarget

theorem isSound_draft (site : Site) (disk : Disk) (head : Bytes) :
    (draft site disk head).IsSound := by
  unfold draft
  split
  · next request hparse =>
    have htarget : Text.IsOneLine request.target := (isToken_target_of_parseHead hparse).2.2
    unfold ofRequest
    split
    · exact Outcome.isSound_draft (site.isOneLine_answer disk htarget)
    · exact isSound_refusal _
  · exact isSound_refusal _

/-- The length is stated unless a file has not changed. -/
theorem lengthFields_draft (site : Site) (disk : Disk) (head : Bytes) :
    lengthFields (draft site disk head) =
      if (draft site disk head).status = .notModified then []
      else [⟨Draft.contentLength, Decimal.render (draft site disk head).bodyLength⟩] := by
  have hsound := isSound_draft site disk head
  unfold lengthFields
  by_cases hunchanged : (draft site disk head).status = .notModified
  · simp [Draft.bodyLength, hsound.bodiless hunchanged, hsound.stated, hunchanged]
  · simp [hsound.stated, hunchanged]

/-! ## Fields -/

variable (site disk now head)

/-- The names of the fields that a reply may have, in their order. -/
def fieldNames : List Text :=
  Draft.ownNames ++ ["Server".toList, "Date".toList, "Connection".toList, Draft.contentLength]

theorem names_respond :
    ((respond site disk now head).response.headers.map (·.name)).Sublist fieldNames := by
  rw [headers_respond, List.map_append, List.map_append]
  refine (isSound_draft site disk head).names.append ?_
  unfold lengthFields
  split
  · show List.Sublist ["Server".toList, "Date".toList, "Connection".toList] _
    decide
  · exact List.Sublist.refl _

theorem distinct_respond : Header.Distinct (respond site disk now head).response.headers := by
  have hnames : fieldNames.Pairwise fun a b => sameName a b = false := by decide
  have := hnames.sublist (names_respond site disk now head)
  rwa [List.pairwise_map] at this

theorem values_commonFields {header : Header} (h : header ∈ commonFields now) :
    Header.values header.name (respond site disk now head).response.headers = [header.value] := by
  refine Header.values_of_mem (distinct_respond site disk now head) ?_
  rw [headers_respond]
  exact List.mem_append_right _ (List.mem_append_left _ h)

/-- A length is stated once, that of the body of the draft, unless a file has not changed. -/
theorem values_contentLength :
    Header.values Draft.contentLength (respond site disk now head).response.headers =
      if (respond site disk now head).response.status = .notModified then []
      else [Decimal.render (draft site disk head).bodyLength] := by
  have hlength := lengthFields_draft site disk head
  rw [status_respond]
  split at hlength
  · next hunchanged =>
    rw [if_pos hunchanged]
    have hown : ∀ name ∈ Draft.ownNames, sameName name Draft.contentLength = false := by decide
    have hcommon : ∀ header ∈ commonFields now,
        sameName header.name Draft.contentLength = false := by
      simp only [commonFields, List.forall_mem_cons]
      decide
    refine Header.values_eq_nil fun header hmem => ?_
    rw [headers_respond, hlength, List.append_nil, List.mem_append] at hmem
    obtain hmem | hmem := hmem
    · exact hown _ ((isSound_draft site disk head).names.subset (List.mem_map_of_mem hmem))
    · exact hcommon header hmem
  · next hother =>
    rw [if_neg hother]
    have hmem : (⟨Draft.contentLength, Decimal.render (draft site disk head).bodyLength⟩ : Header) ∈
        (respond site disk now head).response.headers := by
      rw [headers_respond, hlength]
      simp
    exact Header.values_of_mem (distinct_respond site disk now head) hmem

variable {site disk now head}

/-- A field of the draft is found by its name. -/
theorem header_respond_of_mem {header : Header} (h : header ∈ (draft site disk head).headers) :
    (respond site disk now head).response.header header.name = some header.value := by
  have hmem : header ∈ (respond site disk now head).response.headers := by
    rw [headers_respond]
    exact List.mem_append_left _ h
  rw [Response.header, Header.find?_eq_head?_values,
    Header.values_of_mem (distinct_respond site disk now head) hmem, List.head?_cons]

/-- The length that a reply states is that of the body of its draft. -/
theorem header_contentLength_respond (h : (draft site disk head).status ≠ .notModified) :
    (respond site disk now head).response.header Draft.contentLength =
      some (Decimal.render (draft site disk head).bodyLength) := by
  rw [Response.header, Header.find?_eq_head?_values, values_contentLength, status_respond, if_neg h]
  rfl

/-! ## Answers of a site -/

variable {request : Request}

/-- A reply tells by its status what the site answers. -/
theorem status_respond_of_parseHead (hparse : parseHead head = .ok request)
    (hmethod : request.method.isSupported) :
    (respond site disk now head).response.status = (site.answer disk request).status := by
  rw [status_respond, draft_of_parseHead hparse hmethod, Outcome.status_draft]

/-- What the site answers with is sent, or to `HEAD` its length is stated. -/
theorem body_and_length_respond (hparse : parseHead head = .ok request)
    (hmethod : request.method.isSupported) {body : Bytes}
    (hbody : (site.answer disk request).draft.body = some body)
    (hstatus : (site.answer disk request).status ≠ .notModified) :
    (respond site disk now head).response.body =
        (if request.method = .head then none else some body) ∧
      (respond site disk now head).response.header Draft.contentLength =
        some (Decimal.render body.length) := by
  have hdraft : draft site disk head = (site.answer disk request).draft :=
    draft_of_parseHead hparse hmethod
  constructor
  · rw [body_respond, asksHeadOnly, hparse, hdraft, hbody]
    simp only [decide_eq_true_eq]
  · rw [header_contentLength_respond (by rwa [hdraft, Outcome.status_draft]), hdraft,
      Draft.bodyLength, hbody, Option.getD_some]

end Reply

/-! ## On the wire -/

theorem Peer.write_eq_none_iff {peer : Peer} {bytes : Bytes} :
    (peer.write bytes).2 = none ↔ (peer.write bytes).1 = bytes := by
  unfold write
  cases peer.writeLimit with
  | none => simp
  | some fault =>
    obtain ⟨limit, error⟩ := fault
    by_cases hlimit : bytes.length ≤ limit
    · simp [hlimit]
    · simp only [if_neg hlimit, reduceCtorEq, false_iff]
      intro hwhole
      have := congrArg List.length hwhole
      rw [List.length_take] at this
      omega

namespace Conversation

variable {peer : Peer} {reply : Reply} {unread : List Bytes}

theorem written_send : (send peer reply unread).written = (peer.write reply.response.wire).1 := by
  unfold send
  split
  · next heq => rw [heq]
  · next heq => split <;> rw [heq]

/-- A connection is flushed only when everything is written. -/
theorem flushed_send_iff : (send peer reply unread).flushed = true ↔
    (send peer reply unread).written = reply.response.wire := by
  rw [written_send, ← Peer.write_eq_none_iff]
  unfold send
  split
  · next heq => simp [heq]
  · next heq => split <;> simp [heq]

/-- An exchange is what remains when everything is written and flushed. -/
theorem finish_send_eq_exchanged_iff {exchange : Exchange} :
    (send peer reply unread).finish = .exchanged exchange ↔
      (send peer reply unread).flushed = true ∧ peer.flushError = none ∧
        exchange = reply.exchange := by
  unfold send
  split
  · simp
  · split
    · next hflush => simp [hflush]
    · next hflush => simp [hflush, eq_comm]

theorem hold_of_readHead {site : Site} {disk : Disk} {now : Nat} {head : Bytes}
    (h : peer.readHead = (.head head, unread)) :
    hold site disk now peer = send peer (Reply.respond site disk now head) unread := by
  rw [hold, h]

end Conversation

namespace Reply

variable {site : Site} {disk : Disk} {now : Nat} {head : Bytes}

/-- What is written to a peer that sent a head is a reply to it, or the beginning of one. -/
theorem written_hold_of_readHead {peer : Peer} {unread : List Bytes}
    (h : peer.readHead = (.head head, unread)) :
    (Conversation.hold site disk now peer).written <+:
      (respond site disk now head).response.wire := by
  rw [Conversation.hold_of_readHead h, Conversation.written_send]
  exact peer.written_prefix _

/-- What is written in full is the reply to a head that was read. -/
theorem written_hold_of_flushed {peer : Peer}
    (h : (Conversation.hold site disk now peer).flushed = true) :
    ∃ head unread, peer.readHead = (.head head, unread) ∧
      (Conversation.hold site disk now peer).written =
        (respond site disk now head).response.wire := by
  rcases hread : peer.readHead with ⟨received, unread⟩
  cases received with
  | head head =>
    rw [Conversation.hold_of_readHead hread] at h ⊢
    exact ⟨head, unread, rfl, Conversation.flushed_send_iff.1 h⟩
  | nothing | failed | waiting => simp [Conversation.hold, hread] at h

end Reply

end FileServer
