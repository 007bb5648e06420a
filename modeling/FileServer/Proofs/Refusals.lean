import FileServer.Http.MediaTable
import FileServer.Proofs.Http.Rejections
import FileServer.Proofs.Reply

/-!
# Refusals

What is refused is answered by the page of an error, and nothing but the error and the time goes
into the response: neither the site nor the disk, and of the head no more than the error repeats.
A method that is refused comes out of the parser as an error if it is unknown, and as a request if
it is known but not served. Both ways end in the same response.

* `errorPage_eq`: the page of an error, spelled out;
* `response_of_error`, `response_of_method`: the two ways to a refusal;
* `respond_of_not_asksSite`: what does not ask the site for anything has one reply on every disk;
* `rejected_respond`: what heads are rejected for;
* `unserved_respond`: heads that are not served, and those with a method that is not.
-/

namespace FileServer

namespace Draft

/-- The lines of the page of an error, by its number, its message as it stands on the page, and its
explanation. -/
def errorLines (number message explanation : Text) : List Text :=
  ["<!DOCTYPE HTML>\n".toList, "<html lang=\"en\">\n".toList, "<head>\n".toList,
    "<meta charset=\"utf-8\">\n".toList, "<title>Error response</title>\n".toList,
    "</head>\n".toList, "<body>\n".toList, "<h1>Error response</h1>\n".toList,
    "<p>Error code: ".toList ++ number ++ "</p>\n".toList,
    "<p>Message: ".toList ++ message ++ ".</p>\n".toList,
    "<p>Error code explanation: ".toList ++ number ++ " - ".toList ++ explanation ++
      ".</p>\n".toList,
    "</body>\n".toList, "</html>\n".toList]

/-- The page of an error, spelled out. Signs of the message that mean something in HTML stand there
as their entities. -/
theorem errorPage_eq (status : Status) (message : Text) :
    errorPage status message =
      (errorLines status.text (Html.escape message) status.explanation).flatten := by
  unfold errorPage errorLines
  simp only [List.flatten_cons, List.flatten_nil, List.append_assoc, List.append_nil]

/-- The page for bytes that are no text. -/
theorem errorPage_encoding :
    errorPage .badRequest "Invalid request encoding".toList =
      (errorLines "400".toList "Invalid request encoding".toList
        "Bad request syntax or unsupported method".toList).flatten := by
  have hnumber : Status.badRequest.text = "400".toList := by decide
  have hmessage : Html.escape "Invalid request encoding".toList =
      "Invalid request encoding".toList := by decide
  rw [errorPage_eq, hnumber, hmessage]
  rfl

/-- The page for a method that is not served. The quotes around its name are entities too. -/
theorem errorPage_method (method : Text) :
    errorPage .notImplemented ("Unsupported method ('".toList ++ method ++ "')".toList) =
      (errorLines "501".toList
        ("Unsupported method (&#x27;".toList ++ Html.escape method ++ "&#x27;)".toList)
        "Server does not support this operation".toList).flatten := by
  have hnumber : Status.notImplemented.text = "501".toList := by decide
  have hbefore : Html.escape "Unsupported method ('".toList =
      "Unsupported method (&#x27;".toList := by decide
  have hafter : Html.escape "')".toList = "&#x27;)".toList := by decide
  rw [errorPage_eq, hnumber, Html.escape_append, Html.escape_append, hbefore, hafter]
  rfl

end Draft

namespace Reply

variable {site : Site} {disk : Disk} {now : Nat} {head : Bytes}

/-! ## Responses -/

theorem body_refusal (error : RequestError) : (refusal error).body =
    some (Utf8.encode (Draft.errorPage error.status error.message)) := rfl

theorem response_of_error {error : RequestError} (h : parseHead head = .error error) :
    (respond site disk now head).response = finish now (refusal error) := by
  rw [respond_of_error h]
  rfl

theorem response_of_method {request : Request} (h : parseHead head = .ok request)
    (hmethod : request.method.isSupported = false) :
    (respond site disk now head).response =
      finish now (refusal (.method request.method.token)) := by
  have hbody : request.method ≠ .head := fun he => by simp [he, Method.isSupported] at hmethod
  have hdraft : draft site disk head = refusal (.method request.method.token) := by
    simp only [draft, h, ofRequest, hmethod, Bool.false_eq_true, if_false]
  have honly : asksHeadOnly head = false := by
    rw [asksHeadOnly, h]
    exact decide_eq_false hbody
  rw [response_respond, honly, hdraft, if_neg Bool.false_ne_true]

/-! ## Rejected heads -/

theorem parseHead_of_not_encoded (h : ∀ text, head ≠ Utf8.encode text) :
    parseHead head = .error .encoding := by
  unfold parseHead
  cases hdecode : Utf8.decode? head with
  | none => rfl
  | some text => exact absurd (Utf8.decode?_eq_some_iff.1 hdecode) (h text)

/-- A text that is no request is rejected for the first stage of reading that fails: for its first
line if it does not begin with a request line, else for its version, else for the fields, else for
the method. The first two are a matter of the first line, and texts that have it in common, with
its ending, are rejected with the same error. Bytes that are no text are answered by 400 and the
page that says so, which is spelled out. -/
theorem rejected_respond (site : Site) (disk : Disk) (now : Nat) :
    (∀ text error, Request.parse text = .error error ↔ Request.RejectedFor text error) ∧
    (∀ text other, (Text.lines text).head? = (Text.lines other).head? →
      ∀ error : RequestError, error.IsOfFirstLine →
        (Request.parse text = .error error ↔ Request.parse other = .error error)) ∧
    ∀ head, (∀ text, head ≠ Utf8.encode text) →
      let response := (respond site disk now head).response
      response.status.code = 400 ∧
      response.body =
        some (Utf8.encode (Draft.errorPage .badRequest "Invalid request encoding".toList)) ∧
      response.body = some (Utf8.encode (Draft.errorLines "400".toList
        "Invalid request encoding".toList
        "Bad request syntax or unsupported method".toList).flatten) := by
  refine ⟨fun text error => Request.parse_eq_error_iff, fun text other hfirst error herror => ?_,
    fun head hhead => ?_⟩
  · exact ⟨Request.parse_eq_error_of_head?_lines hfirst herror,
      Request.parse_eq_error_of_head?_lines hfirst.symm herror⟩
  · have hresponse := @response_of_error site disk now _ _ (parseHead_of_not_encoded hhead)
    have hbody : (respond site disk now head).response.body =
        some (Utf8.encode (Draft.errorPage .badRequest "Invalid request encoding".toList)) := by
      rw [hresponse, body_finish, body_refusal]
      rfl
    refine ⟨?_, hbody, ?_⟩
    · rw [hresponse, status_finish]
      rfl
    · rw [hbody, Draft.errorPage_encoding]

/-- A folded field below an unknown method, a request line with two spaces that is followed by
different texts, and a byte that begins no character. -/
theorem rejected_respond_of_folded :
    let folded := "BREW /pot HTTP/1.1\nA: b\n c\n\n".toList
    let spaced := "GET /  HTTP/1.1\r\n".toList
    let head : Bytes := [0x47, 0xFF]
    Request.RejectedFor folded .header ∧
      Request.parse (spaced ++ "A: b\n\n".toList) =
        .error (.requestLine "GET /  HTTP/1.1".toList) ∧
      Request.parse (spaced ++ "\rbody".toList) =
        .error (.requestLine "GET /  HTTP/1.1".toList) ∧
      (respond ⟨[]⟩ ⟨[]⟩ 0 head).response.status.code = 400 ∧
      (respond ⟨[]⟩ ⟨[]⟩ 0 head).response.body = some (Utf8.encode (Draft.errorLines
        "400".toList "Invalid request encoding".toList
        "Bad request syntax or unsupported method".toList).flatten) := by
  intro folded spaced head
  obtain ⟨hclassified, hfirst, hencoding⟩ := rejected_respond ⟨[]⟩ ⟨[]⟩ 0
  have hspaced : Request.parse (spaced ++ "A: b\n\n".toList) =
      .error (.requestLine "GET /  HTTP/1.1".toList) := by decide +kernel
  have hhead : ∀ text, head ≠ Utf8.encode text := by
    intro text h
    have hdecode := Utf8.decode?_eq_some_iff.2 h
    revert hdecode
    rw [show Utf8.decode? head = none by decide]
    exact nofun
  obtain ⟨hstatus, -, hbody⟩ := hencoding head hhead
  refine ⟨(hclassified folded .header).1 (by decide +kernel), hspaced, ?_, hstatus, hbody⟩
  exact (hfirst _ _ (by decide +kernel) (.requestLine _) trivial).1 hspaced

/-! ## Heads that are not served -/

/-- Whether bytes begin with the head of a request that is answered by the site. -/
def AsksSite (head : Bytes) : Prop :=
  ∃ text request rest, head = Utf8.encode text ∧ Request.IsHead text request rest ∧
    (request.method = .get ∨ request.method = .head)

theorem asksSite_iff :
    AsksSite head ↔ ∃ request, parseHead head = .ok request ∧ request.method.isSupported := by
  simp only [Method.isSupported, Bool.or_eq_true, decide_eq_true_eq]
  constructor
  · rintro ⟨text, request, rest, rfl, hhead, hmethod⟩
    exact ⟨request, (parseHead_encode text).trans (Request.parse_of_isHead hhead), hmethod⟩
  · rintro ⟨request, hparse, hmethod⟩
    obtain ⟨text, htext, hparse⟩ := exists_parse_of_parseHead hparse
    obtain ⟨rest, hhead⟩ := Request.isHead_of_parse hparse
    exact ⟨text, request, rest, htext, hhead, hmethod⟩

/-- What does not ask the site for anything has one reply, whatever the site and the disk. -/
theorem respond_of_not_asksSite (h : ¬ AsksSite head) (now : Nat) (site other : Site)
    (disk later : Disk) : respond site disk now head = respond other later now head := by
  unfold respond
  cases hparse : parseHead head with
  | error error => rfl
  | ok request =>
    have hmethod : request.method.isSupported = false := by
      rw [← Bool.not_eq_true]
      exact fun hsupported => h (asksSite_iff.2 ⟨request, hparse, hsupported⟩)
    simp only [toRequest, ofRequest, hmethod, Bool.false_eq_true, if_false]

/-- A method that is not served has one response, whether it is known or not. -/
theorem response_of_requestLine {text method target versionToken fields rest : Text}
    {version : Version} {headers : List Header}
    (hline : Request.RequestLine text method target versionToken fields)
    (hget : method ≠ "GET".toList) (hhead : method ≠ "HEAD".toList)
    (hversion : Version.parse versionToken = .ok version)
    (hblock : Request.FieldBlock fields headers rest) :
    (respond site disk now (Utf8.encode text)).response =
      finish now (refusal (.method method)) := by
  have hparse := Request.parse_of_requestLine hline
  cases hmethod : Method.parse? method with
  | none =>
    simp only [hversion, Request.headers?_of_fieldBlock hblock, hmethod] at hparse
    exact response_of_error ((parseHead_encode text).trans hparse)
  | some known =>
    simp only [hversion, Request.headers?_of_fieldBlock hblock, hmethod] at hparse
    -- a known method is written as it was read
    obtain rfl := Method.eq_token_of_parse? hmethod
    have hget : known ≠ .get := fun h => hget (h ▸ rfl)
    have hhead : known ≠ .head := fun h => hhead (h ▸ rfl)
    have hsupported : known.isSupported = false := by simp [Method.isSupported, hget, hhead]
    have hrequest := (parseHead_encode text).trans hparse
    rw [response_of_method hrequest hsupported]

/-- Neither the site nor the disk has an influence on the reply to a head that is no request with
one of the two methods that are served, with the exchange that is reported, or on anything else on
the connection that the head comes on. Any other method on a head that is well-formed otherwise,
known or not, is answered by 501, with the page that names it, which is spelled out. No more of the
head goes into the response. -/
theorem unserved_respond (now : Nat) :
    (∀ head, ¬ AsksSite head → ∀ site other disk later,
      respond site disk now head = respond other later now head) ∧
    (∀ peer : Peer, (∀ head, peer.readHead.1 = .head head → ¬ AsksSite head) →
      ∀ site other disk later,
        Conversation.hold site disk now peer = Conversation.hold other later now peer) ∧
    ∀ text method target versionToken fields version headers rest,
      Request.RequestLine text method target versionToken fields →
      method ≠ "GET".toList → method ≠ "HEAD".toList →
      Version.parse versionToken = .ok version → Request.FieldBlock fields headers rest →
      ∀ site disk,
        let response := (respond site disk now (Utf8.encode text)).response
        response = finish now (refusal (.method method)) ∧ response.status.code = 501 ∧
          response.body = some (Utf8.encode (Draft.errorPage .notImplemented
            ("Unsupported method ('".toList ++ method ++ "')".toList))) ∧
          response.body = some (Utf8.encode (Draft.errorLines "501".toList
            ("Unsupported method (&#x27;".toList ++ Html.escape method ++ "&#x27;)".toList)
            "Server does not support this operation".toList).flatten) := by
  refine ⟨fun head h => respond_of_not_asksSite h now, fun peer h site other disk later => ?_,
    fun text method target versionToken fields version headers rest hline hget hhead hversion
      hblock site disk => ?_⟩
  · rcases hread : peer.readHead with ⟨received, unread⟩
    unfold Conversation.hold
    rw [hread]
    cases received with
    | head head =>
      simp only
      rw [respond_of_not_asksSite (h head (by rw [hread])) now site other disk later]
    | nothing | failed | waiting => rfl
  · have hresponse := @response_of_requestLine site disk now _ _ _ _ _ _ _ _ hline hget hhead
      hversion hblock
    have hbody : (respond site disk now (Utf8.encode text)).response.body =
        some (Utf8.encode (Draft.errorPage .notImplemented
          ("Unsupported method ('".toList ++ method ++ "')".toList))) := by
      rw [hresponse, body_finish, body_refusal]
      rfl
    refine ⟨hresponse, ?_, hbody, ?_⟩
    · rw [hresponse, status_finish]
      rfl
    · rw [hbody, Draft.errorPage_method]

/-- A known method that is not served and an unknown one with markup in it, with other targets,
versions and fields. -/
theorem unserved_respond_of_markup :
    let site : Site := ⟨["srv".toList].map Utf8.encode⟩
    let head := Utf8.encode "POST / HTTP/1.0\n\n".toList
    let peer : Peer := ⟨[head, [0x61]], .closed, none, none⟩
    let known := "DELETE /a?b HTTP/0.9\n".toList
    let unknown := "<b> /../x HTTP/1.1\r\nHost: a\r\n\r\n".toList
    respond ⟨[]⟩ .empty 0 head = respond site .empty 0 head ∧
      Conversation.hold ⟨[]⟩ .empty 0 peer = Conversation.hold site .empty 0 peer ∧
      (respond site .empty 0 (Utf8.encode known)).response.status.code = 501 ∧
      (respond site .empty 0 (Utf8.encode unknown)).response.body =
        some (Utf8.encode (Draft.errorLines "501".toList
          "Unsupported method (&#x27;&lt;b&gt;&#x27;)".toList
          "Server does not support this operation".toList).flatten) := by
  intro site head peer known unknown
  obtain ⟨hhead, hpeer, hmethod⟩ := unserved_respond 0
  have hparse : parseHead head = .ok ⟨.post, "/".toList, .http10, []⟩ := by decide +kernel
  have hasks : ¬ AsksSite head := by
    intro h
    obtain ⟨request, hrequest, hsupported⟩ := asksSite_iff.1 h
    rw [hparse] at hrequest
    obtain rfl := Except.ok.inj hrequest
    cases hsupported
  have hread : peer.readHead.1 = .head head := by decide +kernel
  have hknown : Request.RequestLine known "DELETE".toList "/a?b".toList "HTTP/0.9".toList [] :=
    @Request.RequestLine.intro "DELETE".toList "/a?b".toList "HTTP/0.9".toList [] .lf (by decide)
      (by decide) (by decide) nofun
  have hunknown : Request.RequestLine unknown "<b>".toList "/../x".toList "HTTP/1.1".toList
      "Host: a\r\n\r\n".toList :=
    @Request.RequestLine.intro "<b>".toList "/../x".toList "HTTP/1.1".toList _ .crlf (by decide)
      (by decide) (by decide) nofun
  have hfields : Request.FieldBlock "Host: a\r\n\r\n".toList [⟨"Host".toList, "a".toList⟩] [] :=
    .field (@Request.FieldLine.intro "Host".toList [' '] "a".toList .crlf (by decide)
      (List.forall_mem_singleton.2 (by decide)) (by decide) (by decide))
      (@Request.FieldBlock.blank .crlf (by decide) [])
  refine ⟨hhead head hasks _ _ _ _, hpeer peer (fun received h => ?_) _ _ _ _, ?_, ?_⟩
  · rw [hread] at h
    obtain rfl := Received.head.inj h
    exact hasks
  · exact (hmethod known _ _ _ _ ⟨0, 9⟩ [] [] hknown (by decide) (by decide) (by decide) .ended
      _ _).2.1
  · have hmarkup : "Unsupported method (&#x27;".toList ++ Html.escape "<b>".toList ++
        "&#x27;)".toList = "Unsupported method (&#x27;&lt;b&gt;&#x27;)".toList := by decide
    obtain ⟨-, -, -, hpage⟩ := hmethod unknown _ _ _ _ .http11 _ [] hunknown (by decide)
      (by decide) (by decide) hfields site .empty
    rwa [hmarkup] at hpage

end Reply

end FileServer
