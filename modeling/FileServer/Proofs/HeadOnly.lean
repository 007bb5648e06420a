import FileServer.Http.MediaTable
import FileServer.Proofs.Connection.Boundary
import FileServer.Proofs.Wire

/-!
# Asking for the head only

A site looks at the path, the query and the fields of a request, and never at its method, so `HEAD`
is answered as `GET` is, in every case. The body is left out at the very end, when the fields are
complete, and what is counted for the log is what is sent.

* `isHead_withMethod`: a head with another method in front is the head of the same request;
* `answer_withMethod`: the method has no influence on the answer of a site;
* `toRequest_headOnly`: what this means for a reply;
* `wire_withoutBody_of_cutAt?`: a response without its body ends with the first blank line;
* `hold_headOnly`: the two replies side by side, and how they reach a client.
-/

namespace FileServer

namespace Request

theorem eq_of_token_append {method method' : Method} {s t : Text}
    (h : method.token ++ ' ' :: s = method'.token ++ ' ' :: t) : method = method' ∧ s = t := by
  have hfields := congrArg (splitOn ' ') h
  rw [splitOn_append_cons (isToken_token method).2.1,
    splitOn_append_cons (isToken_token method').2.1] at hfields
  have htoken := (List.cons.inj hfields).1
  have hmethod : method = method' := by
    have hread := Method.parse?_token method
    rw [htoken, Method.parse?_token] at hread
    exact (Option.some.inj hread).symm
  rw [htoken] at h
  exact ⟨hmethod, (List.cons.inj (List.append_cancel_left h)).2⟩

/-- A head with another method in front is the head of the same request but for the method, and its
first line is the same but for the method. -/
theorem isHead_withMethod {method : Method} {text rest : Text} {request : Request}
    (h : IsHead (method.token ++ ' ' :: text) request rest) :
    request.method = method ∧ ∃ line, ∀ other : Method,
      IsHead (other.token ++ ' ' :: text) { request with method := other } rest ∧
      Text.firstLine (other.token ++ ' ' :: text) = other.token ++ ' ' :: line := by
  generalize hwhole : method.token ++ ' ' :: text = whole at h
  obtain @⟨_, versionToken, fields, _, ending, htarget, htoken, hversion, hlast, hfields⟩ := h
  simp only [requestLine, List.append_assoc, List.cons_append] at hwhole
  obtain ⟨rfl, rfl⟩ := eq_of_token_append hwhole
  refine ⟨rfl, request.target ++ ' ' :: versionToken, fun other => ?_⟩
  have hother : other.token ++
      ' ' :: (request.target ++ ' ' :: (versionToken ++ (ending.text ++ fields))) =
      { request with method := other }.requestLine versionToken ++ ending.text ++ fields := by
    simp [requestLine]
  have hone : Text.IsOneLine ({ request with method := other }.requestLine versionToken) :=
    isOneLine_requestLine htarget htoken
  rw [hother]
  refine ⟨@IsHead.intro { request with method := other } _ _ _ _ htarget htoken hversion hlast
    hfields, ?_⟩
  rw [Text.firstLine, Text.lines_first hone (by simp [requestLine]) hlast]
  rfl

end Request

/-! ## What the method does not change -/

/-- The method has no influence on the answer of a site. -/
theorem Site.answer_withMethod (site : Site) (disk : Disk) (request : Request) (method : Method) :
    site.answer disk { request with method } = site.answer disk request := rfl

theorem Reply.ofRequest_withMethod {site : Site} {disk : Disk} {request : Request} {method : Method}
    (h : request.method.isSupported) (hmethod : method.isSupported) :
    ofRequest site disk { request with method } = ofRequest site disk request := by
  simp only [ofRequest, h, hmethod, if_true, Site.answer_withMethod]

/-- A request for the head only is answered with the same response without its body, of which no
byte is counted. -/
theorem Reply.toRequest_headOnly {request : Request} (h : request.method = .get) (site : Site)
    (disk : Disk) (now : Nat) (line headLine : Text) :
    let get := toRequest site disk now line request
    toRequest site disk now headLine { request with method := .head } =
      { exchange := { get.exchange with
          requestLine := headLine, method := some .head, bytes := 0 }
        response := get.response.withoutBody
        events := get.events } := by
  have hsame := @ofRequest_withMethod site disk request .head (by rw [h]; rfl) rfl
  simp only [toRequest, hsame, h, reduceCtorEq, if_true, if_false]
  rfl

/-- A response without its body ends with the first blank line of the response. -/
theorem Response.wire_withoutBody_of_cutAt? {response : Response} (h : response.IsWritable)
    {before body : Bytes}
    (hcut : cutAt? (Frame.crlf ++ Frame.crlf) response.wire = some (before, body)) :
    response.withoutBody.wire = before ++ (Frame.crlf ++ Frame.crlf) := by
  have hwhole := cutAt?_wire h
  rw [hcut] at hwhole
  obtain ⟨rfl, -⟩ := Prod.mk.inj (Option.some.inj hwhole)
  have hhead : response.withoutBody.IsWritable := h
  have hwire := eq_append_of_cutAt? (cutAt?_wire hhead)
  rw [hwire]
  simp [withoutBody, lines, statusText]

/-! ## Two replies side by side -/

/-- What an accepted text is replied to with. -/
theorem Reply.respond_of_isHead {site : Site} {disk : Disk} {now : Nat} {text rest : Text}
    {request : Request} (h : Request.IsHead text request rest) :
    respond site disk now (Utf8.encode text) =
      toRequest site disk now (Text.firstLine text) request := by
  simp only [respond, parseHead_encode, requestLine_encode, Request.parse_of_isHead h]

/-- An accepted text is exchanged for its reply when the peer takes everything that is written. -/
theorem Conversation.exchanged_of_isHead {site : Site} {disk : Disk} {now : Nat} {text rest : Text}
    {request : Request} (h : Request.IsHead text request rest) {peer : Peer}
    (hclosed : peer.ending = .closed) (hlimit : peer.writeLimit = none)
    (hflush : peer.flushError = none) (hbytes : peer.chunks.flatten = Utf8.encode text) :
    let reply := Reply.respond site disk now (Utf8.encode text)
    (hold site disk now peer).finish = .exchanged reply.exchange ∧
      (hold site disk now peer).written = reply.response.wire := by
  intro reply
  obtain ⟨unread, hhold⟩ := @hold_of_isHead site disk now _ _ _ h peer hbytes hclosed
  have hwritten : (send peer reply unread).written = reply.response.wire := by
    rw [written_send, Peer.write, hlimit]
  rw [hhold]
  exact ⟨finish_send_eq_exchanged_iff.2 ⟨flushed_send_iff.2 hwritten, hflush, rfl⟩, hwritten⟩

/-- What is accepted after `GET` is accepted after `HEAD`, and the reply is the same but for the
body: it has the same status and fields and ends on the wire with the first blank line of the other
reply. The exchanges differ in the method and in the number of bytes. A peer that sends either text
and takes what is written gets these replies. -/
theorem Conversation.hold_headOnly (site : Site) (disk : Disk) (now : Nat) {text : Text}
    {request : Request} (h : Request.parse ("GET ".toList ++ text) = .ok request) :
    let get := Reply.respond site disk now (Utf8.encode ("GET ".toList ++ text))
    let head := Reply.respond site disk now (Utf8.encode ("HEAD ".toList ++ text))
    Request.parse ("HEAD ".toList ++ text) = .ok { request with method := .head } ∧
      head.response.status = get.response.status ∧
      head.response.headers = get.response.headers ∧
      (∃ before body,
        cutAt? (Frame.crlf ++ Frame.crlf) get.response.wire = some (before, body) ∧
        head.response.wire = before ++ (Frame.crlf ++ Frame.crlf)) ∧
      (∃ line, get.exchange.requestLine = "GET ".toList ++ line ∧
        get.exchange.method = some .get ∧
        head.exchange = { get.exchange with
          requestLine := "HEAD ".toList ++ line, method := some .head, bytes := 0 }) ∧
      ∀ peer : Peer, peer.ending = .closed → peer.writeLimit = none → peer.flushError = none →
        (peer.chunks.flatten = Utf8.encode ("GET ".toList ++ text) →
          (hold site disk now peer).finish = .exchanged get.exchange ∧
          (hold site disk now peer).written = get.response.wire) ∧
        (peer.chunks.flatten = Utf8.encode ("HEAD ".toList ++ text) →
          (hold site disk now peer).finish = .exchanged head.exchange ∧
          (hold site disk now peer).written = head.response.wire) := by
  intro get head
  obtain ⟨rest, hget⟩ := Request.isHead_of_parse h
  obtain ⟨hmethod, line, hother⟩ :=
    Request.isHead_withMethod (show Request.IsHead (Method.get.token ++ ' ' :: text) _ _ from hget)
  obtain ⟨hhead, hheadLine⟩ := hother .head
  obtain ⟨-, hgetLine⟩ := hother .get
  have hgetReply : get = Reply.toRequest site disk now ("GET ".toList ++ line) request :=
    (Reply.respond_of_isHead hget).trans (congrArg (Reply.toRequest site disk now · _) hgetLine)
  have hheadReply : head = Reply.toRequest site disk now ("HEAD ".toList ++ line)
      { request with method := .head } :=
    (Reply.respond_of_isHead hhead).trans (congrArg (Reply.toRequest site disk now · _) hheadLine)
  rw [Reply.toRequest_headOnly hmethod site disk now ("GET ".toList ++ line), ← hgetReply]
    at hheadReply
  have hcut : cutAt? (Frame.crlf ++ Frame.crlf) get.response.wire = some _ :=
    Response.cutAt?_wire (Reply.isWritable_respond site disk now _)
  refine ⟨Request.parse_of_isHead hhead, by rw [hheadReply]; rfl, by rw [hheadReply]; rfl, ?_, ?_,
    fun peer hclosed hlimit hflush => ⟨?_, ?_⟩⟩
  · refine ⟨_, _, hcut, ?_⟩
    rw [hheadReply]
    exact Response.wire_withoutBody_of_cutAt? (Reply.isWritable_respond site disk now _) hcut
  · refine ⟨line, by rw [hgetReply]; rfl, ?_, by rw [hheadReply]⟩
    rw [hgetReply, ← hmethod]
    rfl
  · exact exchanged_of_isHead hget hclosed hlimit hflush
  · exact exchanged_of_isHead hhead hclosed hlimit hflush

/-- A file of the site, asked for with a body after the blank line of the request. -/
theorem Conversation.hold_headOnly_of_file :
    let bytes := fun s : String => Utf8.encode s.toList
    let site : Site := ⟨[bytes "srv"]⟩
    let disk : Disk := ⟨[⟨[], bytes "srv", .object (.directory .all)⟩,
      ⟨[bytes "srv"], bytes "a.txt", .object (.file ⟨.all, ⟨0, 0⟩, bytes "one\r\n\r\ntwo"⟩)⟩]⟩
    let text := "/a.txt HTTP/1.0\r\n\nbody".toList
    let get : Peer := ⟨[bytes "GET ", Utf8.encode text], .closed, none, none⟩
    let head : Peer := ⟨[bytes "HEA", bytes "D ", Utf8.encode text], .closed, none, none⟩
    Request.parse ("GET ".toList ++ text) = .ok ⟨.get, "/a.txt".toList, .http10, []⟩ ∧
      ∃ before body, cutAt? (Frame.crlf ++ Frame.crlf) (hold site disk 0 get).written =
        some (before, body) ∧ body = bytes "one\r\n\r\ntwo" ∧
        (hold site disk 0 head).written = before ++ (Frame.crlf ++ Frame.crlf) := by
  intro bytes site disk text get head
  have hparse : Request.parse ("GET ".toList ++ text) =
      .ok ⟨.get, "/a.txt".toList, .http10, []⟩ := by decide +kernel
  obtain ⟨-, -, -, ⟨before, body, hcut, hhead⟩, -, hhold⟩ := hold_headOnly site disk 0 hparse
  have hgetWritten := ((hhold get rfl rfl rfl).1 rfl).2
  have hheadWritten := ((hhold head rfl rfl rfl).2 rfl).2
  have hbody : (cutAt? (Frame.crlf ++ Frame.crlf) (hold site disk 0 get).written).map Prod.snd =
      some (bytes "one\r\n\r\ntwo") := by decide +kernel
  rw [hgetWritten, hcut] at hbody
  exact ⟨hparse, before, body, by rw [hgetWritten, hcut], Option.some.inj hbody,
    by rw [hheadWritten, hhead]⟩

end FileServer
