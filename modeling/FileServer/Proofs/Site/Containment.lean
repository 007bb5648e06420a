import FileServer.Http.MediaTable
import FileServer.Proofs.Reply

/-!
# What a site gives out

What a client learns of the contents of a file system is the contents of a file or the names in a
directory, and both lie in the site: a request is answered from a place whose real path goes
through no link and begins with the root (`Reaches`). The path that is asked for says nothing about
that, since a link may lead anywhere from below the root; the look at the real path does.

* `reaches_of_refusal?`: a path that is not refused leads to such a place;
* `reaches_answer`: an answer that gives something out gives out what is at such a place;
* `reaches_respond`: so does a reply to any bytes, in its body, in the length that it states of a
  body which is left out, and in saying that a file has not changed.
-/

namespace FileServer

namespace Site

variable {site : Site} {disk : Disk} {request : Request}

/-- A place in the site from which a request may be answered, and the path that leads there. -/
structure Reaches (site : Site) (disk : Disk) (request : Request) (path : Path) (place : Place) :
    Prop where
  asked : path ∈ site.askedPaths request
  resolve : disk.resolve path = .ok place
  canonical : disk.canonical path = .ok place
  /-- The real path goes through directories only and ends at what is given out. -/
  real : disk.IsReal place
  within : site.root <+: place.path

/-- What is given out of a place: the contents of a file, or the page that lists a directory. -/
def shown (disk : Disk) (request : Request) (path : Path) (place : Place) : Bytes :=
  match place.object with
  | .file file => file.contents
  | .directory _ =>
    Utf8.encode (Listing.ofDirectory disk place.path path (decodePath request.path)).page

theorem reaches_of_refusal? {path : Path} {place : Place}
    (hasked : path ∈ site.askedPaths request) (hplace : disk.resolve path = .ok place)
    (hrefusal : site.refusal? disk path = none) : site.Reaches disk request path place := by
  have hwithin : site.root <+: place.path :=
    contains_iff.1 (contains_of_refusal? hrefusal hplace)
  refine ⟨hasked, hplace, ?_, Disk.isReal_of_resolve hplace, hwithin⟩
  unfold refusal? at hrefusal
  split at hrefusal
  · cases hrefusal
  · next real hreal => rw [hreal, Disk.eq_of_resolve_of_canonical hplace hreal]

/-- An answer that gives something out gives out what is at a place in the site. -/
theorem reaches_answer {outcome : Outcome} (houtcome : site.answer disk request = outcome)
    (h : outcome.status = .ok ∨ outcome.status = .notModified) :
    ∃ path place, site.Reaches disk request path place ∧
      (outcome.status = .ok → outcome.draft.body = some (shown disk request path place)) ∧
      (outcome.status = .notModified → ∃ file, place.object = .file file) := by
  have hanswers := houtcome ▸ site.answers_answer disk request
  clear houtcome
  have hfailed : ∀ fault, ¬ ((Outcome.failed fault).status = .ok ∨
      (Outcome.failed fault).status = .notModified) := by
    intro fault
    cases fault <;> decide
  cases hanswers with
  | failed => exact absurd h (hfailed _)
  | refused _ _ hrefusal =>
    obtain ⟨fault, rfl⟩ | ⟨real, rfl⟩ := refusal?_eq_some hrefusal
    · exact absurd h (hfailed fault)
    · exact absurd h (by simp [Outcome.status])
  | @sent path real file hasked hplace hrefusal =>
    have hreaches := reaches_of_refusal? hasked hplace hrefusal
    refine ⟨path, _, hreaches, fun hok => ?_, fun _ => ⟨file, rfl⟩⟩
    obtain hsend | hsend | hsend := site.sendFile_cases request path file <;> rw [hsend] at hok ⊢
    · cases hok
    · rfl
    · cases hok
  | slashAfterFile => exact absurd h (by simp [Outcome.status])
  | @listed real access hplace hrefusal =>
    have hreaches := reaches_of_refusal? List.mem_cons_self hplace hrefusal
    obtain hlist | hlist := list_cases disk request (site.locate request.path) real access <;>
      rw [hlist] at h ⊢
    · exact ⟨_, _, hreaches, fun _ => rfl, fun hunchanged => by cases hunchanged⟩
    · exact absurd h (by simp [Outcome.status])
  | redirected => exact absurd h (by simp [Outcome.status])

end Site

namespace Reply

open Site (shown)

/-- What a request is answered with, when something is given out. -/
theorem exists_answer_of_status {site : Site} {disk : Disk} {head : Bytes}
    (h : (draft site disk head).status = .ok ∨ (draft site disk head).status = .notModified) :
    ∃ request, parseHead head = .ok request ∧
      draft site disk head = (site.answer disk request).draft := by
  have hother : ∀ status ∈ [.badRequest, .notImplemented, .httpVersionNotSupported],
      ¬ (status = Status.ok ∨ status = .notModified) := by decide
  obtain ⟨error, hdraft⟩ | ⟨request, hparse, -, hdraft⟩ := draft_cases site disk head
  · exact absurd (hdraft ▸ h) (hother _ (status_refusal_mem error))
  · exact ⟨request, hparse, hdraft⟩

/-- Nothing is written to a client but a reply to what it sent, whatever the root of the site and
the state of the file system. A reply with status 200 shows a file or a directory of the site, or
for `HEAD` states the length of what it would show; one with status 304 tells of such a file. -/
theorem reaches_respond (site : Site) (disk : Disk) (now : Nat) :
    (∀ peer : Peer, (Conversation.hold site disk now peer).written = [] ∨
      ∃ head unread, peer.readHead = (.head head, unread) ∧
        (Conversation.hold site disk now peer).written <+:
          (respond site disk now head).response.wire) ∧
    ∀ head : Bytes,
      ((respond site disk now head).response.status = .ok →
        ∃ request path place, parseHead head = .ok request ∧
          site.Reaches disk request path place ∧
          (respond site disk now head).response.header Draft.contentLength =
            some (Decimal.render (shown disk request path place).length) ∧
          (respond site disk now head).response.body =
            if request.method = .head then none else some (shown disk request path place)) ∧
      ((respond site disk now head).response.status = .notModified →
        ∃ request path real file, parseHead head = .ok request ∧
          site.Reaches disk request path ⟨real, .file file⟩) := by
  refine ⟨fun peer => ?_, fun head => ⟨fun hok => ?_, fun hunchanged => ?_⟩⟩
  · cases hread : peer.readHead with
    | mk received unread =>
      cases received with
      | head head => exact .inr ⟨head, unread, rfl, written_hold_of_readHead hread⟩
      | nothing | failed | waiting => exact .inl (by simp only [Conversation.hold, hread])
  · have hnew : (draft site disk head).status ≠ .notModified := by
      rw [← @status_respond site disk now head, hok]
      decide
    rw [header_contentLength_respond hnew, body_respond]
    rw [status_respond] at hok
    obtain ⟨request, hparse, hdraft⟩ := exists_answer_of_status (.inl hok)
    rw [hdraft, Outcome.status_draft] at hok
    obtain ⟨path, place, hreaches, hbody, -⟩ := Site.reaches_answer rfl (.inl hok)
    refine ⟨request, path, place, hparse, hreaches, ?_, ?_⟩
    · rw [hdraft, Draft.bodyLength, hbody hok]
      rfl
    · rw [hdraft, hbody hok, asksHeadOnly, hparse]
      simp
  · rw [status_respond] at hunchanged
    obtain ⟨request, hparse, hdraft⟩ := exists_answer_of_status (.inr hunchanged)
    rw [hdraft, Outcome.status_draft] at hunchanged
    obtain ⟨path, place, hreaches, -, hfile⟩ := Site.reaches_answer rfl (.inr hunchanged)
    obtain ⟨file, hobject⟩ := hfile hunchanged
    refine ⟨request, path, place.path, file, hparse, ?_⟩
    rw [← hobject]
    exact hreaches

/-- A link within the site is followed, and one that leads out of it is refused. -/
theorem reaches_respond_of_link :
    let bytes := fun s : String => Utf8.encode s.toList
    let site : Site := ⟨[bytes "srv"]⟩
    let disk : Disk := ⟨[⟨[], bytes "srv", .object (.directory .all)⟩,
      ⟨[], bytes "srv2", .object (.file ⟨.all, ⟨0, 0⟩, bytes "secret"⟩)⟩,
      ⟨[bytes "srv"], bytes "in", .link (bytes "a")⟩,
      ⟨[bytes "srv"], bytes "a", .object (.file ⟨.all, ⟨0, 0⟩, bytes "public"⟩)⟩,
      ⟨[bytes "srv"], bytes "out", .link (bytes "../srv2")⟩]⟩
    let inside := bytes "GET /in HTTP/1.0\r\n\r\n"
    let outside := bytes "GET /out HTTP/1.0\r\n\r\n"
    (respond site disk 0 outside).response.status = .forbidden ∧
      (respond site disk 0 inside).response.body = some (bytes "public") ∧
      ∃ request path place, parseHead inside = .ok request ∧
        site.Reaches disk request path place := by
  intro bytes site disk inside outside
  refine ⟨by decide +kernel, by decide +kernel, ?_⟩
  obtain ⟨request, path, place, hparse, hreaches, -⟩ :=
    ((reaches_respond site disk 0).2 inside).1 (by decide +kernel)
  exact ⟨request, path, place, hparse, hreaches⟩

end Reply

end FileServer
