import FileServer.Http.MediaTable
import FileServer.Proofs.Connection.Boundary
import FileServer.Proofs.Reply
import FileServer.Proofs.Site.Paths

/-!
# Redirects

A directory that is asked for without the slash at the end is answered by the location with one.
The location otherwise repeats what was asked for, escapes and all, and since no slash names
anything it has the same names in it. A request for it is therefore answered from the same
directory, and its final slash keeps it from being redirected again.

* `segments_directoryPath`: the names in a location are those of the request;
* `exists_location_of_status`: which reply redirects, and where to;
* `redirect_respond`: a client that follows a redirect asks for the same directory, and is not
  redirected again;
* `location_respond`: a location begins with one slash, unless the path of the request is empty.
-/

namespace FileServer

namespace Site

variable {site : Site} {disk : Disk} {request next : Request}

theorem segments_directoryPath (request : Request) :
    segments (directoryPath request) = segments request.path := by
  rw [directoryPath, segments_append_singleton_slash, segments_cons_slash,
    segments_dropWhile_slash]

/-- A location leads where the request did. -/
theorem locate_of_directoryLocation (site : Site)
    (h : next.target = directoryLocation request) :
    site.locate next.path = site.locate request.path := by
  rw [locate, locate, path_of_directoryLocation h, segments_directoryPath]

/-- A location can be asked for. -/
theorem isToken_directoryLocation (h : Request.IsToken request.target) :
    Request.IsToken (directoryLocation request) := by
  obtain ⟨-, hspace, hline⟩ := h
  refine ⟨?_, fun hmem => ?_, isOneLine_directoryLocation hline⟩
  · rw [directoryLocation_eq, directoryPath]
    simp
  · exact (mem_directoryLocation hmem).elim (by decide) hspace

/-- The second character of a location is a slash only for want of a path. -/
theorem getElem?_one_directoryLocation (hslash : request.path.getLast? ≠ some '/') :
    (directoryLocation request)[1]? = some '/' ↔ request.path = [] := by
  rw [directoryLocation_eq, directoryPath]
  cases hrest : request.path.dropWhile (· = '/') with
  | nil =>
    have hslashes : ∀ c ∈ request.path, c = '/' := fun c hc => by
      simpa using List.dropWhile_eq_nil_iff.1 hrest c hc
    have hempty : request.path = [] := by
      cases hlast : request.path.getLast? with
      | none => exact List.getLast?_eq_none_iff.1 hlast
      | some c => exact absurd (hslashes c (List.mem_of_getLast? hlast) ▸ hlast) hslash
    exact ⟨fun _ => hempty, fun _ => rfl⟩
  | cons c rest =>
    have hc : c ≠ '/' := by
      have := List.head?_dropWhile_not (· = '/') request.path
      rw [hrest] at this
      simpa using this
    have hpath : request.path ≠ [] := by
      intro h
      rw [h] at hrest
      cases hrest
    exact ⟨fun h => absurd (Option.some.inj h) hc, fun h => absurd h hpath⟩

/-- Only a path that leads to a directory and lacks the final slash is redirected. -/
theorem warrants_of_redirect {location : Text}
    (h : site.answer disk request = .redirect location) :
    site.Warrants disk request (.redirect location) :=
  h ▸ site.warrants_answer disk request

end Site

namespace Reply

open Site (directoryLocation)

variable {site : Site} {disk : Disk} {now : Nat} {head : Bytes}

/-- A reply that redirects names the location of the directory that was asked for. -/
theorem exists_location_of_status
    (h : (respond site disk now head).response.status = .movedPermanently) :
    ∃ request, parseHead head = .ok request ∧
      site.answer disk request = .redirect (directoryLocation request) ∧
      (respond site disk now head).response.header "Location".toList =
        some (directoryLocation request) := by
  rw [status_respond] at h
  obtain ⟨error, hdraft⟩ | ⟨request, hparse, -, hdraft⟩ := draft_cases site disk head
  · have hother : Status.movedPermanently ∉
        [.badRequest, .notImplemented, .httpVersionNotSupported] := by decide
    rw [hdraft] at h
    exact absurd (h ▸ status_refusal_mem error) hother
  · rw [hdraft, Outcome.status_draft] at h
    obtain ⟨location, hanswer⟩ := Outcome.exists_redirect_of_status h
    obtain ⟨-, -, rfl⟩ := Site.warrants_of_redirect hanswer
    have hlocation : (⟨"Location".toList, directoryLocation request⟩ : Header) ∈
        (draft site disk head).headers := by
      rw [hdraft, hanswer, Outcome.headers_draft_redirect]
      exact List.mem_singleton_self _
    exact ⟨request, hparse, hanswer, header_respond_of_mem hlocation⟩

theorem redirect_of_status {request : Request} (hparse : parseHead head = .ok request)
    (h : (respond site disk now head).response.status = .movedPermanently) :
    site.answer disk request = .redirect (directoryLocation request) := by
  obtain ⟨_, hparsed, hanswer, -⟩ := exists_location_of_status h
  obtain rfl := Except.ok.inj (hparse.symm.trans hparsed)
  exact hanswer

/-- A client that follows a redirect asks for the same directory. The location of a reply with
status 301 can be the target of a request, and the request is accepted. A request for it leads to
the same place below the root, has the same query and a path that ends with a slash, and while the
file system stays as it is no reply to it is a redirect. -/
theorem redirect_respond (site : Site) (disk : Disk) (now : Nat) (head : Bytes)
    (h : (respond site disk now head).response.status = .movedPermanently) :
    ∃ request location, parseHead head = .ok request ∧
      (respond site disk now head).response.header "Location".toList = some location ∧
      Request.IsToken location ∧
      (∃ other, parseHead other = .ok { request with target := location }) ∧
      ∀ next : Request, next.target = location →
        site.locate next.path = site.locate request.path ∧
        next.query? = request.query? ∧
        next.path.getLast? = some '/' ∧
        ∀ later other, parseHead other = .ok next →
          (respond site disk later other).response.status ≠ .movedPermanently := by
  obtain ⟨request, hparse, -, hlocation⟩ := exists_location_of_status h
  have htoken : Request.IsToken (directoryLocation request) :=
    Site.isToken_directoryLocation (isToken_target_of_parseHead hparse)
  refine ⟨request, directoryLocation request, hparse, hlocation, htoken,
    exists_parseHead_withTarget hparse htoken, fun next htarget => ?_⟩
  have hslash : next.path.getLast? = some '/' := by
    rw [Site.path_of_directoryLocation htarget, Site.getLast?_directoryPath]
  refine ⟨Site.locate_of_directoryLocation site htarget,
    Site.query?_of_directoryLocation htarget, hslash, fun later other hother hagain => ?_⟩
  obtain ⟨-, hnoSlash, -⟩ := Site.warrants_of_redirect (redirect_of_status hother hagain)
  exact hnoSlash hslash

/-- An incomplete escape, slashes at the front and a question mark in the query. -/
theorem redirect_respond_of_query :
    let bytes := fun s : String => Utf8.encode s.toList
    let site : Site := ⟨[bytes "srv"]⟩
    let disk : Disk := ⟨[⟨[], bytes "srv", .object (.directory .all)⟩,
      ⟨[bytes "srv"], bytes "d%", .object (.directory .all)⟩]⟩
    let head := bytes "GET //d%?a?b#c HTTP/1.0\r\n\r\n"
    (respond site disk 0 head).response.status = .movedPermanently ∧
      ∃ location, (respond site disk 0 head).response.header "Location".toList = some location ∧
        Request.IsToken location ∧
        (respond site disk 0 (bytes "HEAD /d%/?a?b HTTP/1.1\r\n\r\n")).response.status ≠
          .movedPermanently := by
  intro bytes site disk head
  have hstatus : (respond site disk 0 head).response.status = .movedPermanently := by
    decide +kernel
  have hheader : (respond site disk 0 head).response.header "Location".toList =
      some "/d%/?a?b".toList := by decide +kernel
  have hnext : parseHead (bytes "HEAD /d%/?a?b HTTP/1.1\r\n\r\n") =
      .ok ⟨.head, "/d%/?a?b".toList, .http11, []⟩ := by
    rw [parseHead_encode]
    decide +kernel
  obtain ⟨request, location, -, hlocation, htoken, -, hfollow⟩ :=
    redirect_respond site disk 0 head hstatus
  obtain rfl := Option.some.inj (hheader.symm.trans hlocation)
  obtain ⟨-, -, -, hagain⟩ := hfollow ⟨.head, "/d%/?a?b".toList, .http11, []⟩ rfl
  exact ⟨hstatus, _, hlocation, htoken, hagain 0 _ hnext⟩

/-- A location begins with a slash. It begins with two, which name another host, if the path of the
request is empty and in no other case. -/
theorem location_respond (site : Site) (disk : Disk) (now : Nat) (head : Bytes)
    (h : (respond site disk now head).response.status = .movedPermanently) :
    ∃ request location, parseHead head = .ok request ∧
      (respond site disk now head).response.header "Location".toList = some location ∧
      location.head? = some '/' ∧ (location[1]? = some '/' ↔ request.path = []) := by
  obtain ⟨request, hparse, hanswer, hlocation⟩ := exists_location_of_status h
  obtain ⟨-, hslash, -⟩ := Site.warrants_of_redirect hanswer
  refine ⟨request, directoryLocation request, hparse, hlocation, ?_,
    Site.getElem?_one_directoryLocation hslash⟩
  rw [Site.directoryLocation_eq]
  rfl

/-- The location of a target without path names another host. -/
theorem location_respond_of_query :
    let response := (respond ⟨[]⟩ Disk.empty 0
      (Utf8.encode "GET ?x HTTP/1.0\r\n\r\n".toList)).response
    response.status = .movedPermanently ∧
      response.header "Location".toList = some "//?x".toList := by
  decide +kernel

/-- Slashes at the front of a path become one. -/
theorem location_respond_of_slashes :
    let bytes := fun s : String => Utf8.encode s.toList
    let disk : Disk := ⟨[⟨[], bytes "d", .object (.directory .all)⟩]⟩
    let head := bytes "GET ///d HTTP/1.0\r\n\r\n"
    (respond ⟨[]⟩ disk 0 head).response.status = .movedPermanently ∧
      ∃ location, (respond ⟨[]⟩ disk 0 head).response.header "Location".toList = some location ∧
        location.head? = some '/' ∧ location[1]? ≠ some '/' := by
  intro bytes disk head
  have hstatus : (respond ⟨[]⟩ disk 0 head).response.status = .movedPermanently := by
    decide +kernel
  have hhead : parseHead head = .ok ⟨.get, "///d".toList, .http10, []⟩ := by
    rw [parseHead_encode]
    decide +kernel
  obtain ⟨request, location, hparse, hlocation, hfirst, hsecond⟩ :=
    location_respond ⟨[]⟩ disk 0 head hstatus
  obtain rfl := Except.ok.inj (hhead.symm.trans hparse)
  exact ⟨hstatus, location, hlocation, hfirst, fun h => absurd (hsecond.1 h) (by decide)⟩

end Reply

end FileServer
