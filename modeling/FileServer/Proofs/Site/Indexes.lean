import FileServer.Http.MediaTable
import FileServer.Proofs.Disk.Ways
import FileServer.Proofs.Site.Links

/-!
# Index files

A directory is answered as its index file would be, if it has one: by the file, by word that the
file has not changed, or by the refusal of a file that leads out of the site or must not be read.
The directory is looked at before the index file is. Where the index file is asked for by its own
path there is no look at the directory, but what a look would fail for makes the longer way fail as
well.

* `index?_of_isFile`, `index?_eq_none_iff`: which index file is found;
* `answer_eq_listing_iff`: which requests are answered by a listing;
* `answer_append_index`: a request for the index file gets the answer of the directory;
* `index_respond`: so does a client, and without index file it gets to see a listing.
-/

namespace FileServer

namespace Disk

/-- Whether a path is found to lead to a regular file. -/
def IsFile (disk : Disk) (path : Path) : Prop :=
  ∃ real file, disk.resolve path = .ok ⟨real, .file file⟩

instance (disk : Disk) (path : Path) : Decidable (disk.IsFile path) :=
  match h : disk.resolve path with
  | .ok ⟨real, .file file⟩ => isTrue ⟨real, file, h⟩
  | .ok ⟨_, .directory _⟩ => isFalse (by simp [IsFile, h])
  | .error _ => isFalse (by simp [IsFile, h])

end Disk

namespace Site

variable {site : Site} {disk : Disk} {request next : Request} {directory : Path} {name : Name}

/-! ## Which index file is found -/

theorem index?_of_isFile {before after : List Name} {real : Path} {file : File}
    (hnames : indexNames = before ++ name :: after)
    (hbefore : ∀ other ∈ before, ¬ disk.IsFile (directory ++ [other]))
    (hfile : disk.resolve (directory ++ [name]) = .ok ⟨real, .file file⟩) :
    index? disk directory = some (directory ++ [name], file) := by
  unfold index?
  rw [hnames, List.findSome?_eq_some_iff]
  refine ⟨before, name, after, rfl, ?_, fun other hother => ?_⟩
  · rw [hfile]
  · split
    · next real file hreal => exact absurd ⟨real, file, hreal⟩ (hbefore other hother)
    · rfl

theorem index?_eq_none_iff :
    index? disk directory = none ↔ ∀ name ∈ indexNames, ¬ disk.IsFile (directory ++ [name]) := by
  rw [index?, List.findSome?_eq_none_iff]
  refine forall₂_congr fun name _ => ?_
  split
  · next real file hreal => exact iff_of_false (by simp) (fun h => h ⟨real, file, hreal⟩)
  · next hother => exact iff_of_true rfl fun ⟨real, file, hreal⟩ => hother real file hreal

/-! ## The answer of a directory -/

/-- A listing is the answer to a path with final slash that leads to a directory which is given
out, has no index file and may be read. -/
theorem answer_eq_listing_iff {listing : Listing} :
    site.answer disk request = .listing listing ↔ ∃ real access,
      disk.resolve (site.locate request.path) = .ok ⟨real, .directory access⟩ ∧
      request.path.getLast? = some '/' ∧ site.refusal? disk (site.locate request.path) = none ∧
      index? disk (site.locate request.path) = none ∧ access.read = true ∧
      listing = .ofDirectory disk real (site.locate request.path) (decodePath request.path) := by
  constructor
  · intro hanswer
    obtain ⟨real, access, hplace, hslash, hlisting⟩ :
        site.Warrants disk request (.listing listing) := hanswer ▸ site.warrants_answer disk request
    have hnone : ∀ path outcome, site.refusal? disk path = some outcome →
        outcome ≠ .listing listing := by
      rintro path outcome hrefusal rfl
      obtain ⟨_, h⟩ | ⟨_, h⟩ := refusal?_eq_some hrefusal <;> cases h
    rw [answer_of_directory hplace hslash] at hanswer
    cases hself : site.refusal? disk (site.locate request.path) with
    | some outcome =>
      rw [hself, Option.getD_some] at hanswer
      exact absurd hanswer (hnone _ _ hself)
    | none =>
      rw [hself, Option.getD_none] at hanswer
      split at hanswer
      · next path file hindex =>
        cases hfile : site.refusal? disk path with
        | some outcome =>
          rw [hfile, Option.getD_some] at hanswer
          exact absurd hanswer (hnone _ _ hfile)
        | none =>
          rw [hfile, Option.getD_none] at hanswer
          obtain hsend | hsend | hsend := site.sendFile_cases request path file <;>
            cases hsend.symm.trans hanswer
      · next hindex =>
        refine ⟨real, access, hplace, hslash, rfl, hindex, ?_, hlisting⟩
        unfold list at hanswer
        split at hanswer
        · assumption
        · cases hanswer
  · rintro ⟨real, access, hplace, hslash, hrefusal, hindex, hread, rfl⟩
    rw [answer_of_directory hplace hslash, hrefusal, hindex, Option.getD_none]
    exact if_pos hread

/-- Of a request nothing but its fields has to do with what is sent of a file. -/
theorem sendFile_congr (h : next.headers = request.headers) (path : Path) (file : File) :
    site.sendFile next path file = site.sendFile request path file := by
  have hunchanged : isUnchanged next = isUnchanged request := by
    funext modified
    unfold isUnchanged Request.header
    rw [h]
  simp only [sendFile, hunchanged]

/-- The names of index files, as texts. -/
def indexTexts : List Text := ["index.html".toList, "index.htm".toList]

/-- The name of an index file can be put behind a path as it is. -/
theorem index_spec {index : Text} (h : index ∈ indexTexts) :
    Request.IsToken index ∧ Request.IsPath index ∧ segments index = [index] ∧
      ∀ path : Text, (path ++ index).getLast? ≠ some '/' := by
  have hall : ∀ index ∈ indexTexts, Request.IsToken index ∧ Request.IsPath index ∧
      segments index = [index] ∧ index ≠ [] ∧ index.getLast? ≠ some '/' := by decide +kernel
  obtain ⟨htoken, hpath, hsegments, hne, hlast⟩ := hall index h
  refine ⟨htoken, hpath, hsegments, fun path => ?_⟩
  rwa [List.getLast?_append_of_ne_nil _ hne]

/-- A request for the index file of a directory gets the answer of the directory. -/
theorem answer_append_index {before after : List Name} {index : Text} {real : Path}
    {access : Access} (hindex : index ∈ indexTexts) (hslash : request.path.getLast? = some '/')
    (hplace : disk.resolve (site.locate request.path) = .ok ⟨real, .directory access⟩)
    (hwithin : site.root <+: real)
    (hnames : indexNames = before ++ Utf8.encode index :: after)
    (hbefore : ∀ other ∈ before, ¬ disk.IsFile (site.locate request.path ++ [other]))
    (hisFile : disk.IsFile (site.locate request.path ++ [Utf8.encode index]))
    (hnext : next.path = request.path ++ index) (hheaders : next.headers = request.headers) :
    site.answer disk next = site.answer disk request := by
  obtain ⟨-, -, hsegments, hlast⟩ := index_spec hindex
  obtain ⟨realf, file, hfile⟩ := hisFile
  have hlocate : site.locate next.path = site.locate request.path ++ [Utf8.encode index] := by
    rw [hnext, locate_append hslash, hsegments, List.map_singleton]
  have hnoSlash : next.path.getLast? ≠ some '/' := by
    rw [hnext]
    exact hlast request.path
  rw [answer_of_file (hlocate ▸ hfile) hnoSlash, answer_of_directory hplace hslash, hlocate,
    index?_of_isFile hnames hbefore hfile, sendFile_congr hheaders]
  obtain ⟨-, hrefusal⟩ | ⟨hlong, -, hrefusal⟩ := refusal?_cases hplace hwithin
  · rw [hrefusal, Option.getD_none]
  · -- where the look at the directory fails, the look at the file fails on the way
    have hfurther := Disk.canonical_append_of_error (Disk.walk_of_resolve hfile).1 hlong
    rw [hrefusal, Option.getD_some, refusal?, hfurther, Option.getD_some]

end Site

/-! ## Longer requests -/

namespace Request

/-- A path can be made longer without changing what follows it. -/
theorem Splits.extend {target path text : Text} {query fragment : Option Text}
    (h : Splits target path query fragment) (htext : IsPath text) :
    Splits (path ++ text ++ (marked '?' query ++ marked '#' fragment)) (path ++ text) query
      fragment :=
  ⟨rfl, isPath_append.2 ⟨h.path, htext⟩, h.query⟩

theorem IsToken.insert {before text after : Text} (h : IsToken (before ++ after))
    (htext : IsToken text) : IsToken (before ++ text ++ after) := by
  obtain ⟨-, hspace, hline⟩ := h
  obtain ⟨hne, hspace', hline'⟩ := htext
  rw [Text.isOneLine_append] at hline
  rw [List.mem_append, not_or] at hspace
  refine ⟨by simp [hne], by simp [hspace, hspace'], ?_⟩
  rw [Text.isOneLine_append, Text.isOneLine_append]
  exact ⟨⟨hline.1, hline'⟩, hline.2⟩

end Request

/-- A response that shows a page, or to `HEAD` says what it would show. -/
structure Response.Shows (response : Response) (method : Method) (status : Status)
    (mediaType page : Text) : Prop where
  status : response.status = status
  body : response.body = if method = .head then none else some (Utf8.encode page)
  length : response.header Draft.contentLength = some (Decimal.render (Utf8.encode page).length)
  mediaType : response.header "Content-Type".toList = some mediaType

namespace Reply

variable {site : Site} {disk : Disk} {now : Nat} {head other : Bytes} {request next : Request}

/-- A request that is accepted is accepted with a longer path as well. -/
theorem exists_parseHead_append (hparse : parseHead head = .ok request) {text : Text}
    (htoken : Request.IsToken text) (hpath : Request.IsPath text) :
    ∃ other next, parseHead other = .ok next ∧ next.method = request.method ∧
      next.version = request.version ∧ next.headers = request.headers ∧
      next.path = request.path ++ text ∧ next.query? = request.query? := by
  obtain ⟨query, fragment, hsplits⟩ := request.exists_splits
  have hextended := hsplits.extend hpath
  obtain ⟨other, hother⟩ := exists_parseHead_withTarget hparse
    ((hsplits.join ▸ isToken_target_of_parseHead hparse).insert htoken)
  refine ⟨other, _, hother, rfl, rfl, rfl, Request.Splits.path_eq hextended, ?_⟩
  rw [Request.query?_of_splits hextended, Request.query?_of_splits hsplits]

/-- Requests with one method and one answer have one response. -/
theorem response_congr (hparse : parseHead head = .ok request)
    (hnext : parseHead other = .ok next) (hmethod : next.method = request.method)
    (hanswer : site.answer disk next = site.answer disk request) :
    (respond site disk now other).response = (respond site disk now head).response := by
  simp only [respond, hparse, hnext, toRequest, ofRequest, hmethod, hanswer]

/-- A page that is the answer to a request is shown. -/
theorem shows_respond (hparse : parseHead head = .ok request)
    (hmethod : request.method.isSupported) {status : Status} {mediaType page : Text}
    (hother : status ≠ .notModified)
    (hdraft : (site.answer disk request).draft = ((Draft.empty.withStatus status).header
      "Content-Type".toList mediaType).withBody (Utf8.encode page)) :
    (respond site disk now head).response.Shows request.method status mediaType page := by
  have hstatus : (site.answer disk request).status = status := by
    rw [← Outcome.status_draft, hdraft, Draft.status_withBody, Draft.status_header,
      Draft.status_withStatus]
  have hheaders : (draft site disk head).headers = [⟨"Content-Type".toList, mediaType⟩] := by
    rw [draft_of_parseHead hparse hmethod, hdraft, Draft.withBody,
      Draft.headers_header (by decide)]
    rfl
  obtain ⟨hbody, hlength⟩ := @body_and_length_respond site disk now head request hparse hmethod
    (Utf8.encode page) (by rw [hdraft]; rfl) (hstatus ▸ hother)
  exact ⟨(status_respond_of_parseHead hparse hmethod).trans hstatus, hbody, hlength,
    header_respond_of_mem (hheaders ▸ List.mem_singleton_self _)⟩

/-- The index file that a directory is answered as. -/
structure AnswersAs (site : Site) (disk : Disk) (head : Bytes) (request : Request)
    (index : Text) : Prop where
  /-- It can be asked for by a request that differs in nothing but the path. -/
  asked : ∃ other next, parseHead other = .ok next ∧ next.method = request.method ∧
    next.version = request.version ∧ next.headers = request.headers ∧
    next.path = request.path ++ index ∧ next.query? = request.query?
  /-- Such a request gets the response of the directory. -/
  same : ∀ now other next, parseHead other = .ok next → next.method = request.method →
    next.headers = request.headers → next.path = request.path ++ index →
    (respond site disk now other).response = (respond site disk now head).response

section Directory

variable {real : Path} {access : Access} (hparse : parseHead head = .ok request)
  (hslash : request.path.getLast? = some '/')
  (hplace : disk.resolve (site.locate request.path) = .ok ⟨real, .directory access⟩)
  (hwithin : site.root <+: real)

include hparse hslash hplace hwithin

/-- The first index file of a directory answers for it. -/
theorem answersAs_of_isFile {before after : List Name} {index : Text}
    (hindex : index ∈ Site.indexTexts)
    (hnames : Site.indexNames = before ++ Utf8.encode index :: after)
    (hbefore : ∀ other ∈ before, ¬ disk.IsFile (site.locate request.path ++ [other]))
    (hisFile : disk.IsFile (site.locate request.path ++ [Utf8.encode index])) :
    AnswersAs site disk head request index := by
  obtain ⟨htoken, hpath, -, -⟩ := Site.index_spec hindex
  refine ⟨exists_parseHead_append hparse htoken hpath,
    fun now other next hnext hmethod hheaders hpath => response_congr hparse hnext hmethod ?_⟩
  exact Site.answer_append_index hindex hslash hplace hwithin hnames hbefore hisFile hpath hheaders

/-- A directory without index file is listed if it may be read, unless its real path is too long
to be found. -/
theorem respond_of_no_index (hmethod : request.method.isSupported)
    (hnone : ∀ name ∈ Site.indexNames, ¬ disk.IsFile (site.locate request.path ++ [name])) :
    let directory := site.locate request.path
    let response := (respond site disk now head).response
    disk.canonical directory = .ok ⟨real, .directory access⟩ ∧
        (access.read = true ∧ response.Shows request.method .ok "text/html; charset=utf-8".toList
            (Listing.ofDirectory disk real directory (Site.decodePath request.path)).page ∨
          access.read = false ∧ response.Shows request.method .notFound
            "text/html;charset=utf-8".toList
            (Draft.errorPage .notFound "No permission to list directory".toList)) ∨
      disk.canonical directory = .error .nameTooLong ∧ disk.IsDeep ∧
        response.status = .notFound := by
  intro directory response
  have hanswer := Site.answer_of_directory hplace hslash
  rw [Site.index?_eq_none_iff.2 hnone] at hanswer
  obtain ⟨hfound, hrefusal⟩ | ⟨hlong, hdeep, hrefusal⟩ := Site.refusal?_cases hplace hwithin
  · rw [hrefusal, Option.getD_none, Site.list] at hanswer
    refine .inl ⟨hfound, ?_⟩
    cases hread : access.read with
    | true =>
      rw [if_pos hread] at hanswer
      exact .inl ⟨rfl, shows_respond hparse hmethod (by decide) (by rw [hanswer]; rfl)⟩
    | false =>
      rw [if_neg (by simp [hread])] at hanswer
      exact .inr ⟨rfl, shows_respond hparse hmethod (by decide) (by rw [hanswer]; rfl)⟩
  · refine .inr ⟨hlong, hdeep, ?_⟩
    rw [status_respond_of_parseHead hparse hmethod, hanswer, hrefusal, Option.getD_some]
    rfl

end Directory

/-- A directory in the site is answered as its index file is. A request for it with the slash at
the end gets the response to the same request with `index.html` behind the path if a regular file
is found there, and otherwise to that with `index.htm` if one is found there. Without index file it
is answered by its listing if it may be read and else by 404, if the method is one that is served.
The one exception is a directory whose real path is too long to be found, which takes an entry at a
path of more than 4094 bytes and is answered by 404. -/
theorem index_respond (site : Site) (disk : Disk) {head : Bytes} {request : Request}
    {real : Path} {access : Access} (hparse : parseHead head = .ok request)
    (hslash : request.path.getLast? = some '/')
    (hplace : disk.resolve (site.locate request.path) = .ok ⟨real, .directory access⟩)
    (hwithin : site.root <+: real) :
    let directory := site.locate request.path
    let isFile := fun index : Text => disk.IsFile (directory ++ [Utf8.encode index])
    (isFile "index.html".toList → AnswersAs site disk head request "index.html".toList) ∧
    (¬ isFile "index.html".toList → isFile "index.htm".toList →
      AnswersAs site disk head request "index.htm".toList) ∧
    (¬ isFile "index.html".toList → ¬ isFile "index.htm".toList → request.method.isSupported →
      ∀ now, let response := (respond site disk now head).response
      disk.canonical directory = .ok ⟨real, .directory access⟩ ∧
          (access.read = true ∧ response.Shows request.method .ok "text/html; charset=utf-8".toList
              (Listing.ofDirectory disk real directory (Site.decodePath request.path)).page ∨
            access.read = false ∧ response.Shows request.method .notFound
              "text/html;charset=utf-8".toList
              (Draft.errorPage .notFound "No permission to list directory".toList)) ∨
        disk.canonical directory = .error .nameTooLong ∧ disk.IsDeep ∧
          response.status = .notFound) := by
  intro directory isFile
  refine ⟨fun hhtml => ?_, fun hhtml hhtm => ?_, fun hhtml hhtm hmethod now => ?_⟩
  · exact answersAs_of_isFile hparse hslash hplace hwithin (by decide) (List.nil_append _).symm
      (by simp) hhtml
  · exact answersAs_of_isFile hparse hslash hplace hwithin (by decide)
      (List.singleton_append).symm (List.forall_mem_singleton.2 hhtml) hhtm
  · exact respond_of_no_index hparse hslash hplace hwithin hmethod
      (List.forall_mem_cons.2 ⟨hhtml, List.forall_mem_singleton.2 hhtm⟩)

/-- An index file that is a link out of the site, one below a directory of the preferred name, and
a directory without index that must not be read. -/
theorem index_respond_of_links :
    let bytes := fun s : String => Utf8.encode s.toList
    let site : Site := ⟨[bytes "srv"]⟩
    let disk : Disk := ⟨[⟨[], bytes "srv", .object (.directory .all)⟩,
      ⟨[], bytes "key", .object (.file ⟨.all, ⟨0, 0⟩, bytes "secret"⟩)⟩,
      ⟨[bytes "srv"], bytes "index.html", .link (bytes "/key")⟩,
      ⟨[bytes "srv"], bytes "a", .object (.directory .all)⟩,
      ⟨[bytes "srv", bytes "a"], bytes "index.html", .object (.directory .all)⟩,
      ⟨[bytes "srv", bytes "a"], bytes "index.htm", .object (.file ⟨.all, ⟨0, 0⟩, bytes "a"⟩)⟩,
      ⟨[bytes "srv"], bytes "b", .object (.directory ⟨false, false, true⟩)⟩]⟩
    let response := fun s : String => (respond site disk 0 (bytes s)).response
    response "GET /./index.html?q HTTP/1.0\r\n\r\n" = response "GET /./?q#x HTTP/1.1\r\n\r\n" ∧
      (response "GET /./?q#x HTTP/1.1\r\n\r\n").status = .forbidden ∧
      response "HEAD /a/index.htm HTTP/1.0\n\n" = response "HEAD /a/ HTTP/1.0\n\n" ∧
      (response "GET /b/ HTTP/1.0\n\n").Shows .get .notFound "text/html;charset=utf-8".toList
        (Draft.errorPage .notFound "No permission to list directory".toList) := by
  intro bytes site disk response
  have hlink : parseHead (bytes "GET /./?q#x HTTP/1.1\r\n\r\n") =
      .ok ⟨.get, "/./?q#x".toList, .http11, []⟩ := by
    rw [parseHead_encode]
    decide +kernel
  have hlinked : parseHead (bytes "GET /./index.html?q HTTP/1.0\r\n\r\n") =
      .ok ⟨.get, "/./index.html?q".toList, .http10, []⟩ := by
    rw [parseHead_encode]
    decide +kernel
  have hsecond : parseHead (bytes "HEAD /a/ HTTP/1.0\n\n") =
      .ok ⟨.head, "/a/".toList, .http10, []⟩ := by
    rw [parseHead_encode]
    decide +kernel
  have hseconded : parseHead (bytes "HEAD /a/index.htm HTTP/1.0\n\n") =
      .ok ⟨.head, "/a/index.htm".toList, .http10, []⟩ := by
    rw [parseHead_encode]
    decide +kernel
  have hunread : parseHead (bytes "GET /b/ HTTP/1.0\n\n") =
      .ok ⟨.get, "/b/".toList, .http10, []⟩ := by
    rw [parseHead_encode]
    decide +kernel
  have hroot : disk.resolve (site.locate "/./".toList) = .ok ⟨[bytes "srv"], .directory .all⟩ := by
    decide +kernel
  have ha : disk.resolve (site.locate "/a/".toList) =
      .ok ⟨[bytes "srv", bytes "a"], .directory .all⟩ := by decide +kernel
  have hb : disk.resolve (site.locate "/b/".toList) =
      .ok ⟨[bytes "srv", bytes "b"], .directory ⟨false, false, true⟩⟩ := by decide +kernel
  obtain ⟨hhtml, -, -⟩ := index_respond site disk hlink (by decide) hroot (by decide)
  obtain ⟨-, hhtm, -⟩ := index_respond site disk hsecond (by decide) ha (by decide)
  obtain ⟨-, -, hnone⟩ := index_respond site disk hunread (by decide) hb (by decide)
  refine ⟨?_, by decide +kernel, ?_, ?_⟩
  · exact (hhtml (by decide +kernel)).same 0 _ _ hlinked rfl rfl (by decide)
  · exact (hhtm (by decide +kernel) (by decide +kernel)).same 0 _ _ hseconded rfl rfl (by decide)
  · obtain ⟨-, ⟨hread, -⟩ | ⟨-, hshows⟩⟩ | ⟨-, hdeep, -⟩ :=
      hnone (by decide +kernel) (by decide +kernel) rfl 0
    · cases hread
    · exact hshows
    · exact absurd hdeep (by decide +kernel)

/-- A directory at a path of 4096 bytes is found through a link and may be read, but it is not
listed. Nor is any directory to a client that asks with another method. -/
theorem index_respond_of_deep :
    let site : Site := ⟨[]⟩
    let disk : Disk := ⟨Disk.deep.entries.dropLast ++
      [⟨Disk.deepDirectory, Disk.longName, .object (.directory .all)⟩]⟩
    let target := "/l/".toList ++ List.replicate 255 'a' ++ ['/']
    let head := Utf8.encode ("GET ".toList ++ target ++ " HTTP/1.0\r\n\r\n".toList)
    let request : Request := ⟨.get, target, .http10, []⟩
    let real := Disk.deepDirectory ++ [Disk.longName]
    parseHead head = .ok request ∧ request.path.getLast? = some '/' ∧
      disk.resolve (site.locate request.path) = .ok ⟨real, .directory .all⟩ ∧
      site.root <+: real ∧ Access.all.read = true ∧
      (∀ name ∈ Site.indexNames, ¬ disk.IsFile (site.locate request.path ++ [name])) ∧
      (respond site disk 0 head).response.status = .notFound ∧
      (respond site .empty 0 (Utf8.encode "POST / HTTP/1.0\r\n\r\n".toList)).response.status =
        .notImplemented := by
  intro site disk target head request real
  have hparse : parseHead head = .ok request := by
    rw [parseHead_encode]
    decide +kernel
  exact ⟨hparse, by decide +kernel, by decide +kernel, List.nil_prefix, rfl, by decide +kernel,
    by decide +kernel, by decide +kernel⟩

end Reply

end FileServer
