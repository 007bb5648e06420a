import FileServer.Http.MediaTable
import FileServer.Proofs.Connection.Boundary
import FileServer.Proofs.Reply
import FileServer.Proofs.Site.Paths
import FileServer.Proofs.Site.Roots

/-!
# Every file is served

A file below the root is sent to whoever asks for it by its names, however they are spelled, if the
server may read it, its real path lies in the site and its last change has a date. Nothing on the
way from the request to the file stops that but one thing: a link may lead to a path that is too
long for its real path to be found.

* `offers_respond`, `sends_respond`: a file is sent with its length, its type and the time of its
  last change;
* `respond_of_spells`: so is every file in the site, under all spellings of its path.
-/

namespace FileServer

/-- A response that offers a file as one of a media type: it sends the file, or to `HEAD` says what
it would send. -/
structure Response.Offers (response : Response) (method : Method) (file : File)
    (mediaType : Text) : Prop where
  status : response.status = .ok
  body : response.body = if method = .head then none else some file.contents
  length : response.header Draft.contentLength = some (Decimal.render file.contents.length)
  mediaType : response.header "Content-Type".toList = some mediaType
  modified : response.header "Last-Modified".toList =
    some (HttpDate.render file.modified.wholeSeconds)

/-- A response that sends a file as one of a media type, with the date of its last change. -/
structure Response.Sends (response : Response) (file : File) (mediaType : Text) : Prop where
  status : response.status = .ok
  body : response.body = some file.contents
  length : response.header Draft.contentLength = some (Decimal.render file.contents.length)
  mediaType : response.header "Content-Type".toList = some mediaType
  modified : response.header "Last-Modified".toList =
    some (HttpDate.render file.modified.wholeSeconds)
  /-- What is stated as the date is the date of this second. -/
  dated : (response.header "Last-Modified".toList).bind HttpDate.parse? =
    some file.modified.wholeSeconds

namespace Site

variable {site : Site} {disk : Disk} {request : Request}

/-- Without a time of the client, a file counts as changed. -/
theorem isUnchanged_of_header (h : request.header "If-Modified-Since".toList = none)
    (modified : Nat) : isUnchanged request modified = false := by
  rw [isUnchanged, h]

end Site

namespace Reply

variable {site : Site} {disk : Disk} {now : Nat} {head : Bytes} {request : Request}

/-- A file that is the answer to a request is offered. -/
theorem offers_respond (hparse : parseHead head = .ok request)
    (hmethod : request.method.isSupported) {file : File} {mediaType : Text}
    (hanswer : site.answer disk request =
      .file mediaType file.modified.wholeSeconds file.contents) :
    (respond site disk now head).response.Offers request.method file mediaType := by
  have hstatus : (site.answer disk request).status = .ok := by
    rw [hanswer]
    rfl
  have hheaders : (draft site disk head).headers = [⟨"Content-Type".toList, mediaType⟩,
      ⟨"Last-Modified".toList, HttpDate.render file.modified.wholeSeconds⟩] := by
    rw [draft_of_parseHead hparse hmethod, hanswer, Outcome.headers_draft_file]
  obtain ⟨hbody, hlength⟩ := @body_and_length_respond site disk now head request hparse hmethod
    file.contents (by rw [hanswer]; rfl) (by rw [hstatus]; decide)
  exact ⟨(status_respond_of_parseHead hparse hmethod).trans hstatus, hbody, hlength,
    header_respond_of_mem (hheaders ▸ List.mem_cons_self),
    header_respond_of_mem (hheaders ▸ List.mem_cons_of_mem _ (List.mem_singleton_self _))⟩

/-- A file that is the answer to a `GET` request is sent. -/
theorem sends_respond (hparse : parseHead head = .ok request) (hmethod : request.method = .get)
    {file : File} {mediaType : Text} (hanswer : site.answer disk request =
      .file mediaType file.modified.wholeSeconds file.contents)
    (hyear : file.modified.wholeSeconds < HttpDate.secondsBefore10000) :
    (respond site disk now head).response.Sends file mediaType := by
  obtain ⟨hstatus, hbody, hlength, htype, hmodified⟩ :=
    @offers_respond site disk now head request hparse (by rw [hmethod]; rfl) _ _ hanswer
  rw [hmethod] at hbody
  refine ⟨hstatus, hbody, hlength, htype, hmodified, ?_⟩
  rw [hmodified, Option.bind_some]
  exact HttpDate.parse?_render hyear

/-- A file in the site that a path leads to is sent, unless its real path is too long to be
found. -/
theorem respond_of_resolve (hparse : parseHead head = .ok request)
    (hmethod : request.method = .get)
    (hsince : request.header "If-Modified-Since".toList = none)
    (hslash : request.path.getLast? ≠ some '/') {path real : Path} {file : File}
    (hpath : site.locate request.path = path)
    (hplace : disk.resolve path = .ok ⟨real, .file file⟩) (hread : file.access.read)
    (hyear : file.modified.wholeSeconds < HttpDate.secondsBefore10000)
    (hwithin : site.root <+: real) :
    disk.canonical path = .ok ⟨real, .file file⟩ ∧
        (respond site disk now head).response.Sends file (site.mediaType (path.getLastD [])) ∨
      disk.canonical path = .error .nameTooLong ∧ disk.IsDeep ∧
        (respond site disk now head).response.status = .notFound := by
  subst hpath
  have hanswer := Site.answer_of_file hplace hslash
  obtain ⟨hfound, hrefusal⟩ | ⟨hlong, hdeep, hrefusal⟩ := Site.refusal?_cases hplace hwithin
  · refine .inl ⟨hfound, sends_respond hparse hmethod ?_ hyear⟩
    rw [hanswer, hrefusal, Option.getD_none,
      Site.sendFile_of_read (Site.isUnchanged_of_header hsince _) hread]
  · refine .inr ⟨hlong, hdeep, ?_⟩
    rw [status_respond_of_parseHead hparse (by rw [hmethod]; rfl), hanswer, hrefusal,
      Option.getD_some]
    rfl

/-- Every file in the site is sent to a `GET` request whose path spells its names, with any escapes
and any segments among them that name nothing, and whatever else the target and the header fields
say, but for the time of an older copy, as long as its last change was before the year 10000. The
one exception is a file whose real path is too long to be found, which takes an entry at a path of
more than 4094 bytes. -/
theorem respond_of_spells (site : Site) (disk : Disk) (now : Nat) {head : Bytes}
    {request : Request} {names : List Text} {real : Path} {file : File}
    (hparse : parseHead head = .ok request) (hmethod : request.method = .get)
    (hsince : request.header "If-Modified-Since".toList = none)
    (hslash : request.path.getLast? ≠ some '/')
    (hnames : Site.Spells (splitOn '/' (Site.decodePath request.path)) names)
    (hplace : disk.resolve (site.root ++ names.map Utf8.encode) = .ok ⟨real, .file file⟩)
    (hread : file.access.read) (hyear : file.modified.wholeSeconds < HttpDate.secondsBefore10000)
    (hwithin : site.root <+: real) :
    let path := site.root ++ names.map Utf8.encode
    let response := (respond site disk now head).response
    disk.canonical path = .ok ⟨real, .file file⟩ ∧
        response.Sends file (site.mediaType (path.getLastD [])) ∨
      disk.canonical path = .error .nameTooLong ∧ disk.IsDeep ∧ response.status = .notFound := by
  have hpath : site.locate request.path = site.root ++ names.map Utf8.encode :=
    Site.locate_eq_of_segments (Site.segments_of_spells hnames)
  exact respond_of_resolve hparse hmethod hsince hslash hpath hplace hread hyear hwithin

/-- A link, an escape, segments that name nothing, and a file from before 1970. -/
theorem respond_of_spells_of_link :
    let bytes := fun s : String => Utf8.encode s.toList
    let site : Site := ⟨[bytes "srv"]⟩
    let file : File := ⟨.all, ⟨-5, 0⟩, [0, 0xFF, 0x0A]⟩
    let disk : Disk := ⟨[⟨[], bytes "srv", .object (.directory .all)⟩,
      ⟨[bytes "srv"], bytes "a b", .link (bytes "c")⟩,
      ⟨[bytes "srv"], bytes "c", .object (.directory .all)⟩,
      ⟨[bytes "srv", bytes "c"], bytes "f.png", .object (.file file)⟩]⟩
    let head := bytes "GET ..//a%20b/%2E/f.png?q#x HTTP/1.0\r\nIf-None-Match: *\r\n\r\n"
    (respond site disk 0 head).response.Sends file "image/png".toList := by
  intro bytes site file disk head
  have hparse : parseHead head = .ok ⟨.get, "..//a%20b/%2E/f.png?q#x".toList, .http10,
      [⟨"If-None-Match".toList, "*".toList⟩]⟩ := by
    rw [parseHead_encode]
    decide +kernel
  have hfields : splitOn '/' (Site.decodePath "..//a%20b/%2E/f.png".toList) =
      ["..".toList, [], "a b".toList, ".".toList, "f.png".toList] := by decide +kernel
  have hnames : Site.Spells (splitOn '/' (Site.decodePath "..//a%20b/%2E/f.png".toList))
      ["a b".toList, "f.png".toList] := by
    rw [hfields]
    exact .skip (by decide) (.skip (by decide) (.name (by decide) (.skip (by decide)
      (.name (by decide) .nil))))
  have hplace : disk.resolve [bytes "srv", bytes "a b", bytes "f.png"] =
      .ok ⟨[bytes "srv", bytes "c", bytes "f.png"], .file file⟩ := by decide +kernel
  obtain ⟨-, hsends⟩ | ⟨-, hdeep, -⟩ := respond_of_spells site disk 0 hparse rfl (by decide)
    (by decide) hnames hplace rfl (by decide) (by decide)
  · exact hsends
  · exact absurd hdeep (by decide +kernel)

/-- A file at a path of 4096 bytes is found through a link, but not served. -/
theorem respond_of_spells_of_deep :
    let site : Site := ⟨[]⟩
    let target := "/l/".toList ++ List.replicate 255 'a'
    let names := ["l".toList, List.replicate 255 'a']
    let head := Utf8.encode ("GET ".toList ++ target ++ " HTTP/1.0\r\n\r\n".toList)
    let request : Request := ⟨.get, target, .http10, []⟩
    let real := Disk.deepDirectory ++ [Disk.longName]
    let file : File := ⟨.all, ⟨0, 0⟩, [0x78]⟩
    parseHead head = .ok request ∧ request.header "If-Modified-Since".toList = none ∧
      request.path.getLast? ≠ some '/' ∧
      Site.Spells (splitOn '/' (Site.decodePath request.path)) names ∧
      Disk.deep.resolve (site.root ++ names.map Utf8.encode) = .ok ⟨real, .file file⟩ ∧
      file.access.read ∧ site.root <+: real ∧
      (respond site Disk.deep 0 head).response.status = .notFound := by
  intro site target names head request real file
  have hparse : parseHead head = .ok request := by
    rw [parseHead_encode]
    decide +kernel
  have hfields : splitOn '/' (Site.decodePath request.path) = [[], "l".toList, names[1]] := by
    decide +kernel
  have hnames : Site.Spells (splitOn '/' (Site.decodePath request.path)) names := by
    rw [hfields]
    exact .skip (by decide) (.name (by decide) (.name (by decide +kernel) .nil))
  exact ⟨hparse, rfl, by decide +kernel, hnames, by decide +kernel, rfl, List.nil_prefix,
    by decide +kernel⟩

end Reply

end FileServer
