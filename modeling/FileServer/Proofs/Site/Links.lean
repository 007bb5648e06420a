import FileServer.Http.MediaTable
import FileServer.Proofs.Site.Files
import FileServer.Proofs.Site.Redirects

/-!
# Links of a listing

A client puts the link of an entry behind the path of the listing and asks for that. The path ends
with a slash, which keeps what is behind it from being read together with what is before, and the
link is read as the name that it was made of. So the request leads to the entry. Whether the link
ends with a slash was decided by what is there, and so is what a slash at the end of a request says.

* `listing_of_answer`: which requests are answered by a listing, and by which;
* `locate_append_link`: a link leads from the directory to the entry;
* `getLast?_append_link`: it ends with a slash if the entry is a directory;
* `leadsBack_respond`: all links of a listing lead back to their entries.
-/

namespace FileServer

/-- Whether a path is found to lead to a directory. -/
def Disk.IsDirectory (disk : Disk) (path : Path) : Prop :=
  ∃ real access, disk.resolve path = .ok ⟨real, .directory access⟩

instance (disk : Disk) (path : Path) : Decidable (disk.IsDirectory path) :=
  match h : disk.resolve path with
  | .ok ⟨real, .directory access⟩ => isTrue ⟨real, access, h⟩
  | .ok ⟨_, .file _⟩ => isFalse (by simp [Disk.IsDirectory, h])
  | .error _ => isFalse (by simp [Disk.IsDirectory, h])

/-! ## Rows -/

namespace Row

/-- The row of an entry of a directory that is asked for under a path. -/
def ofEntry (disk : Disk) (path : Path) (entry : Entry) : Row where
  name := Utf8.decodeLossy entry.name
  isDirectory :=
    match disk.resolve (path ++ [entry.name]) with
    | .ok place => place.object.isDirectory
    | .error _ => false
  isLink := entry.node.isLink

theorem isDirectory_ofEntry {disk : Disk} {path : Path} {entry : Entry} :
    (ofEntry disk path entry).isDirectory ↔ disk.IsDirectory (path ++ [entry.name]) := by
  simp only [ofEntry, Disk.IsDirectory]
  cases disk.resolve (path ++ [entry.name]) with
  | error fault => simp
  | ok place =>
    obtain ⟨real, object⟩ := place
    cases object with
    | file file => simp [Object.isDirectory]
    | directory access => simp [Object.isDirectory]

/-- The row of an entry is named like the entry, if its name is a text. -/
theorem name_ofEntry {entry : Entry} {name : Text} (h : Utf8.decode? entry.name = some name)
    (disk : Disk) (path : Path) : (ofEntry disk path entry).name = name :=
  Utf8.decodeLossy_of_decode? h

/-- A link is the encoded name, with a slash behind it for a directory. -/
theorem link_cases (row : Row) :
    row.isDirectory = true ∧ row.link = Percent.encode row.name ++ ['/'] ∨
      ¬ row.isDirectory = true ∧ row.link = Percent.encode row.name := by
  rw [link]
  by_cases h : row.isDirectory = true
  · exact .inl ⟨h, by rw [if_pos h]⟩
  · exact .inr ⟨h, by rw [if_neg h, List.append_nil]⟩

/-- No character of a link has a meaning in a target or on a page, but for the slash. -/
theorem not_mem_link (row : Row) {c : Char}
    (hc : c ∈ ['?', '#', ' ', '\r', '\n', '<', '>', '"', '\'', '&']) : c ∉ row.link := by
  have hname : c ∉ Percent.encode row.name :=
    (Percent.isEscaped_encode row.name).not_mem (List.mem_cons_of_mem _ hc)
  have hslash : c ≠ '/' := by
    rintro rfl
    revert hc
    decide
  obtain ⟨-, hlink⟩ | ⟨-, hlink⟩ := row.link_cases <;> rw [hlink]
  · simp [hname, hslash]
  · exact hname

end Row

namespace Listing

theorem rows_ofDirectory (disk : Disk) (real path : Path) (title : Text) :
    (ofDirectory disk real path title).rows = (disk.children real).map (Row.ofEntry disk path) :=
  rfl

/-- Every row has its item on the page. -/
theorem item_infix_page {listing : Listing} {row : Row} (h : row ∈ listing.rows) :
    row.item <:+: listing.page := by
  have hmem : row ∈ listing.sorted := listing.sorted_perm.mem_iff.2 h
  have hitem : row.item <:+: listing.sorted.flatMap Row.item := by
    rw [List.flatMap_def]
    exact List.infix_of_mem_flatten (List.mem_map_of_mem hmem)
  have hend : ∀ {items text : Text} (more : Text), items <:+: text → items <:+: text ++ more :=
    fun more h => h.trans (List.prefix_append _ more).isInfix
  unfold page
  exact hend _ (hend _ (hend _ (hend _ (hitem.trans (List.suffix_append _ _).isInfix))))

end Listing

namespace Site

variable {site : Site} {disk : Disk} {request next : Request} {row : Row}

/-! ## Requests for links -/

theorem segments_link (hname : IsName row.name) : segments row.link = [row.name] := by
  obtain ⟨-, hlink⟩ | ⟨-, hlink⟩ := row.link_cases <;> rw [hlink]
  · rw [segments_append_singleton_slash, segments_encode hname]
  · exact segments_encode hname

/-- A link behind a path that ends with a slash leads to one name more. -/
theorem locate_append_link (site : Site) (hname : IsName row.name) {path : Text}
    (hslash : path.getLast? = some '/') :
    site.locate (path ++ row.link) = site.locate path ++ [Utf8.encode row.name] := by
  rw [locate_append hslash, segments_link hname]
  rfl

/-- A link ends with a slash if it leads to a directory. -/
theorem getLast?_append_link (hname : IsName row.name) (path : Text) :
    (path ++ row.link).getLast? = some '/' ↔ row.isDirectory := by
  obtain ⟨hdirectory, hlink⟩ | ⟨hdirectory, hlink⟩ := row.link_cases <;> rw [hlink]
  · rw [← List.append_assoc, List.getLast?_concat]
    exact iff_of_true rfl hdirectory
  · -- behind an empty link the slash of the path would be the last character
    have hne : Percent.encode row.name ≠ [] := by
      intro h
      have := segments_encode hname
      rw [h, segments_nil] at this
      cases this
    refine iff_of_false ?_ hdirectory
    rw [List.getLast?_append_of_ne_nil _ hne]
    intro h
    exact (Percent.isEscaped_encode row.name).not_mem (by decide) (List.mem_of_getLast? h)

/-- A path whose final slash says what is there is neither redirected nor refused for the slash. -/
theorem answer_of_getLast?_iff {path : Path} (hlocate : site.locate next.path = path)
    (hlast : next.path.getLast? = some '/' ↔ disk.IsDirectory path) :
    site.answer disk next ≠ .slashAfterFile ∧
      ∀ location, site.answer disk next ≠ .redirect location := by
  subst hlocate
  refine ⟨fun hanswer => ?_, fun location hanswer => ?_⟩
  · obtain ⟨⟨_, _, hfile⟩, hslash⟩ : site.Warrants disk next .slashAfterFile :=
      hanswer ▸ site.warrants_answer disk next
    obtain ⟨_, _, hdirectory⟩ := hlast.1 hslash
    cases hfile.symm.trans hdirectory
  · obtain ⟨hdirectory, hnoSlash, -⟩ := warrants_of_redirect hanswer
    exact hnoSlash (hlast.2 hdirectory)

/-- A path with a link behind it can be asked for, and is the whole path. -/
theorem isToken_append_link (htarget : Request.IsToken request.target)
    (hslash : request.path.getLast? = some '/') (row : Row) :
    Request.IsToken (request.path ++ row.link) := by
  obtain ⟨-, hspace, hline⟩ := htarget
  refine ⟨?_, fun hmem => ?_, Text.isOneLine_append.2 ⟨?_, Text.isOneLine_iff.2 ⟨?_, ?_⟩⟩⟩
  · obtain ⟨before, hpath⟩ := List.getLast?_eq_some_iff.1 hslash
    simp [hpath]
  · obtain hmem | hmem := List.mem_append.1 hmem
    · exact hspace (request.path_subset hmem)
    · exact row.not_mem_link (by decide) hmem
  · exact hline.mono request.path_subset
  · exact row.not_mem_link (by decide)
  · exact row.not_mem_link (by decide)

theorem path_append_link (row : Row) (h : next.target = request.path ++ row.link) :
    next.path = request.path ++ row.link := by
  have hpath : Request.IsPath (request.path ++ row.link) := by
    refine Request.isPath_append.2 ⟨request.isPath_path, fun c hc => ⟨?_, ?_⟩⟩
    · rintro rfl
      exact row.not_mem_link (by decide) hc
    · rintro rfl
      exact row.not_mem_link (by decide) hc
  exact Request.path_eq_of_target (h.trans (List.append_nil _).symm) hpath (by decide)

end Site

namespace Reply

variable {site : Site} {disk : Disk} {head : Bytes} {request : Request}

/-- What a link has to do with an entry of the directory that the path of a request leads to. -/
structure LeadsBack (site : Site) (disk : Disk) (request : Request) (entry : Entry)
    (link : Text) : Prop where
  /-- It consists of unreserved characters and escapes, and of a slash at the end if the entry is
  found to be a directory. -/
  escaped : ∃ text, Percent.IsEscaped text ∧
    (disk.IsDirectory (site.locate request.path ++ [entry.name]) ∧ link = text ++ ['/'] ∨
      ¬ disk.IsDirectory (site.locate request.path ++ [entry.name]) ∧ link = text)
  /-- It leads from the directory to the entry. -/
  locate : site.locate (request.path ++ link) = site.locate request.path ++ [entry.name]
  /-- It can be asked for. -/
  asked : ∃ head next, parseHead head = .ok next ∧ next.target = request.path ++ link ∧
    next.path = request.path ++ link
  /-- A request for it is not redirected, and not refused for its final slash. -/
  settled : ∀ now head next, parseHead head = .ok next → next.path = request.path ++ link →
    (respond site disk now head).response.status ≠ .movedPermanently ∧
      site.answer disk next ≠ .slashAfterFile
  /-- A file of the site that was last changed before the year 10000 is sent, unless its real path
  is too long to be found. -/
  served : ∀ now head next real file, parseHead head = .ok next →
    next.path = request.path ++ link → next.method = .get →
    next.header "If-Modified-Since".toList = none →
    disk.resolve (site.locate request.path ++ [entry.name]) = .ok ⟨real, .file file⟩ →
    file.access.read → file.modified.wholeSeconds < HttpDate.secondsBefore10000 →
    site.root <+: real →
    disk.canonical (site.locate request.path ++ [entry.name]) = .ok ⟨real, .file file⟩ ∧
        (respond site disk now head).response.Sends file (site.mediaType entry.name) ∨
      disk.canonical (site.locate request.path ++ [entry.name]) = .error .nameTooLong ∧
        disk.IsDeep ∧ (respond site disk now head).response.status = .notFound

/-- The link of an entry leads back to it. -/
theorem leadsBack_ofEntry (hparse : parseHead head = .ok request)
    (hslash : request.path.getLast? = some '/') {entry : Entry} {name : Text}
    (hdecode : Utf8.decode? entry.name = some name) (hname : Site.IsName name) :
    LeadsBack site disk request entry
      (Row.ofEntry disk (site.locate request.path) entry).link := by
  -- of the row nothing counts but its name and whether it is that of a directory
  generalize hrow : Row.ofEntry disk (site.locate request.path) entry = row
  have hrowName : row.name = name := hrow ▸ Row.name_ofEntry hdecode disk _
  have hdirectory : row.isDirectory ↔
      disk.IsDirectory (site.locate request.path ++ [entry.name]) := by
    rw [← hrow]
    exact Row.isDirectory_ofEntry
  have hlocate : site.locate (request.path ++ row.link) =
      site.locate request.path ++ [entry.name] := by
    rw [Site.locate_append_link site (hrowName ▸ hname) hslash, hrowName,
      (Utf8.decode?_eq_some_iff).1 hdecode]
  have hlast := Site.getLast?_append_link (hrowName ▸ hname) request.path
  refine ⟨⟨_, Percent.isEscaped_encode row.name, ?_⟩, hlocate, ?_, ?_, ?_⟩
  · rw [← hdirectory]
    exact row.link_cases
  · have htoken := Site.isToken_append_link (isToken_target_of_parseHead hparse) hslash row
    obtain ⟨other, hother⟩ := exists_parseHead_withTarget hparse htoken
    exact ⟨other, _, hother, rfl, Site.path_append_link row rfl⟩
  · intro now other next hother hnext
    obtain ⟨hslashed, hmoved⟩ := Site.answer_of_getLast?_iff (hnext ▸ hlocate)
      (hnext ▸ hlast.trans hdirectory)
    exact ⟨fun hstatus => hmoved _ (redirect_of_status hother hstatus), hslashed⟩
  · intro now other next real file hother hnext hmethod hsince hplace hread hyear hwithin
    have hnoSlash : next.path.getLast? ≠ some '/' := by
      rw [hnext, Ne, hlast.trans hdirectory]
      rintro ⟨_, _, hfound⟩
      cases hfound.symm.trans hplace
    have := @respond_of_resolve site disk now _ _ hother hmethod hsince hnoSlash _ _ _
      (hnext ▸ hlocate) hplace hread hyear hwithin
    rwa [List.getLastD_concat] at this

/-- The links of a listing lead back to its entries. The page has an item for every entry of the
directory that was asked for. If the name of the entry is a text, the link of the item consists of
unreserved characters and escapes and leads from this directory to the entry, whatever escapes and
segments the path of the request is made of. A slash ends the link if the entry is found to be a
directory. A request for the link is then neither redirected nor refused for its slash, and a file
of the site that it leads to is sent if it was last changed before the year 10000, unless its real
path is too long to be found. -/
theorem leadsBack_respond (site : Site) (disk : Disk) (now : Nat) {head : Bytes}
    {request : Request} {listing : Listing} (hparse : parseHead head = .ok request)
    (hmethod : request.method.isSupported) (hanswer : site.answer disk request = .listing listing) :
    (respond site disk now head).response.status = .ok ∧
      (respond site disk now head).response.body =
        (if request.method = .head then none else some (Utf8.encode listing.page)) ∧
      ∃ real access, disk.resolve (site.locate request.path) = .ok ⟨real, .directory access⟩ ∧
        listing.rows = (disk.children real).map (Row.ofEntry disk (site.locate request.path)) ∧
        ∀ entry ∈ disk.children real, ∀ name, Utf8.decode? entry.name = some name →
          Site.IsName name →
          (Row.ofEntry disk (site.locate request.path) entry).item <:+: listing.page ∧
            LeadsBack site disk request entry
              (Row.ofEntry disk (site.locate request.path) entry).link := by
  have hdraft : draft site disk head = (Outcome.listing listing).draft := by
    rw [draft_of_parseHead hparse hmethod, hanswer]
  obtain ⟨real, access, hplace, hslash, rfl⟩ : site.Warrants disk request (.listing listing) :=
    hanswer ▸ site.warrants_answer disk request
  refine ⟨?_, ?_, real, access, hplace, Listing.rows_ofDirectory _ _ _ _, ?_⟩
  · rw [status_respond, hdraft, Outcome.status_draft]
    rfl
  · rw [body_respond, hdraft, asksHeadOnly, hparse]
    simp only [decide_eq_true_eq]
    rfl
  · intro entry hentry name hdecode hname
    refine ⟨Listing.item_infix_page ?_, leadsBack_ofEntry hparse hslash hdecode hname⟩
    rw [Listing.rows_ofDirectory]
    exact List.mem_map_of_mem hentry

/-- A path with an incomplete escape and segments that name nothing, and an entry whose name has
signs that mean something in a target. -/
theorem leadsBack_respond_of_signs :
    let bytes := fun s : String => Utf8.encode s.toList
    let site : Site := ⟨[bytes "srv"]⟩
    let directory := [bytes "srv", bytes "%4"]
    let entry : Entry := ⟨directory, bytes "é#%41", .link (bytes "/srv")⟩
    let disk : Disk := ⟨[⟨[], bytes "srv", .object (.directory .all)⟩,
      ⟨[bytes "srv"], bytes "%4", .object (.directory .all)⟩, entry]⟩
    let request : Request := ⟨.get, "/..//%4/?q".toList, .http10, []⟩
    parseHead (bytes "GET /..//%4/?q HTTP/1.0\r\n\r\n") = .ok request ∧
      (∃ listing, site.answer disk request = .listing listing) ∧
      LeadsBack site disk request entry "%C3%A9%23%2541/".toList := by
  intro bytes site directory entry disk request
  have hparse : parseHead (bytes "GET /..//%4/?q HTTP/1.0\r\n\r\n") = .ok request := by
    rw [parseHead_encode]
    decide +kernel
  have hanswer : site.answer disk request =
      .listing (.ofDirectory disk directory directory "/..//%4/".toList) := by decide +kernel
  have hfound : disk.resolve (site.locate request.path) = .ok ⟨directory, .directory .all⟩ := by
    decide +kernel
  have hlink : (Row.ofEntry disk (site.locate request.path) entry).link =
      "%C3%A9%23%2541/".toList := by decide +kernel
  obtain ⟨-, -, real, access, hplace, -, hlinks⟩ :=
    leadsBack_respond site disk 0 hparse rfl hanswer
  obtain ⟨rfl, -⟩ := Place.mk.inj (Except.ok.inj (hfound.symm.trans hplace))
  obtain ⟨-, hleads⟩ := hlinks entry (by decide +kernel) "é#%41".toList (Utf8.decode?_encode _)
    (by decide)
  exact ⟨hparse, ⟨_, hanswer⟩, hlink ▸ hleads⟩

/-- A directory below one that must not be searched is linked without a slash, and a file is listed
that is not served since its real path is too long. -/
theorem leadsBack_respond_of_unfound :
    let bytes := fun s : String => Utf8.encode s.toList
    let site : Site := ⟨[]⟩
    let unsearched : Disk := ⟨[⟨[], bytes "d", .object (.directory ⟨true, false, false⟩)⟩,
      ⟨[bytes "d"], bytes "s", .object (.directory .all)⟩]⟩
    let name := List.replicate 255 'a'
    let head := Utf8.encode ("GET /l/".toList ++ name ++ " HTTP/1.0\r\n\r\n".toList)
    (site.answer unsearched ⟨.get, "/d/".toList, .http10, []⟩ =
        .listing ⟨"/d/".toList, [⟨"s".toList, false, false⟩]⟩ ∧
      (⟨"s".toList, false, false⟩ : Row).link = "s".toList ∧
      unsearched.node? [bytes "d", bytes "s"] = some (.object (.directory .all))) ∧
    site.answer Disk.deep ⟨.get, "/l/".toList, .http10, []⟩ =
        .listing ⟨"/l/".toList, [⟨name, false, false⟩]⟩ ∧
      (⟨name, false, false⟩ : Row).link = name ∧
      Disk.deep.resolve [bytes "l", Utf8.encode name] =
        .ok ⟨Disk.deepDirectory ++ [Disk.longName], .file ⟨.all, ⟨0, 0⟩, [0x78]⟩⟩ ∧
      parseHead head = .ok ⟨.get, "/l/".toList ++ name, .http10, []⟩ ∧
      (respond site Disk.deep 0 head).response.status = .notFound := by
  intro bytes site unsearched name head
  have hparse : parseHead head = .ok ⟨.get, "/l/".toList ++ name, .http10, []⟩ := by
    rw [parseHead_encode]
    decide +kernel
  refine ⟨⟨?_, ?_, ?_⟩, ?_, ?_, ?_, hparse, ?_⟩
  all_goals decide +kernel

end Reply

end FileServer
