import FileServer.Http.MediaTable
import FileServer.Proofs.Disk.Ways
import FileServer.Proofs.Site.Indexes
import FileServer.Proofs.Text.Tags

/-!
# Items of a listing

The page of a directory has one list item for every entry and no other, whatever the entries are
called. An item shows the name of its entry and a sign for what the entry is. Items are sorted by
the lower case of the names. Those that do not differ in it stand in the order in which the
directory is enumerated, which has no influence on the page otherwise.

* `itemTexts_page`: what the items show, read off the tags of the page;
* `lists_ofDirectory`: these are the entries of a directory, sorted;
* `page_of_reorders`, `answer_of_reorders`: when the order of enumeration has no influence;
* `lists_respond`: what a client gets to see of a directory.
-/

namespace FileServer

open Html (Tag)

/-! ## Tags -/

namespace Row

/-- The tags of the item. -/
def tags (row : Row) : List Tag :=
  [⟨"li".toList, []⟩, ⟨"a href=\"".toList ++ row.link ++ "\"".toList, Html.escape row.label⟩,
    ⟨"/a".toList, []⟩, ⟨"/li".toList, ['\n']⟩]

theorem item_eq_render (row : Row) : row.item = row.tags.flatMap Tag.render := by
  have hopening : "<li><a href=\"".toList =
      Tag.render ⟨"li".toList, []⟩ ++ '<' :: "a href=\"".toList := by decide
  have hquote : "\">".toList = "\"".toList ++ ['>'] := by decide
  have hclosing : "</a></li>\n".toList =
      Tag.render ⟨"/a".toList, []⟩ ++ Tag.render ⟨"/li".toList, ['\n']⟩ := by decide
  unfold item tags
  simp only [hopening, hquote, hclosing, Tag.render, List.flatMap_cons, List.flatMap_nil,
    List.append_assoc, List.cons_append, List.nil_append, List.append_nil]

theorem isPlain_of_mem_tags {row : Row} : ∀ tag ∈ row.tags, tag.IsPlain := by
  have hlink : '<' ∉ "a href=\"".toList ++ row.link ++ "\"".toList ∧
      '>' ∉ "a href=\"".toList ++ row.link ++ "\"".toList := by
    simp [row.not_mem_link]
  unfold tags
  simp only [List.forall_mem_cons, List.not_mem_nil, false_implies, implies_true, and_true]
  exact ⟨⟨by decide, by decide⟩, ⟨hlink, Html.not_mem_escape (by decide) _⟩, ⟨by decide, by decide⟩,
    by decide, by decide⟩

/-- The item of a row is an element that shows the label of the row. -/
theorem exists_elements_append (row : Row) (ts : List Tag) :
    ∃ element, Html.elements "li".toList (row.tags ++ ts) =
        element :: Html.elements "li".toList ts ∧ Html.shownText element = row.label := by
  have hanchor : ("a href=\"".toList ++ row.link ++ "\"".toList).head? = some 'a' := rfl
  have hcontent : ∀ tag ∈ [⟨"a href=\"".toList ++ row.link ++ "\"".toList, Html.escape row.label⟩,
      (⟨"/a".toList, []⟩ : Tag)], tag.inner ≠ "li".toList ∧ tag.inner ≠ '/' :: "li".toList := by
    simp only [List.forall_mem_cons, List.not_mem_nil, false_implies, implies_true, and_true]
    refine ⟨⟨fun h => ?_, fun h => ?_⟩, by decide, by decide⟩ <;>
      exact absurd (hanchor.symm.trans (congrArg List.head? h)) (by decide)
  refine ⟨_, @Html.elements_cons_append "li".toList ⟨"li".toList, []⟩ ⟨"/li".toList, ['\n']⟩ _
    rfl rfl hcontent ts, ?_⟩
  exact (congrArg Html.unescape (List.append_nil _)).trans (Html.unescape_escape row.label)

end Row

namespace Listing

/-- The tags of the page up to the items. -/
def tagsBefore (listing : Listing) : List Tag :=
  [⟨"!DOCTYPE HTML".toList, ['\n']⟩, ⟨"html lang=\"en\"".toList, ['\n']⟩, ⟨"head".toList, ['\n']⟩,
    ⟨"meta charset=\"utf-8\"".toList, ['\n']⟩, ⟨"title".toList, listing.title⟩,
    ⟨"/title".toList, ['\n']⟩, ⟨"/head".toList, ['\n']⟩, ⟨"body".toList, ['\n']⟩,
    ⟨"h1".toList, listing.title⟩, ⟨"/h1".toList, ['\n']⟩, ⟨"hr".toList, ['\n']⟩,
    ⟨"ul".toList, ['\n']⟩]

/-- The tags of the page after the items. -/
def tagsAfter : List Tag :=
  [⟨"/ul".toList, ['\n']⟩, ⟨"hr".toList, ['\n']⟩, ⟨"/body".toList, ['\n']⟩,
    ⟨"/html".toList, ['\n']⟩]

/-- The tags of the page. -/
def tags (listing : Listing) : List Tag :=
  listing.tagsBefore ++ (listing.sorted.flatMap Row.tags ++ tagsAfter)

theorem page_eq_render (listing : Listing) : listing.page = listing.tags.flatMap Tag.render := by
  have hitems : listing.sorted.flatMap Row.item =
      (listing.sorted.flatMap Row.tags).flatMap Tag.render := by
    rw [List.flatMap_assoc]
    exact congrArg listing.sorted.flatMap (funext Row.item_eq_render)
  have hlines : ["<!DOCTYPE HTML>\n", "<html lang=\"en\">\n", "<head>\n",
      "<meta charset=\"utf-8\">\n", "</title>\n", "</head>\n", "<body>\n", "</h1>\n", "<hr>\n",
      "<ul>\n", "</ul>\n", "</body>\n", "</html>\n"].map String.toList =
    ["!DOCTYPE HTML", "html lang=\"en\"", "head", "meta charset=\"utf-8\"", "/title", "/head",
      "body", "/h1", "hr", "ul", "/ul", "/body", "/html"].map
        fun inner => Tag.render ⟨inner.toList, ['\n']⟩ := by decide
  have htitles : ["<title>", "<h1>"].map String.toList =
    ["title", "h1"].map fun inner => Tag.render ⟨inner.toList, []⟩ := by decide
  simp only [List.map_cons, List.map_nil, List.cons.injEq, and_true] at hlines htitles
  unfold page tags tagsBefore tagsAfter
  simp only [hitems, hlines, htitles, Tag.render, List.flatMap_append, List.flatMap_cons,
    List.flatMap_nil, List.append_assoc, List.cons_append, List.nil_append, List.append_nil]

/-- The tags before and after the items are plain, and none of them opens an item. -/
theorem tags_around (listing : Listing) :
    ∀ tag ∈ listing.tagsBefore ++ tagsAfter, tag.IsPlain ∧ tag.inner ≠ "li".toList := by
  have htitle : '<' ∉ listing.title := by
    unfold title
    rw [List.mem_append, not_or]
    exact ⟨by decide, Html.not_mem_escape (by decide) _⟩
  have htitled : ∀ inner : Text, '<' ∉ inner → '>' ∉ inner →
      (⟨inner, listing.title⟩ : Tag).IsPlain := fun inner hl hg => ⟨⟨hl, hg⟩, htitle⟩
  unfold tagsBefore tagsAfter
  simp only [List.cons_append, List.nil_append, List.forall_mem_cons, List.not_mem_nil,
    false_implies, implies_true, and_true]
  -- nothing but the text of the titles is not fixed
  and_intros
  all_goals first
    | exact ⟨by decide, by decide⟩
    | exact htitled _ (by decide) (by decide)
    | decide

theorem tags_page (listing : Listing) : Html.tags listing.page = listing.tags := by
  rw [page_eq_render, Html.tags_flatMap_render]
  intro tag htag
  rw [tags, List.mem_append, List.mem_append, List.mem_flatMap] at htag
  obtain hbefore | ⟨row, -, hrow⟩ | hafter := htag
  · exact (listing.tags_around tag (List.mem_append_left _ hbefore)).1
  · exact Row.isPlain_of_mem_tags tag hrow
  · exact (listing.tags_around tag (List.mem_append_right _ hafter)).1

theorem map_shownText_elements (rows : List Row) {after : List Tag}
    (hafter : ∀ tag ∈ after, tag.inner ≠ "li".toList) :
    (Html.elements "li".toList (rows.flatMap Row.tags ++ after)).map Html.shownText =
      rows.map Row.label := by
  induction rows with
  | nil => exact congrArg (·.map Html.shownText) (Html.elements_eq_nil hafter)
  | cons row rows ih =>
    obtain ⟨element, helements, hshown⟩ :=
      row.exists_elements_append (rows.flatMap Row.tags ++ after)
    rw [List.flatMap_cons, List.append_assoc, helements, List.map_cons, hshown, ih, List.map_cons]

/-- The items of the page show the labels of the rows, in the order of the page. -/
theorem itemTexts_page (listing : Listing) :
    Html.itemTexts listing.page = listing.sorted.map Row.label := by
  rw [Html.itemTexts, tags_page, tags, Html.elements_append fun tag htag =>
    (listing.tags_around tag (List.mem_append_left _ htag)).2]
  exact map_shownText_elements _ fun tag htag =>
    (listing.tags_around tag (List.mem_append_right _ htag)).2

/-- A page depends on nothing but the path and the rows in their order. -/
theorem page_congr {a b : Listing} (hpath : a.path = b.path) (hsorted : a.sorted = b.sorted) :
    a.page = b.page := by
  unfold page title
  rw [hpath, hsorted]

end Listing

/-! ## Entries -/

namespace Entry

/-- What entries are sorted by: the lower case of the name, as far as the name is text. -/
def sortKey (entry : Entry) : Text := LetterCase.lowercase (Utf8.decodeLossy entry.name)

/-- Whether an entry may stand before another. -/
def le (a b : Entry) : Bool := Text.le a.sortKey b.sortKey

theorem le_trans (a b c : Entry) : le a b → le b c → le a c := Text.le_trans _ _ _

theorem le_total (a b : Entry) : le a b || le b a := Text.le_total _ _

theorem le_of_sortKey {a b : Entry} (h : a.sortKey = b.sortKey) : le a b := by
  have htotal := le_total b b
  rw [Bool.or_self] at htotal
  rwa [le, h]

end Entry

namespace Disk

variable {disk other : Disk} {path real : Path}

/-- The sign behind the name of an entry of a directory that is asked for under a path: `@` for a
symbolic link, and a slash for a directory that is found. -/
def mark (disk : Disk) (path : Path) (entry : Entry) : Text :=
  if entry.node.isLink then ['@']
  else if disk.IsDirectory (path ++ [entry.name]) then ['/']
  else []

/-- The entries of a directory in the order of its page. -/
def sortedChildren (disk : Disk) (real : Path) : List Entry :=
  (disk.children real).mergeSort Entry.le

/-- A page with an item for every entry of a real directory, in an order of the entries. -/
structure Lists (disk : Disk) (path real : Path) (page : Text) (order : List Entry) : Prop where
  /-- No entry is lost or invented. -/
  entries : order.Perm (disk.children real)
  /-- Every item shows the name of its entry and a sign. -/
  items : Html.itemTexts page =
    order.map fun entry => Utf8.decodeLossy entry.name ++ disk.mark path entry
  sorted : order.Pairwise fun a b => Text.le a.sortKey b.sortKey
  /-- Entries whose names do not differ but in case are in the order of enumeration. -/
  stable : ∀ key, order.filter (·.sortKey = key) =
    (disk.children real).filter (·.sortKey = key)

theorem label_ofEntry (disk : Disk) (path : Path) (entry : Entry) :
    (Row.ofEntry disk path entry).label =
      Utf8.decodeLossy entry.name ++ disk.mark path entry := by
  have hdirectory : (Row.ofEntry disk path entry).isDirectory =
      decide (disk.IsDirectory (path ++ [entry.name])) := by
    rw [Bool.eq_iff_iff, Row.isDirectory_ofEntry, decide_eq_true_iff]
  rw [Row.label, mark, hdirectory]
  simp only [decide_eq_true_eq]
  rfl

/-- The rows of a page are those of the entries in their order. -/
theorem sorted_ofDirectory (disk : Disk) (real path : Path) (title : Text) :
    (Listing.ofDirectory disk real path title).sorted =
      (disk.sortedChildren real).map (Row.ofEntry disk path) := by
  have hle : ∀ a ∈ disk.children real, ∀ b ∈ disk.children real,
      Entry.le a b = Row.le (Row.ofEntry disk path a) (Row.ofEntry disk path b) :=
    fun _ _ _ _ => rfl
  rw [Listing.sorted, Listing.rows_ofDirectory, sortedChildren, List.map_mergeSort hle]

theorem sortedChildren_perm (disk : Disk) (real : Path) :
    (disk.sortedChildren real).Perm (disk.children real) :=
  List.mergeSort_perm _ _

theorem pairwise_sortedChildren (disk : Disk) (real : Path) :
    (disk.sortedChildren real).Pairwise fun a b => Entry.le a b :=
  List.pairwise_mergeSort Entry.le_trans Entry.le_total _

/-- Sorting leaves the entries of one key in their order. -/
theorem filter_sortedChildren (disk : Disk) (real : Path) (key : Text) :
    (disk.sortedChildren real).filter (·.sortKey = key) =
      (disk.children real).filter (·.sortKey = key) := by
  -- entries of one key are sorted as they are, so sorting all keeps them as a sublist
  have hsorted : ((disk.children real).filter (·.sortKey = key)).Pairwise
      fun a b => Entry.le a b := by
    refine List.pairwise_of_forall_mem_list fun a ha b hb => Entry.le_of_sortKey ?_
    rw [of_decide_eq_true (List.mem_filter.1 ha).2, of_decide_eq_true (List.mem_filter.1 hb).2]
  have hsublist : ((disk.children real).filter (·.sortKey = key)).Sublist
      ((disk.sortedChildren real).filter (·.sortKey = key)) := by
    have hkept := (List.sublist_mergeSort Entry.le_trans Entry.le_total hsorted
      List.filter_sublist).filter fun entry : Entry => decide (entry.sortKey = key)
    simp only [List.filter_filter, Bool.and_self] at hkept
    exact hkept
  refine (hsublist.eq_of_length ?_).symm
  exact ((disk.sortedChildren_perm real).filter _).length_eq.symm

theorem lists_ofDirectory (disk : Disk) (real path : Path) (title : Text) :
    disk.Lists path real (Listing.ofDirectory disk real path title).page
      (disk.sortedChildren real) where
  entries := disk.sortedChildren_perm real
  items := by
    rw [Listing.itemTexts_page, sorted_ofDirectory, List.map_map]
    exact List.map_congr_left fun entry _ => disk.label_ofEntry path entry
  sorted := disk.pairwise_sortedChildren real
  stable := disk.filter_sortedChildren real

/-- Entries that are told apart by their keys are sorted in one way, however they are
enumerated. -/
theorem sortedChildren_of_reorders (h : disk.Reorders other)
    (hkeys : ((disk.children real).map Entry.sortKey).Nodup) :
    other.sortedChildren real = disk.sortedChildren real := by
  have hperm := (other.sortedChildren_perm real).trans ((h.children real).trans
    (disk.sortedChildren_perm real).symm)
  refine List.Perm.eq_of_pairwise (fun a b ha hb hab hba => ?_)
    (other.pairwise_sortedChildren real) (disk.pairwise_sortedChildren real) hperm
  have hmem : ∀ entry ∈ disk.sortedChildren real, entry ∈ disk.children real :=
    fun entry hentry => (disk.sortedChildren_perm real).mem_iff.1 hentry
  exact List.inj_on_of_nodup_map hkeys (hmem a (hperm.mem_iff.1 ha)) (hmem b hb)
    (Text.le_antisymm hab hba)

theorem page_of_reorders (h : disk.Reorders other)
    (hkeys : ((disk.children real).map Entry.sortKey).Nodup) (path : Path) (title : Text) :
    (Listing.ofDirectory other real path title).page =
      (Listing.ofDirectory disk real path title).page := by
  have hrow : Row.ofEntry other path = Row.ofEntry disk path := by
    funext entry
    simp only [Row.ofEntry, h.resolve_eq]
  have hsorted : (Listing.ofDirectory other real path title).sorted =
      (Listing.ofDirectory disk real path title).sorted := by
    rw [sorted_ofDirectory, sorted_ofDirectory, sortedChildren_of_reorders h hkeys, hrow]
  exact Listing.page_congr rfl hsorted

/-- An entry that is no link and can be followed is found to be what it is. -/
theorem isDirectory_iff_of_node? {entry : Entry} {access : Access} {place : Place}
    (hdirectory : disk.resolve path = .ok ⟨real, .directory access⟩)
    (hnode : disk.node? (real ++ [entry.name]) = some entry.node)
    (hlink : entry.node.isLink = false)
    (hplace : disk.resolve (path ++ [entry.name]) = .ok place) :
    disk.IsDirectory (path ++ [entry.name]) ↔
      ∃ access, entry.node = .object (.directory access) := by
  cases hentry : entry.node with
  | link target =>
    rw [hentry] at hlink
    cases hlink
  | object object =>
    obtain rfl := eq_of_resolve_append hdirectory (hentry ▸ hnode) hplace
    unfold IsDirectory
    rw [hplace]
    constructor
    · rintro ⟨_, found, h⟩
      obtain ⟨-, rfl⟩ := Place.mk.inj (Except.ok.inj h)
      exact ⟨found, rfl⟩
    · rintro ⟨found, h⟩
      obtain rfl := Node.object.inj h
      exact ⟨_, found, rfl⟩

end Disk

/-! ## Replies -/

namespace Site

variable {site : Site} {disk other : Disk} {request : Request}

/-- A directory that is listed is listed whatever the order of enumeration. -/
theorem answer_of_reorders (h : disk.Reorders other) {listing : Listing}
    (hanswer : site.answer disk request = .listing listing) :
    ∃ real access, disk.resolve (site.locate request.path) = .ok ⟨real, .directory access⟩ ∧
      listing = .ofDirectory disk real (site.locate request.path) (decodePath request.path) ∧
      site.answer other request = .listing
        (.ofDirectory other real (site.locate request.path) (decodePath request.path)) := by
  obtain ⟨real, access, hplace, hslash, hrefusal, hindex, hread, hlisting⟩ :=
    answer_eq_listing_iff.1 hanswer
  refine ⟨real, access, hplace, hlisting, answer_eq_listing_iff.2
    ⟨real, access, (h.resolve_eq _).trans hplace, hslash, ?_, ?_, hread, rfl⟩⟩
  · rw [← hrefusal]
    simp only [refusal?, h.canonical_eq]
  · rw [← hindex]
    simp only [index?, h.resolve_eq]

end Site

namespace Reply

/-- A listing has every entry of the directory for an item and no other items, whatever is in the
names. An item shows the name of its entry, and behind it `@` for a symbolic link and a slash for a
directory that is found. An entry that can be followed is found to be what it is. Items are sorted
by the lower case of the names, and those that do not differ in it are in the order in which the
directory is enumerated. If all of them differ, the order of enumeration has no influence on the
response. -/
theorem lists_respond (site : Site) (disk : Disk) (now : Nat) {head : Bytes} {request : Request}
    {listing : Listing} (hparse : parseHead head = .ok request)
    (hmethod : request.method.isSupported) (hanswer : site.answer disk request = .listing listing) :
    let directory := site.locate request.path
    let response := (respond site disk now head).response
    ∃ real access page order,
      disk.resolve directory = .ok ⟨real, .directory access⟩ ∧
      response.Shows request.method .ok "text/html; charset=utf-8".toList page ∧
      disk.Lists directory real page order ∧
      (∀ entry ∈ order, entry.node.isLink = false →
        disk.node? (real ++ [entry.name]) = some entry.node →
        ∀ place, disk.resolve (directory ++ [entry.name]) = .ok place →
          (disk.IsDirectory (directory ++ [entry.name]) ↔
            ∃ access, entry.node = .object (.directory access))) ∧
      (((disk.children real).map Entry.sortKey).Nodup → ∀ other, disk.Reorders other →
        (respond site other now head).response = response) := by
  intro directory response
  obtain ⟨real, access, hplace, -, -, -, -, rfl⟩ := Site.answer_eq_listing_iff.1 hanswer
  have hlists := disk.lists_ofDirectory real directory (Site.decodePath request.path)
  refine ⟨real, access, _, _, hplace, shows_respond hparse hmethod (by decide) ?_, hlists,
    fun entry _ hlink hnode place hfound => ?_, fun hkeys other hreorders => ?_⟩
  · rw [hanswer]
    rfl
  · exact Disk.isDirectory_iff_of_node? hplace hnode hlink hfound
  · obtain ⟨real', _, hplace', -, hother⟩ := Site.answer_of_reorders hreorders hanswer
    obtain ⟨rfl, -⟩ := Place.mk.inj (Except.ok.inj (hplace'.symm.trans hplace))
    have hdraft : draft site other head = draft site disk head := by
      rw [draft_of_parseHead hparse hmethod, draft_of_parseHead hparse hmethod, hother, hanswer]
      simp only [Outcome.draft, Disk.page_of_reorders hreorders hkeys]
    simp only [response, response_respond, hdraft]

/-- A name with an item in it, a link and a directory, enumerated from either end. -/
theorem lists_respond_of_markup :
    let bytes := fun s : String => Utf8.encode s.toList
    let site : Site := ⟨[bytes "srv"]⟩
    let disk : Disk := ⟨[⟨[], bytes "srv", .object (.directory .all)⟩,
      ⟨[bytes "srv"], bytes "b", .object (.directory .all)⟩,
      ⟨[bytes "srv"], bytes "A", .link (bytes "b")⟩,
      ⟨[bytes "srv"], bytes "</a></li>\n<li>", .object (.file ⟨.all, ⟨0, 0⟩, []⟩)⟩]⟩
    let other : Disk := ⟨disk.entries.reverse⟩
    let head := bytes "GET //?q HTTP/1.0\r\n\r\n"
    (∃ page order, (respond site disk 0 head).response.Shows .get .ok
        "text/html; charset=utf-8".toList page ∧
      disk.Lists [bytes "srv"] [bytes "srv"] page order) ∧
      disk.mark [bytes "srv"] ⟨[bytes "srv"], bytes "A", .link (bytes "b")⟩ = ['@'] ∧
      disk.mark [bytes "srv"] ⟨[bytes "srv"], bytes "b", .object (.directory .all)⟩ = ['/'] ∧
      (respond site other 0 head).response = (respond site disk 0 head).response := by
  intro bytes site disk other head
  have hparse : parseHead head = .ok ⟨.get, "//?q".toList, .http10, []⟩ := by
    rw [parseHead_encode]
    decide +kernel
  have hanswer : site.answer disk ⟨.get, "//?q".toList, .http10, []⟩ =
      .listing (.ofDirectory disk [bytes "srv"] [bytes "srv"] "//".toList) := by decide +kernel
  have hfound : disk.resolve [bytes "srv"] = .ok ⟨[bytes "srv"], .directory .all⟩ := by
    decide +kernel
  have hlocate : site.locate (⟨.get, "//?q".toList, .http10, []⟩ : Request).path =
      [bytes "srv"] := by decide +kernel
  have hreorders : disk.Reorders other :=
    Disk.reorders_of_perm (List.reverse_perm _) (by decide +kernel)
  obtain ⟨real, access, page, order, hplace, hshows, hlists, -, hsame⟩ :=
    lists_respond site disk 0 hparse rfl hanswer
  rw [hlocate] at hplace hlists
  obtain ⟨rfl, -⟩ := Place.mk.inj (Except.ok.inj (hfound.symm.trans hplace))
  exact ⟨⟨page, order, hshows, hlists⟩, by decide +kernel, by decide +kernel,
    hsame (by decide +kernel) other hreorders⟩

/-- A directory below one that must not be searched is listed without a slash. -/
theorem lists_respond_of_unfound :
    let bytes := fun s : String => Utf8.encode s.toList
    let disk : Disk := ⟨[⟨[], bytes "d", .object (.directory ⟨true, false, false⟩)⟩,
      ⟨[bytes "d"], bytes "s", .object (.directory .all)⟩]⟩
    let page := (Listing.ofDirectory disk [bytes "d"] [bytes "d"] "/d/".toList).page
    (respond ⟨[]⟩ disk 0 (bytes "GET /d/ HTTP/1.1\r\n\r\n")).response.body =
        some (Utf8.encode page) ∧
      disk.children [bytes "d"] = [⟨[bytes "d"], bytes "s", .object (.directory .all)⟩] ∧
      Html.itemTexts page = ["s".toList] := by
  decide +kernel

end Reply

end FileServer
