import FileServer.Connection
import FileServer.Http.MediaTable
import FileServer.Proofs.Disk.Agreement
import FileServer.Proofs.Site.Outcomes

/-!
# What a site keeps to itself

The data of files outside a site has no influence on anything that the server does. Looks at such
files are made, since links are followed before it is known where they lead, but what a look finds
of their data is used only when the real path lies in the site. Of two file systems that differ in
the data of files outside (`Disk.AgreesWithin`), each question that a site asks has one answer.

* `refusal?_congr`, `index?_cases`, `ofDirectory_congr`: the questions, one by one;
* `answer_congr`: the decision;
* `hold_congr`: all that happens on a connection, with what is written and what is reported.
-/

namespace FileServer

variable {a b : Disk}

/-- Lists that are the same but for what a map leaves out have the same images under maps that
leave out as much. -/
theorem map_eq_map_of_map_eq {α β γ : Type} {left_out : α → γ} {f g : α → β}
    (hfg : ∀ x y, left_out x = left_out y → f x = g y) {xs ys : List α}
    (h : xs.map left_out = ys.map left_out) : xs.map f = ys.map g := by
  induction xs generalizing ys with
  | nil => rw [List.map_eq_nil_iff.1 h.symm, List.map_nil, List.map_nil]
  | cons x xs ih =>
    obtain _ | ⟨y, ys⟩ := ys
    · cases h
    · obtain ⟨hxy, hrest⟩ := List.cons.inj h
      rw [List.map_cons, List.map_cons, hfg x y hxy, ih hrest]

/-- A listing shows of an entry what every file system of the same outline has. -/
theorem Listing.ofDirectory_congr (h : Disk.SameOutline a b) (real path : Path) (title : Text) :
    ofDirectory a real path title = ofDirectory b real path title := by
  unfold ofDirectory
  congr 1
  refine map_eq_map_of_map_eq (fun x y hxy => ?_) (h real)
  obtain ⟨parent, name, node⟩ := x
  obtain ⟨parent', name', node'⟩ := y
  obtain ⟨-, rfl, hnode⟩ : parent = parent' ∧ name = name' ∧ node.outline = node'.outline :=
    Entry.mk.inj hxy
  have hlink : node.isLink = node'.isLink := by
    rw [← node.isLink_outline, hnode, node'.isLink_outline]
  simp only [hlink, Row.mk.injEq, true_and, and_true]
  obtain ⟨fault, ha, hb⟩ | ⟨p, q, ha, hb, hpq⟩ :=
    cases_of_map_eq (h.outline_resolve (path ++ [name]))
  · rw [ha, hb]
  · rw [ha, hb]
    show p.object.isDirectory = q.object.isDirectory
    rw [← p.object.isDirectory_outline, (Place.outline_eq hpq).2, q.object.isDirectory_outline]

namespace Site

theorem refusal?_congr (h : Disk.SameOutline a b) (site : Site) (path : Path) :
    site.refusal? a path = site.refusal? b path := by
  unfold refusal?
  obtain ⟨fault, ha, hb⟩ | ⟨p, q, ha, hb, hpq⟩ := cases_of_map_eq (h.outline_canonical path)
  · rw [ha, hb]
  · rw [ha, hb]
    simp only [(Place.outline_eq hpq).1]

/-- An index file is found under the same path, with data that may differ. -/
theorem index?_cases (h : Disk.SameOutline a b) (directory : Path) :
    (index? a directory = none ∧ index? b directory = none) ∨
      ∃ path f g, index? a directory = some (path, f) ∧ index? b directory = some (path, g) := by
  unfold index?
  induction indexNames with
  | nil => exact .inl ⟨rfl, rfl⟩
  | cons name names ih =>
    rw [List.findSome?_cons, List.findSome?_cons]
    obtain ⟨fault, ha, hb⟩ | ⟨⟨real, p⟩, ⟨real', q⟩, ha, hb, hpq⟩ :=
      cases_of_map_eq (h.outline_resolve (directory ++ [name]))
    · rw [ha, hb]
      exact ih
    · rw [ha, hb]
      have hobject : p.outline = q.outline := (Place.outline_eq hpq).2
      cases p with
      | file f =>
        cases q with
        | file g => exact .inr ⟨_, f, g, rfl, rfl⟩
        | directory => cases hobject
      | directory =>
        cases q with
        | file => cases hobject
        | directory => exact ih

/-! ## The decision -/

/-- What a path that is not refused leads to is the same, with its data. -/
theorem eq_of_refusal? {site : Site} (h : Disk.AgreesWithin site.root a b) {path : Path}
    {p q : Place} (ha : a.resolve path = .ok p) (hb : b.resolve path = .ok q)
    (hrefusal : site.refusal? a path = none) : p = q :=
  h.eq_of_resolve ha hb (contains_iff.1 (contains_of_refusal? hrefusal ha))

theorem answer_congr {site : Site} (h : Disk.AgreesWithin site.root a b) (request : Request) :
    site.answer a request = site.answer b request := by
  have hrefused := refusal?_congr h.outline site
  unfold answer
  obtain ⟨fault, ha, hb⟩ | ⟨p, q, ha, hb, -⟩ :=
    cases_of_map_eq (h.outline.outline_resolve (site.locate request.path))
  · simp only [ha, hb]
  simp only [ha, hb]
  rw [← hrefused]
  cases hrefusal : site.refusal? a (site.locate request.path) with
  | some outcome => rw [Option.getD_some, Option.getD_some]
  | none =>
    obtain rfl := eq_of_refusal? h ha hb hrefusal
    obtain ⟨real, object⟩ := p
    cases object with
    | file file => rfl
    | directory access =>
      obtain ⟨hia, hib⟩ | ⟨path, f, g, hia, hib⟩ :=
        index?_cases h.outline (site.locate request.path)
      · simp only [hia, hib, list, Listing.ofDirectory_congr h.outline]
      · simp only [hia, hib]
        obtain ⟨-, realf, hf⟩ := index?_eq_some hia
        obtain ⟨-, realg, hg⟩ := index?_eq_some hib
        rw [← hrefused]
        cases hindex : site.refusal? a path with
        | some outcome => rw [Option.getD_some, Option.getD_some]
        | none => rw [Object.file.inj (congrArg Place.object (eq_of_refusal? h hf hg hindex))]

end Site

/-! ## Replies and connections -/

theorem Reply.respond_congr {site : Site} (h : Disk.AgreesWithin site.root a b) (now : Nat)
    (head : Bytes) : respond site a now head = respond site b now head := by
  have hrequest : ∀ request, ofRequest site a request = ofRequest site b request := by
    intro request
    simp only [ofRequest, Site.answer_congr h]
  simp only [respond, toRequest, hrequest]

/-- The data of files outside a site has no influence on the reply to any bytes, with the exchange
that is reported, or on what is written on a connection and how the connection ends. -/
theorem Conversation.hold_congr {site : Site} (h : Disk.AgreesWithin site.root a b) (now : Nat) :
    (∀ head, Reply.respond site a now head = Reply.respond site b now head) ∧
      ∀ peer, hold site a now peer = hold site b now peer := by
  have hrespond : ∀ head, Reply.respond site a now head = Reply.respond site b now head :=
    Reply.respond_congr h now
  refine ⟨hrespond, fun peer => ?_⟩
  simp only [hold, hrespond]

/-- Through a link out of the site a client does not learn when a file there was changed. -/
theorem Conversation.hold_congr_of_link :
    let bytes := fun s : String => Utf8.encode s.toList
    let disk : File → Disk := fun secret => ⟨[⟨[], bytes "srv", .object (.directory .all)⟩,
      ⟨[], bytes "key", .object (.file secret)⟩,
      ⟨[bytes "srv"], bytes "out", .link (bytes "../key")⟩]⟩
    let old : File := ⟨.all, ⟨0, 0⟩, bytes "a"⟩
    let new : File := ⟨.all, ⟨946684800, 0⟩, bytes "bc"⟩
    let peer : Peer := ⟨[bytes "GET /out HTTP/1.1\r\nIf-Modified-Since: ",
      bytes "Sun, 06 Nov 1994 08:49:37 GMT\r\n\r\n"], .closed, none, none⟩
    Disk.AgreesWithin [bytes "srv"] (disk old) (disk new) ∧
      ((disk old).resolve [bytes "srv", bytes "out"]).toOption = some ⟨[bytes "key"], .file old⟩ ∧
      ((disk new).resolve [bytes "srv", bytes "out"]).toOption = some ⟨[bytes "key"], .file new⟩ ∧
      hold ⟨[bytes "srv"]⟩ (disk old) 0 peer = hold ⟨[bytes "srv"]⟩ (disk new) 0 peer := by
  intro bytes disk old new peer
  have hagree : Disk.AgreesWithin [bytes "srv"] (disk old) (disk new) :=
    Disk.agreesWithin_of_entries (by decide +kernel) (by decide +kernel)
  have hsite : Disk.AgreesWithin (⟨[bytes "srv"]⟩ : Site).root (disk old) (disk new) := hagree
  exact ⟨hagree, by decide +kernel, by decide +kernel, (hold_congr hsite 0).2 peer⟩

end FileServer
