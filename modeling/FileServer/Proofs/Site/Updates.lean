import FileServer.Proofs.Disk.Changes
import FileServer.Proofs.Site.Files
import FileServer.Proofs.Site.Noninterference

/-!
# Files that change while a site is served

Each request is answered from the file system as it is then. What is written to a file of the site
is what is sent the next time, under every path that leads to the file. What is written to files
outside makes no difference, however often that happens.

* `agreesWithin_of_apply`, `hold_of_applyAll`: one file outside that is written, and any number;
* `respond_of_write`: a file of the site that is written.
-/

namespace FileServer

variable {site : Site} {disk changed : Disk}

/-! ## Outside the site -/

/-- Whether a change is that an existing file is written which is not below a root. -/
def Disk.WritesOutside (disk : Disk) (root : Path) : Change → Prop
  | .write path _ _ => ∃ real file, disk.resolve path = .ok ⟨real, .file file⟩ ∧ ¬ root <+: real
  | _ => False

/-- Where a path leads to a file, it does so in every file system of the same outline. -/
theorem Disk.SameOutline.writesOutside {a b : Disk} (h : SameOutline a b) {root : Path}
    {change : Change} (hwrites : a.WritesOutside root change) : b.WritesOutside root change := by
  cases change with
  | write path contents modified =>
    obtain ⟨real, file, hplace, houtside⟩ := hwrites
    obtain ⟨fault, hnone, -⟩ | ⟨p, ⟨other, object⟩, hp, hq, hpq⟩ :=
      cases_of_map_eq (h.outline_resolve path)
    · cases hnone.symm.trans hplace
    · obtain rfl := Except.ok.inj (hp.symm.trans hplace)
      obtain ⟨rfl, hobject⟩ : real = other ∧ (Object.file file).outline = object.outline :=
        Place.outline_eq hpq
      cases object with
      | file written => exact ⟨real, written, hq, houtside⟩
      | directory => cases hobject
  | makeDirectory | makeLink | setAccess | remove | rename => cases hwrites

theorem Disk.agreesWithin_of_apply (h : disk.IsDistinct) {root : Path} {change : Change}
    (hwrites : disk.WritesOutside root change) (happly : disk.apply change = .ok changed) :
    AgreesWithin root disk changed := by
  cases change with
  | write path contents modified =>
    obtain ⟨real, file, hplace, houtside⟩ := hwrites
    exact agreesWithin_of_write h hplace houtside happly
  | makeDirectory | makeLink | setAccess | remove | rename => cases hwrites

/-- However many files outside a site are written, a connection goes on as if none were. -/
theorem Conversation.hold_of_applyAll (h : disk.IsDistinct) {changes : List Change}
    (hwrites : ∀ change ∈ changes, disk.WritesOutside site.root change)
    (happly : disk.applyAll changes = .ok changed) (now : Nat) (peer : Peer) :
    hold site changed now peer = hold site disk now peer := by
  induction changes generalizing disk with
  | nil => rw [Except.ok.inj happly]
  | cons change changes ih =>
    obtain ⟨hchange, hrest⟩ := List.forall_mem_cons.1 hwrites
    obtain ⟨next, hnext, hlast⟩ := Disk.exists_of_bind_eq_ok happly
    have hagree := Disk.agreesWithin_of_apply h hchange hnext
    have hsame : hold site next now peer = hold site disk now peer := by
      simp only [hold, Reply.respond_congr hagree now]
    rw [← hsame]
    exact ih (Disk.isDistinct_apply h hnext)
      (fun later hlater => hagree.outline.writesOutside (hrest later hlater)) hlast

/-! ## In the site -/

namespace Reply

/-- After a file of the site was written, a `GET` request for it is answered with what was written,
whatever path the file was written under and whatever path it is asked for under, unless its real
path is too long to be found. -/
theorem respond_of_write (h : disk.IsDistinct) (now : Nat) {head : Bytes} {request : Request}
    (hparse : parseHead head = .ok request) (hmethod : request.method = .get)
    (hsince : request.header "If-Modified-Since".toList = none)
    (hslash : request.path.getLast? ≠ some '/') {written real : Path} {file : File}
    (hwritten : disk.resolve written = .ok ⟨real, .file file⟩)
    (hplace : disk.resolve (site.locate request.path) = .ok ⟨real, .file file⟩)
    (hread : file.access.read) (hwithin : site.root <+: real) {contents : Bytes}
    {modified : Instant} (hyear : modified.wholeSeconds < HttpDate.secondsBefore10000)
    (hwrite : disk.write written contents modified = .ok changed) :
    let response := (respond site changed now head).response
    response.Sends ⟨file.access, modified, contents⟩
        (site.mediaType ((site.locate request.path).getLastD [])) ∨
      changed.IsDeep ∧ response.status = .notFound := by
  intro response
  have hnew := Disk.resolve_of_write h hwritten hwrite hplace
  obtain ⟨-, hsends⟩ | ⟨-, hdeep, hstatus⟩ := @respond_of_resolve site changed now head request
    hparse hmethod hsince hslash _ _ _ rfl hnew hread hyear hwithin
  · exact .inl hsends
  · exact .inr ⟨hdeep, hstatus⟩

end Reply

end FileServer
