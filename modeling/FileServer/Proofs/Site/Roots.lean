import FileServer.Http.MediaTable
import FileServer.Proofs.Disk.Reachable
import FileServer.Proofs.Disk.RealPath
import FileServer.Proofs.Site.Outcomes
import Mathlib.Control.Monad.Basic

/-!
# What leaves the root

What a path leads to is refused exactly if its real path does not begin with the root, name by name,
as long as this real path is found. The root is a real path itself, and goes on to be one: at the
time when a site was opened, whatever can be reached from its root through no link is in it.

* `refusal?_of_resolve`: what becomes of a path, by where it leads;
* `refusal?_of_hasNoLink`: what is reached from a real root through no link is not refused;
* `answer_ne_outside`: without links below the root nothing is outside;
* `refusal_of_ofPath`: all of this, of the root that a written path stands for.
-/

namespace FileServer.Site

variable {site : Site} {disk : Disk}

/-- What a path leads to is refused if it lies outside of the site, or if its real path is too long
to be found. -/
theorem refusal?_of_resolve {path : Path} {place : Place} (hplace : disk.resolve path = .ok place) :
    disk.canonical path = .ok place ∧
        site.refusal? disk path =
          (if site.root <+: place.path then none else some (.outside place.path)) ∨
      disk.canonical path = .error .nameTooLong ∧ disk.IsDeep ∧
        site.refusal? disk path = some (.failed .nameTooLong) := by
  obtain hfound | ⟨hlong, hdeep⟩ := Disk.canonical_of_resolve hplace
  · refine .inl ⟨hfound, ?_⟩
    simp only [refusal?, hfound, contains_iff]
  · refine .inr ⟨hlong, hdeep, ?_⟩
    rw [refusal?, hlong]

/-- A path that leads into the site is given out, unless its real path is too long to be found. -/
theorem refusal?_cases {path : Path} {place : Place} (hplace : disk.resolve path = .ok place)
    (hwithin : site.root <+: place.path) :
    disk.canonical path = .ok place ∧ site.refusal? disk path = none ∨
      disk.canonical path = .error .nameTooLong ∧ disk.IsDeep ∧
        site.refusal? disk path = some (.failed .nameTooLong) := by
  have hcases := @refusal?_of_resolve site disk path place hplace
  rwa [if_pos hwithin] at hcases

/-- A sibling of the root is outside, also if its name begins with the name of the root. -/
theorem not_prefix_sibling {above path : Path} {name more : Name} (hmore : more ≠ [])
    (hpath : above ++ [name ++ more] <+: path) : ¬ above ++ [name] <+: path := by
  intro hroot
  have hlength : (above ++ [name]).length ≤ (above ++ [name ++ more]).length := by simp
  have hsame := List.prefix_of_prefix_length_le hroot hpath hlength
  rw [List.prefix_append_right_inj] at hsame
  obtain ⟨rest, hrest⟩ := hsame
  obtain ⟨hname, -⟩ := List.cons.inj hrest
  exact hmore (List.append_right_eq_self.1 hname.symm)

/-! ## Below the root -/

/-- What is reached from a real root through no link is in the site. -/
theorem refusal?_of_hasNoLink (hroot : disk.HasNoLink site.root) {names : Path} {place : Place}
    (hplace : disk.resolve (site.root ++ names) = .ok place)
    (hlinks : ∀ front name target, front ++ [name] <+: names →
      disk.node? (site.root ++ front ++ [name]) ≠ some (.link target)) :
    place.path = site.root ++ names ∧ site.refusal? disk (site.root ++ names) = none := by
  obtain ⟨hpath, hcanonical⟩ := Disk.canonical_of_hasNoLink (hroot.append hlinks) hplace
  have hwithin : site.contains place.path :=
    contains_iff.2 (hpath ▸ List.prefix_append site.root names)
  refine ⟨hpath, ?_⟩
  simp only [refusal?, hcanonical, hwithin, if_true]

/-- What a request may be answered from is below the root. -/
theorem exists_of_mem_askedPaths {request : Request} {path : Path}
    (h : path ∈ site.askedPaths request) : ∃ names, path = site.root ++ names := by
  obtain rfl | hindex := List.mem_cons.1 h
  · exact ⟨_, rfl⟩
  · obtain ⟨name, -, rfl⟩ := List.mem_map.1 hindex
    exact ⟨_, List.append_assoc _ _ _⟩

/-- Without links below a real root, nothing that is asked for is outside. -/
theorem answer_ne_outside (hroot : disk.HasNoLink site.root)
    (hlinks : ∀ entry ∈ disk.entries, site.root <+: entry.parent → entry.node.isLink = false)
    (request : Request) (real : Path) : site.answer disk request ≠ .outside real := by
  intro houtside
  have hanswers := site.answers_answer disk request
  rw [houtside] at hanswers
  generalize houtcome : Outcome.outside real = outcome at hanswers
  cases hanswers with
  | failed | slashAfterFile | redirected => cases houtcome
  | @sent path _ file =>
    obtain hsend | hsend | hsend := site.sendFile_cases request path file <;>
      rw [hsend] at houtcome <;> cases houtcome
  | @listed real access =>
    obtain hlist | hlist := list_cases disk request (site.locate request.path) real access <;>
      rw [hlist] at houtcome <;> cases houtcome
  | refused hasked hplace hrefusal =>
    -- A link on the way to what was refused would be an entry below the root.
    obtain ⟨names, rfl⟩ := exists_of_mem_askedPaths hasked
    obtain ⟨-, hnone⟩ := refusal?_of_hasNoLink hroot hplace fun front name target _ hlink => by
      obtain ⟨entry, hentry, hpath, hnode⟩ := Disk.exists_entry_of_node? (by simp) hlink
      have hparent : entry.parent = site.root ++ front := (List.append_inj' hpath rfl).1
      have hfalse := hlinks entry hentry (hparent ▸ List.prefix_append _ _)
      rw [hnode] at hfalse
      cases hfalse
    rw [hnone] at hrefusal
    cases hrefusal

/-! ## Roots that were given -/

/-- However a root is written, what leads out of it is refused and nothing else is, but for what has
a real path that is too long to be found. At the time when the site was opened the root itself is
found, and nothing that is reached from it without links is refused. -/
theorem refusal_of_ofPath [MediaTypes] {opened : Disk} {directory : Path} {written : Bytes}
    {site : Site} (hopened : ofPath opened directory written = .ok site) :
    (∀ disk path place, disk.resolve path = .ok place →
      (disk.canonical path = .ok place ∧
        (site.refusal? disk path = none ↔ site.root <+: place.path) ∧
        (¬ site.root <+: place.path → site.refusal? disk path = some (.outside place.path))) ∨
      (disk.canonical path = .error .nameTooLong ∧ disk.IsDeep ∧
        site.refusal? disk path = some (.failed .nameTooLong))) ∧
    (∀ disk path place above name more, disk.resolve path = .ok place →
      site.root = above ++ [name] → more ≠ [] → above ++ [name ++ more] <+: place.path →
      site.refusal? disk path ≠ none) ∧
    (∃ access, opened.canonicalFrom directory written = .ok ⟨site.root, .directory access⟩ ∧
      ((∀ name ∈ site.root, 0 ∉ name) →
        opened.resolve site.root = .ok ⟨site.root, .directory access⟩ ∧
          site.refusal? opened site.root = none)) ∧
    (∀ names place, opened.resolve (site.root ++ names) = .ok place →
      (∀ front name target, front ++ [name] <+: names →
        opened.node? (site.root ++ front ++ [name]) ≠ some (.link target)) →
      place.path = site.root ++ names ∧ site.refusal? opened (site.root ++ names) = none) ∧
    ((∀ entry ∈ opened.entries, site.root <+: entry.parent → entry.node.isLink = false) →
      ∀ request real, site.answer opened request ≠ .outside real) := by
  obtain ⟨access, hcanonical⟩ := canonicalFrom_of_ofPath hopened
  have hroot : opened.HasNoLink site.root := (Disk.isReal_of_canonicalFrom hcanonical).hasNoLink
  refine ⟨fun disk path place hplace => ?_, ?_, ⟨access, hcanonical, fun hplain => ?_⟩, ?_, ?_⟩
  · refine (refusal?_of_resolve hplace).imp_left fun ⟨hfound, hrefusal⟩ => ⟨hfound, ?_, ?_⟩
    · rw [hrefusal]
      split
      · next hwithin => exact iff_of_true rfl hwithin
      · next houtside => exact iff_of_false nofun houtside
    · intro houtside
      rw [hrefusal, if_neg houtside]
  · intro disk path place above name more hplace hname hmore hpath hnone
    have hwithin := contains_iff.1 (contains_of_refusal? hnone hplace)
    exact not_prefix_sibling hmore hpath (hname ▸ hwithin)
  · obtain ⟨hresolve, hfound⟩ := Disk.resolve_path_of_isReachable
      (Disk.isReachable_of_canonicalFrom hcanonical)
      (Disk.length_bytes_le_of_canonicalFrom hcanonical) hplain
    refine ⟨hresolve, ?_⟩
    simp only [refusal?, hfound, contains_iff.2 (List.prefix_refl site.root), if_true]
  · intro names place hplace hlinks
    exact refusal?_of_hasNoLink hroot hplace hlinks
  · exact answer_ne_outside hroot

/-- A root that is given through a link, and links below it that lead inside and outside. -/
theorem refusal_of_ofPath_of_links :
    let bytes := fun s : String => Utf8.encode s.toList
    let root : Path := [bytes "srv", bytes "www"]
    let file : Object := .file ⟨.all, ⟨0, 0⟩, []⟩
    let plain : List Entry := [⟨[], bytes "srv", .object (.directory .all)⟩,
      ⟨[bytes "srv"], bytes "www", .object (.directory .all)⟩,
      ⟨[bytes "srv"], bytes "www2", .object (.directory .all)⟩,
      ⟨[bytes "srv", bytes "www2"], bytes "f", .object file⟩,
      ⟨[bytes "srv"], bytes "l", .link (bytes "/srv/./www")⟩,
      ⟨root, bytes "a", .object (.directory .all)⟩, ⟨root ++ [bytes "a"], bytes "f", .object file⟩]
    let links : List Entry := [⟨root, bytes "in", .link (bytes "a/f")⟩,
      ⟨root, bytes "out", .link (bytes "../www2")⟩]
    let written := bytes "www2/../l/."
    let site : Site := ⟨root⟩
    ofPath ⟨plain ++ links⟩ [bytes "srv"] written = .ok site ∧
      ofPath ⟨plain⟩ [bytes "srv"] written = .ok site ∧
      site.refusal? ⟨plain ++ links⟩ (root ++ [bytes "in"]) = none ∧
      site.refusal? ⟨plain ++ links⟩ (root ++ [bytes "out", bytes "f"]) =
        some (.outside [bytes "srv", bytes "www2", bytes "f"]) ∧
      site.refusal? ⟨plain ++ links⟩ (root ++ [bytes "out"]) ≠ none ∧
      (∃ access, Disk.resolve ⟨plain⟩ root = .ok ⟨root, .directory access⟩ ∧
        site.refusal? ⟨plain⟩ root = none) ∧
      site.refusal? ⟨plain ++ links⟩ (root ++ [bytes "a", bytes "f"]) = none ∧
      ∀ request real, site.answer ⟨plain⟩ request ≠ .outside real := by
  intro bytes root file plain links written site
  have hfound : ∀ entries ∈ [plain, plain ++ links],
      Disk.canonicalFrom ⟨entries⟩ [bytes "srv"] written = .ok ⟨root, .directory .all⟩ := by
    decide +kernel
  have hopened : ofPath ⟨plain ++ links⟩ [bytes "srv"] written = .ok site :=
    ofPath_of_canonicalFrom (hfound _ (by simp))
  have hplain : ofPath ⟨plain⟩ [bytes "srv"] written = .ok site :=
    ofPath_of_canonicalFrom (hfound _ (by simp))
  obtain ⟨hrefusal, hsibling, -, hbelow, -⟩ := refusal_of_ofPath hopened
  obtain ⟨-, -, ⟨access, -, hroot⟩, -, hanswer⟩ := refusal_of_ofPath hplain
  have hshallow : ¬ Disk.IsDeep ⟨plain ++ links⟩ := by decide +kernel
  have hin : Disk.resolve ⟨plain ++ links⟩ (root ++ [bytes "in"]) =
      .ok ⟨root ++ [bytes "a", bytes "f"], file⟩ := by decide +kernel
  have hout : Disk.resolve ⟨plain ++ links⟩ (root ++ [bytes "out", bytes "f"]) =
      .ok ⟨[bytes "srv", bytes "www2", bytes "f"], file⟩ := by decide +kernel
  have haf : Disk.resolve ⟨plain ++ links⟩ (root ++ [bytes "a", bytes "f"]) =
      .ok ⟨root ++ [bytes "a", bytes "f"], file⟩ := by decide +kernel
  refine ⟨hopened, hplain, ?_, ?_, ?_, ?_, ?_, ?_⟩
  · obtain ⟨-, hwithin, -⟩ | ⟨-, hdeep, -⟩ := hrefusal _ _ _ hin
    · exact hwithin.2 (by decide +kernel)
    · exact absurd hdeep hshallow
  · obtain ⟨-, -, houtside⟩ | ⟨-, hdeep, -⟩ := hrefusal _ _ _ hout
    · exact houtside (by decide +kernel)
    · exact absurd hdeep hshallow
  · exact hsibling _ _ ⟨[bytes "srv", bytes "www2"], .directory .all⟩ [bytes "srv"] (bytes "www")
      (bytes "2") (by decide +kernel) rfl (by decide) (by decide +kernel)
  · exact ⟨access, hroot (by decide +kernel)⟩
  · refine (hbelow [bytes "a", bytes "f"] _ haf fun front name target hname => ?_).2
    refine (Disk.isReal_of_resolve haf).hasNoLink (root ++ front) name target ?_
    rw [List.append_assoc, List.prefix_append_right_inj]
    exact hname
  · exact hanswer (by decide +kernel)

/-- A file in the site at a path of 4096 bytes is found through a link, but refused. -/
theorem refusal_of_ofPath_of_deep :
    let site : Site := ⟨[]⟩
    let path := site.root ++ [[0x6C], Disk.longName]
    let real := Disk.deepDirectory ++ [Disk.longName]
    let file : File := ⟨.all, ⟨0, 0⟩, [0x78]⟩
    ofPath Disk.deep [] [0x2F] = .ok site ∧
      Disk.deep.resolve path = .ok ⟨real, .file file⟩ ∧ site.root <+: real ∧
      site.refusal? Disk.deep path = some (.failed .nameTooLong) := by
  intro site path real file
  have hroot : Disk.deep.canonicalFrom [] [0x2F] = .ok ⟨[], .directory .all⟩ := by decide +kernel
  exact ⟨ofPath_of_canonicalFrom hroot, by decide +kernel, List.nil_prefix, by decide +kernel⟩

end FileServer.Site
