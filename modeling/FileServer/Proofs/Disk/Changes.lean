import FileServer.Disk.Change
import FileServer.Proofs.Disk.Agreement
import FileServer.Proofs.Disk.Ways

/-!
# What changes leave as it is

Whatever is done to a file system, no two entries come to be at one path (`IsDistinct`): entries are
replaced where they are, and what is moved comes to paths at which nothing else is left. A file that
a path leads to is written where it really is. Nothing but its data is another after that, and the
path leads to the new data.

* `isDistinct_apply`, `isDistinct_applyAll`: one change, and changes one after another;
* `IsDistinct.mem_children_iff`, `reorders_of_applyAll`: what that is good for;
* `write_of_resolve`: what is done in order to write an existing file;
* `agreesWithin_of_write`, `resolve_of_write`: what is found after that, elsewhere and there.
-/

namespace FileServer.Disk

variable {disk changed : Disk}

/-- A computation that goes on after another has a result only if the other has. -/
theorem exists_of_bind_eq_ok {α β : Type} {x : Except Fault α} {f : α → Except Fault β} {b : β}
    (h : x >>= f = .ok b) : ∃ a, x = .ok a ∧ f a = .ok b := by
  cases x with
  | error fault => cases h
  | ok a => exact ⟨a, rfl, h⟩

/-! ## Entries at distinct paths -/

/-- Whether no two entries are at one path. -/
def IsDistinct (disk : Disk) : Prop := (disk.entries.map Entry.path).Nodup

theorem isDistinct_empty : empty.IsDistinct := List.nodup_nil

theorem IsDistinct.map (h : disk.IsDistinct) {f : Entry → Entry}
    (hf : ∀ entry, (f entry).path = entry.path) : IsDistinct ⟨disk.entries.map f⟩ := by
  have hpath : Entry.path ∘ f = Entry.path := funext hf
  unfold IsDistinct
  rwa [List.map_map, hpath]

theorem isDistinct_set (h : disk.IsDistinct) (directory : Path) (name : Name) (node : Node) :
    (disk.set directory name node).IsDistinct := by
  unfold set
  split
  · exact h.map fun entry => path_replaced _ _ entry
  · next hnew =>
    have hnew : directory ++ [name] ∉ disk.entries.map Entry.path := by simpa using hnew
    have hlast := h.concat hnew
    rw [List.concat_eq_append] at hlast
    unfold IsDistinct
    rwa [List.map_append]

theorem isDistinct_put (h : disk.IsDistinct) {directory : Path} {name : Name} {node : Node}
    (hput : disk.put directory name node = .ok changed) : changed.IsDistinct := by
  unfold put at hput
  split at hput
  · cases hput
  split at hput
  · exact Except.ok.inj hput ▸ isDistinct_set h directory name node
  · cases hput

theorem isDistinct_makeDirectories (h : disk.IsDistinct) {directory last : Path}
    {names : List Name} (hmake : disk.makeDirectories directory names = .ok (changed, last)) :
    changed.IsDistinct := by
  induction names generalizing disk directory with
  | nil =>
    obtain ⟨rfl, -⟩ := Prod.mk.inj (Except.ok.inj hmake)
    exact h
  | cons name names ih =>
    rw [makeDirectories] at hmake
    split at hmake
    · exact ih h hmake
    · cases hmake
    · split at hmake
      · cases hmake
      split at hmake
      · next hput => exact ih (isDistinct_put h hput) hmake
      · cases hmake
    · cases hmake

theorem isDistinct_makeParent (h : disk.IsDistinct) {path directory : Path} {name : Name}
    (hmake : disk.makeParent path = .ok (changed, directory, name)) : changed.IsDistinct := by
  unfold makeParent at hmake
  split at hmake
  · obtain ⟨⟨made, last⟩, hmade, hlast⟩ := exists_of_bind_eq_ok hmake
    obtain ⟨rfl, -⟩ := Prod.mk.inj (Except.ok.inj hlast)
    exact isDistinct_makeDirectories h hmade
  · cases hmake

theorem isDistinct_write (h : disk.IsDistinct) {path : Path} {contents : Bytes}
    {modified : Instant} (hwrite : disk.write path contents modified = .ok changed) :
    changed.IsDistinct := by
  obtain ⟨⟨made, directory, name⟩, hmade, hwrite⟩ := exists_of_bind_eq_ok hwrite
  have hdistinct := isDistinct_makeParent h hmade
  simp only at hwrite
  split at hwrite
  · split at hwrite
    · exact Except.ok.inj hwrite ▸ isDistinct_set hdistinct _ _ _
    · cases hwrite
  · cases hwrite
  · obtain ⟨⟨at_, last⟩, -, hput⟩ := exists_of_bind_eq_ok hwrite
    exact isDistinct_put hdistinct hput
  · cases hwrite

theorem IsDistinct.filter (h : disk.IsDistinct) (keeps : Entry → Bool) :
    IsDistinct ⟨disk.entries.filter keeps⟩ :=
  h.sublist (List.filter_sublist.map Entry.path)

theorem isDistinct_remove (h : disk.IsDistinct) {path : Path}
    (hremove : disk.remove path = .ok changed) : changed.IsDistinct := by
  obtain ⟨⟨directory, name, node⟩, -, hremove⟩ := exists_of_bind_eq_ok hremove
  simp only at hremove
  split at hremove
  · exact Except.ok.inj hremove ▸ h.filter _
  · cases hremove

/-- Where a path is found after what is at another path was moved. -/
def movedPath (old new path : Path) : Path :=
  if old <+: path then new ++ path.drop old.length else path

theorem path_moved (old directory : Path) (name : Name) (entry : Entry) :
    (entry.moved old directory name).path = movedPath old (directory ++ [name]) entry.path := by
  unfold Entry.moved movedPath
  simp only [List.isPrefixOf_iff_prefix]
  split
  · next hold =>
    rw [if_pos (hold ▸ List.prefix_refl _), hold, List.drop_length, List.append_nil]
    rfl
  · next hother =>
    split
    · next hbelow =>
      obtain hsame | hbelow := List.prefix_concat_iff.1 hbelow
      · exact absurd hsame.symm hother
      · have hlength : old.length ≤ entry.parent.length := hbelow.length_le
        simp only [Entry.path, List.drop_append_of_le_length hlength, List.append_assoc]
    · rfl

theorem eq_of_movedPath {old new p q : Path} (hp : ¬ new <+: p) (hq : ¬ new <+: q)
    (h : movedPath old new p = movedPath old new q) : p = q := by
  unfold movedPath at h
  split at h
  · next hold =>
    split at h
    · next hold' =>
      rw [← List.prefix_iff_eq_append.1 hold, ← List.prefix_iff_eq_append.1 hold',
        List.append_cancel_left h]
    · exact absurd (h ▸ List.prefix_append _ _) hq
  · split at h
    · exact absurd (h ▸ List.prefix_append _ _) hp
    · exact h

/-- What is moved comes to paths at which nothing else is left. -/
theorem IsDistinct.moved (h : disk.IsDistinct) (old directory : Path) (name : Name) :
    IsDistinct ⟨(disk.entries.filter fun entry =>
      !(directory ++ [name]).isPrefixOf entry.path).map (·.moved old directory name)⟩ := by
  have hkept := h.filter fun entry => !(directory ++ [name]).isPrefixOf entry.path
  generalize hentries : disk.entries.filter (fun entry =>
    !(directory ++ [name]).isPrefixOf entry.path) = entries at hkept ⊢
  have hoff : ∀ path ∈ entries.map Entry.path, ¬ directory ++ [name] <+: path := by
    intro path hpath
    obtain ⟨entry, hentry, rfl⟩ := List.mem_map.1 hpath
    rw [← hentries] at hentry
    have hkeeps := (List.mem_filter.1 hentry).2
    rwa [Bool.not_eq_true', ← Bool.not_eq_true, List.isPrefixOf_iff_prefix] at hkeeps
  have hpath : Entry.path ∘ (·.moved old directory name) =
      movedPath old (directory ++ [name]) ∘ Entry.path := funext (path_moved old directory name)
  unfold IsDistinct at hkept ⊢
  rw [List.map_map, hpath, ← List.map_map]
  exact hkept.map_on fun p hp q hq => eq_of_movedPath (hoff p hp) (hoff q hq)

theorem isDistinct_rename (h : disk.IsDistinct) {source destination : Path}
    (hrename : disk.rename source destination = .ok changed) : changed.IsDistinct := by
  obtain ⟨⟨sourceDirectory, sourceName, node⟩, -, hrename⟩ := exists_of_bind_eq_ok hrename
  obtain ⟨⟨made, directory, name⟩, hmade, hrename⟩ := exists_of_bind_eq_ok hrename
  have hdistinct := isDistinct_makeParent h hmade
  simp only at hrename
  split at hrename
  · exact Except.ok.inj hrename ▸ hdistinct
  split at hrename
  · exact Except.ok.inj hrename ▸ hdistinct.moved _ _ _
  · cases hrename

theorem isDistinct_apply (h : disk.IsDistinct) {change : Change}
    (happly : disk.apply change = .ok changed) : changed.IsDistinct := by
  cases change with
  | write path contents modified => exact isDistinct_write h happly
  | makeDirectory path =>
    cases hmade : disk.makeDirectories [] path with
    | error fault =>
      rw [apply, makeDirectory, hmade] at happly
      cases happly
    | ok made =>
      rw [apply, makeDirectory, hmade] at happly
      exact Except.ok.inj happly ▸ isDistinct_makeDirectories h hmade
  | makeLink path target =>
    obtain ⟨⟨made, directory, name⟩, hmade, hput⟩ := exists_of_bind_eq_ok happly
    exact isDistinct_put (isDistinct_makeParent h hmade) hput
  | setAccess path access =>
    obtain ⟨place, -, hset⟩ := exists_of_bind_eq_ok happly
    obtain rfl := Except.ok.inj hset
    exact h.map fun entry => path_replaced _ _ entry
  | remove path => exact isDistinct_remove h happly
  | rename source destination => exact isDistinct_rename h happly

/-- In a file system that is made by changes no two entries are at one path. -/
theorem isDistinct_applyAll {changes : List Change} (h : disk.IsDistinct)
    (happly : disk.applyAll changes = .ok changed) : changed.IsDistinct := by
  induction changes generalizing disk with
  | nil => exact Except.ok.inj happly ▸ h
  | cons change changes ih =>
    obtain ⟨next, hnext, hrest⟩ := exists_of_bind_eq_ok happly
    exact ih (isDistinct_apply h hnext) hrest

/-- A file system that is made by changes does not depend on the order of its entries, but for the
order in which directories are enumerated. -/
theorem reorders_of_applyAll {changes : List Change} (happly : empty.applyAll changes = .ok disk)
    {other : Disk} (hperm : other.entries.Perm disk.entries) : disk.Reorders other :=
  reorders_of_perm hperm (isDistinct_applyAll isDistinct_empty happly)

/-- Where no two entries are at one path, each is found at its own. -/
theorem IsDistinct.node?_of_mem (h : disk.IsDistinct) {entry : Entry}
    (hentry : entry ∈ disk.entries) : disk.node? entry.path = some entry.node := by
  have hne : entry.path ≠ [] := by simp [Entry.path]
  cases hnode : disk.node? entry.path with
  | none =>
    rw [node?, if_neg hne, Option.map_eq_none_iff, List.find?_eq_none] at hnode
    exact absurd (decide_eq_true rfl) (hnode entry hentry)
  | some found =>
    obtain ⟨other, hother, hpath, rfl⟩ := exists_entry_of_node? hne hnode
    rw [List.inj_on_of_nodup_map h hother hentry hpath]

/-- Where no two entries are at one path, a directory lists what is found in it. -/
theorem IsDistinct.mem_children_iff (h : disk.IsDistinct) {directory : Path} {name : Name}
    {node : Node} : ⟨directory, name, node⟩ ∈ disk.children directory ↔
      disk.node? (directory ++ [name]) = some node := by
  rw [mem_children]
  constructor
  · rintro ⟨hentry, -⟩
    exact h.node?_of_mem hentry
  · intro hnode
    obtain ⟨⟨parent, other, found⟩, hentry, hpath, rfl⟩ := exists_entry_of_node? (by simp) hnode
    obtain ⟨rfl, hname⟩ := List.append_inj' hpath rfl
    obtain rfl : other = name := List.singleton_inj.1 hname
    exact ⟨hentry, rfl⟩

/-! ## Writing a file -/

variable {path directory real : Path} {access : Access} {file : File} {names : List Name}
  {name : Name} {place : Place}

/-- A name is looked up as the last step of a way that leads somewhere. -/
theorem lookUp_of_walk (hdirectory : disk.IsReachable ⟨directory, .directory access⟩)
    (h : disk.walk .whole maxLinks ⟨directory, .directory access⟩ [.enter name] = .ok place) :
    disk.lookUp directory name = .ok place := by
  rw [lookUp, hdirectory.node]
  exact h

/-- Where directories can be gone through, none are made. -/
theorem makeDirectories_of_walk {other : Access}
    (hdirectory : disk.IsReachable ⟨directory, .directory access⟩)
    (h : disk.walk .whole maxLinks ⟨directory, .directory access⟩ (names.map .enter) =
      .ok ⟨real, .directory other⟩) : disk.makeDirectories directory names = .ok (disk, real) := by
  induction names generalizing directory access with
  | nil =>
    rw [List.map_nil, walk_nil] at h
    obtain ⟨rfl, -⟩ := Place.mk.inj (Except.ok.inj h)
    rfl
  | cons name names ih =>
    obtain ⟨⟨next, object⟩, hnext, hrest⟩ :=
      @exists_of_walk_append disk _ [.enter name] _ _ _ _ h
    have hreach : disk.IsReachable ⟨next, object⟩ := holds_of_walk
      (fun _ _ _ => isReachable_of_take) (isReachable_top disk) hdirectory hnext
    cases object with
    | file file => cases (eq_of_walk_file hrest).2
    | directory access =>
      rw [makeDirectories, lookUp_of_walk hdirectory hnext]
      exact ih hreach hrest

/-- An existing file is written where it really is, and nothing else is done. -/
theorem write_of_resolve (h : disk.resolve path = .ok ⟨real, .file file⟩) (contents : Bytes)
    (modified : Instant) :
    ∃ directory name, real = directory ++ [name] ∧ disk.write path contents modified =
      if file.access.write then
        .ok (disk.set directory name (.object (.file ⟨file.access, modified, contents⟩)))
      else .error .permissionDenied := by
  have hreal := (isReal_of_resolve h).node
  obtain ⟨-, hwalk⟩ := walk_of_resolve h
  obtain rfl | ⟨names, name, rfl⟩ := List.eq_nil_or_concat' path
  · rw [List.map_nil, walk_nil] at hwalk
    cases hwalk
  rw [List.map_append] at hwalk
  obtain ⟨⟨directory, object⟩, hdirectory, hlast⟩ := exists_of_walk_append hwalk
  have hreach : disk.IsReachable ⟨directory, object⟩ := holds_of_walk
    (fun _ _ _ => isReachable_of_take) (isReachable_top disk) (isReachable_top disk) hdirectory
  cases object with
  | file => cases (eq_of_walk_file hlast).1
  | directory access =>
    have hparent : disk.makeParent (names ++ [name]) = .ok (disk, directory, name) := by
      have hmade : disk.makeDirectories [] names = .ok (disk, directory) :=
        makeDirectories_of_walk (isReachable_top disk) hdirectory
      unfold makeParent
      rw [List.getLast?_concat, List.dropLast_concat]
      simp only [hmade]
      rfl
    have hfound := lookUp_of_walk hreach hlast
    obtain rfl | ⟨above, last, rfl⟩ := List.eq_nil_or_concat' real
    · cases hreal
    refine ⟨above, last, rfl, ?_⟩
    unfold write
    rw [hparent]
    simp only [bind, Except.bind, hfound, List.dropLast_concat, List.getLastD_concat]
    rfl

theorem entries_set_of_node? {node found : Node}
    (hfound : disk.node? (directory ++ [name]) = some found) :
    (disk.set directory name node).entries = disk.entries.map fun entry =>
      if entry.path = directory ++ [name] then { entry with node } else entry := by
  obtain ⟨entry, hentry, hpath, -⟩ := exists_entry_of_node? (by simp) hfound
  have hany : disk.entries.any (·.path = directory ++ [name]) :=
    List.any_eq_true.2 ⟨entry, hentry, decide_eq_true hpath⟩
  rw [set, if_pos hany]

/-- A node that is replaced by one of the same outline leaves the outline of everything. -/
theorem outline_set (h : disk.IsDistinct) {node found : Node}
    (hfound : disk.node? (directory ++ [name]) = some found)
    (houtline : node.outline = found.outline) :
    (disk.set directory name node).entries.map Entry.outline = disk.entries.map Entry.outline := by
  rw [entries_set_of_node? hfound, List.map_map]
  refine List.map_congr_left fun entry hentry => ?_
  by_cases hpath : entry.path = directory ++ [name]
  · have hnode : entry.node = found :=
      Option.some.inj ((h.node?_of_mem hentry).symm.trans (hpath ▸ hfound))
    rw [Function.comp_apply, if_pos hpath, Entry.outline, Entry.outline, houtline, hnode]
  · rw [Function.comp_apply, if_neg hpath]

theorem filter_set {root : Path} {node found : Node}
    (hfound : disk.node? (directory ++ [name]) = some found)
    (houtside : ¬ root <+: directory ++ [name]) :
    (disk.set directory name node).entries.filter (root.isPrefixOf ·.path) =
      disk.entries.filter (root.isPrefixOf ·.path) := by
  have hkeeps : ∀ entry : Entry, root.isPrefixOf entry.path →
      (if entry.path = directory ++ [name] then { entry with node } else entry) = entry :=
    fun entry hbelow => if_neg fun hat : entry.path = directory ++ [name] =>
      houtside (hat ▸ List.isPrefixOf_iff_prefix.1 hbelow)
  have hpath : ((root.isPrefixOf ·.path) ∘ fun entry : Entry =>
      if entry.path = directory ++ [name] then { entry with node } else entry) =
        (root.isPrefixOf ·.path) := by
    funext entry
    rw [Function.comp_apply, path_replaced]
  rw [entries_set_of_node? hfound, List.filter_map, hpath]
  refine (List.map_congr_left fun entry hentry => ?_).trans (List.map_id _)
  exact hkeeps entry (List.mem_filter.1 hentry).2

variable {root other : Path} {contents : Bytes} {modified : Instant}

theorem outline_written (file : File) (modified : Instant) (contents : Bytes) :
    (Node.object (.file ⟨file.access, modified, contents⟩)).outline =
      (Node.object (.file file)).outline := rfl

/-- What is written to a file that is not below a root changes nothing but the data of that file. -/
theorem agreesWithin_of_write (h : disk.IsDistinct)
    (hplace : disk.resolve path = .ok ⟨real, .file file⟩) (houtside : ¬ root <+: real)
    (hwrite : disk.write path contents modified = .ok changed) :
    AgreesWithin root disk changed := by
  have hfound := (isReal_of_resolve hplace).node
  obtain ⟨directory, name, rfl, hdone⟩ := write_of_resolve hplace contents modified
  rw [hdone] at hwrite
  split at hwrite
  · obtain rfl := Except.ok.inj hwrite
    exact agreesWithin_of_entries (outline_set h hfound (outline_written file _ _)).symm
      (filter_set hfound houtside).symm
  · cases hwrite

/-- After a file was written, the new data are where the old ones were. -/
theorem resolve_of_write (h : disk.IsDistinct)
    (hplace : disk.resolve path = .ok ⟨real, .file file⟩)
    (hwrite : disk.write path contents modified = .ok changed)
    (hother : disk.resolve other = .ok ⟨real, .file file⟩) :
    changed.resolve other = .ok ⟨real, .file ⟨file.access, modified, contents⟩⟩ := by
  have hfound := (isReal_of_resolve hplace).node
  obtain ⟨directory, name, rfl, hdone⟩ := write_of_resolve hplace contents modified
  rw [hdone] at hwrite
  split at hwrite
  · obtain rfl := Except.ok.inj hwrite
    have houtline := sameOutline_of_entries
      (outline_set h hfound (outline_written file modified contents)).symm
    obtain ⟨fault, hnone, -⟩ | ⟨p, ⟨real, object⟩, hp, hq, hpq⟩ :=
      cases_of_map_eq (houtline.outline_resolve other)
    · cases hnone.symm.trans hother
    · obtain rfl := Except.ok.inj (hp.symm.trans hother)
      obtain rfl : directory ++ [name] = real := (Place.outline_eq hpq).1
      have hnode := (isReal_of_resolve hq).node
      rw [node?_set] at hnode
      rw [hq, Node.object.inj (Option.some.inj hnode)]
  · cases hwrite

end FileServer.Disk
