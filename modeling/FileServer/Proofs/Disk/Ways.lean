import FileServer.Disk.Walk
import Mathlib.Data.List.Nodup

/-!
# Ways that go on, and what they depend on

A way that fails does so however it goes on, and one that leads somewhere goes on from there. What
is at a path is all that a way depends on. In which order directories are enumerated has no
influence on it.

* `canonical_append_of_error`: what a path fails for, a longer path fails for;
* `walk_append_of_ok`: a longer way goes on from where the shorter one leads;
* `walk_of_le`: with more links to follow a way leads to the same place;
* `exists_of_walk_append`: a way that leads somewhere can be gone in two parts;
* `eq_of_walk_file`: no way leads on from a file;
* `eq_of_resolve_append`: from a directory a name leads to the entry itself, if to anything;
* `Reorders.resolve_eq`, `Reorders.canonical_eq`: file systems that differ in the order of
  enumeration only lead to the same places;
* `reorders_of_perm`: so do lists of entries in another order, if no two of them are at one path.
-/

namespace FileServer.Disk

variable {disk : Disk} {manner : Manner} {steps more : List Step} {place : Place} {fault : Fault}

/-! ## Ways that fail -/

theorem walkWith_append_of_error {follow again : Place → Bytes → List Step → Except Fault Place}
    (hfollow : ∀ place target steps, follow place target steps = .error fault →
      again place target (steps ++ more) = .error fault)
    (h : disk.walkWith manner follow place steps = .error fault) :
    disk.walkWith manner again place (steps ++ more) = .error fault := by
  induction steps generalizing place with
  | nil => cases h
  | cons step steps ih =>
    rw [List.cons_append]
    unfold walkWith at h ⊢
    split at h
    · exact h
    · exact ih h
    · exact hfollow _ _ _ h

/-- A way that fails does so however it goes on. -/
theorem walk_append_of_error {links : Nat} (h : disk.walk manner links place steps = .error fault)
    (more : List Step) : disk.walk manner links place (steps ++ more) = .error fault := by
  induction links generalizing place steps with
  | zero => exact walkWith_append_of_error (fun _ _ _ hlink => hlink) h
  | succ links ih =>
    refine walkWith_append_of_error (fun place target steps hlink => ?_) h
    rw [← List.append_assoc]
    exact ih hlink

theorem canonical_append_of_error {path names : Path}
    (hplain : (path ++ names).any (·.contains 0) = false)
    (h : disk.canonical path = .error fault) : disk.canonical (path ++ names) = .error fault := by
  have hpath : path.any (·.contains 0) = false := by
    rw [List.any_append, Bool.or_eq_false_iff] at hplain
    exact hplain.1
  simp only [canonical, hpath, hplain, Bool.false_eq_true, if_false, List.map_append] at h ⊢
  exact walk_append_of_error h _

/-! ## Ways that lead somewhere -/

theorem walk_of_resolve {path : Path} (h : disk.resolve path = .ok place) :
    path.any (·.contains 0) = false ∧
      disk.walk .whole maxLinks .top (path.map .enter) = .ok place := by
  unfold resolve at h
  split at h
  · cases h
  · next hplain =>
    split at h
    · cases h
    · exact ⟨Bool.eq_false_iff.2 hplain, h⟩

/-- A way goes on from where it leads, or from where the first link on it leads. -/
theorem walkWith_append_of_ok {follow : Place → Bytes → List Step → Except Fault Place}
    {last : Place} (h : disk.walkWith manner follow place steps = .ok last) (more : List Step) :
    disk.walkWith manner follow place (steps ++ more) = disk.walkWith manner follow last more ∨
      ∃ directory target rest, follow directory target rest = .ok last ∧
        disk.walkWith manner follow place (steps ++ more) =
          follow directory target (rest ++ more) := by
  induction steps generalizing place with
  | nil =>
    obtain rfl := Except.ok.inj h
    exact .inl rfl
  | cons step steps ih =>
    rw [List.cons_append]
    rw [walkWith] at h ⊢
    split at h
    · cases h
    · exact ih h
    · exact .inr ⟨_, _, _, h, rfl⟩

/-- A longer way goes on from where the shorter one leads, with the links that are left. -/
theorem walk_append_of_ok {links : Nat} {last : Place}
    (h : disk.walk manner links place steps = .ok last) (more : List Step) :
    ∃ left ≤ links,
      disk.walk manner links place (steps ++ more) = disk.walk manner left last more := by
  induction links generalizing place steps with
  | zero =>
    obtain hon | ⟨_, _, _, hlink, -⟩ := walkWith_append_of_ok h more
    · exact ⟨0, Nat.le_refl _, hon⟩
    · cases hlink
  | succ links ih =>
    obtain hon | ⟨directory, target, rest, hlink, hon⟩ := walkWith_append_of_ok h more
    · exact ⟨links + 1, Nat.le_refl _, hon⟩
    · obtain ⟨left, hle, hleft⟩ := ih hlink
      refine ⟨left, Nat.le_succ_of_le hle, hon.trans ?_⟩
      rw [← hleft, List.append_assoc]

/-! ## Ways in parts -/

section

variable {links more : Nat} {last : Place} {rest : List Step}

theorem walkWith_of_follow {follow again : Place → Bytes → List Step → Except Fault Place}
    (hfollow : ∀ place target steps last, follow place target steps = .ok last →
      again place target steps = .ok last)
    (h : disk.walkWith manner follow place steps = .ok last) :
    disk.walkWith manner again place steps = .ok last := by
  induction steps generalizing place with
  | nil => exact h
  | cons step steps ih =>
    rw [walkWith] at h ⊢
    split at h
    · cases h
    · exact ih h
    · exact hfollow _ _ _ _ h

/-- A way that leads somewhere does so with more links to follow. -/
theorem walk_of_le (hle : links ≤ more) (h : disk.walk manner links place steps = .ok last) :
    disk.walk manner more place steps = .ok last := by
  induction more generalizing links place steps last with
  | zero =>
    obtain rfl := Nat.le_zero.1 hle
    exact h
  | succ more ih =>
    cases links with
    | zero => exact walkWith_of_follow (fun _ _ _ _ hlink => by cases hlink) h
    | succ links =>
      exact walkWith_of_follow (fun _ _ _ _ hlink => ih (Nat.le_of_succ_le_succ hle) hlink) h

/-- A way that leads somewhere can be made in two parts. -/
theorem exists_of_walk_append (h : disk.walk manner links place (steps ++ rest) = .ok last) :
    ∃ mid, disk.walk manner links place steps = .ok mid ∧
      disk.walk manner links mid rest = .ok last := by
  cases hmid : disk.walk manner links place steps with
  | error fault =>
    rw [walk_append_of_error hmid] at h
    cases h
  | ok mid =>
    obtain ⟨left, hle, hleft⟩ := walk_append_of_ok hmid rest
    exact ⟨mid, rfl, walk_of_le hle (hleft ▸ h)⟩

theorem walk_nil (disk : Disk) (manner : Manner) (links : Nat) (place : Place) :
    disk.walk manner links place [] = .ok place := by
  cases links <;> rfl

theorem take_file_ne_ok {path : Path} {file : File} {step : Step} {arrival : Arrival} :
    disk.take manner ⟨path, .file file⟩ step ≠ .ok arrival := by
  intro h
  unfold take at h
  split at h
  · cases h
  · cases h

/-- No way leads on from a file. -/
theorem eq_of_walk_file {path : Path} {file : File}
    (h : disk.walk manner links ⟨path, .file file⟩ steps = .ok last) :
    steps = [] ∧ last = ⟨path, .file file⟩ := by
  cases steps with
  | nil =>
    rw [walk_nil] at h
    exact ⟨rfl, (Except.ok.inj h).symm⟩
  | cons step steps =>
    have hstep : ∀ follow,
        disk.walkWith manner follow ⟨path, .file file⟩ (step :: steps) ≠ .ok last := by
      intro follow h
      rw [walkWith] at h
      split at h
      · cases h
      · next htake => exact take_file_ne_ok htake
      · next htake => exact take_file_ne_ok htake
    cases links with
    | zero => exact absurd h (hstep _)
    | succ links => exact absurd h (hstep _)

end

/-! ## Names of entries -/

theorem eq_of_take_enter {real : Path} {access : Access} {name : Name} {object : Object}
    {arrival : Arrival} (hnode : disk.node? (real ++ [name]) = some (.object object))
    (h : disk.take .whole ⟨real, .directory access⟩ (.enter name) = .ok arrival) :
    arrival = .place ⟨real ++ [name], object⟩ := by
  obtain ⟨node, henters, rfl⟩ := take_enter_iff.1 h
  obtain rfl : node = .object object := Option.some.inj (henters.node.symm.trans hnode)
  rfl

theorem eq_of_walk_enter {links : Nat} {real : Path} {access : Access} {name : Name}
    {object : Object} (hnode : disk.node? (real ++ [name]) = some (.object object))
    (h : disk.walk .whole links ⟨real, .directory access⟩ [.enter name] = .ok place) :
    place = ⟨real ++ [name], object⟩ := by
  have hwith : ∀ follow, disk.walkWith .whole follow ⟨real, .directory access⟩ [.enter name] =
      .ok place → place = ⟨real ++ [name], object⟩ := by
    intro follow h
    rw [walkWith] at h
    cases htake : disk.take .whole ⟨real, .directory access⟩ (.enter name) with
    | error fault =>
      rw [htake] at h
      cases h
    | ok arrival =>
      obtain rfl := eq_of_take_enter hnode htake
      rw [htake] at h
      exact (Except.ok.inj h).symm
  cases links with
  | zero => exact hwith _ h
  | succ links => exact hwith _ h

/-- From a directory a name leads to the entry itself, if it leads anywhere and is no link. -/
theorem eq_of_resolve_append {path real : Path} {access : Access} {name : Name} {object : Object}
    (hdirectory : disk.resolve path = .ok ⟨real, .directory access⟩)
    (hnode : disk.node? (real ++ [name]) = some (.object object))
    (h : disk.resolve (path ++ [name]) = .ok place) : place = ⟨real ++ [name], object⟩ := by
  obtain ⟨-, hdirectory⟩ := walk_of_resolve hdirectory
  obtain ⟨-, h⟩ := walk_of_resolve h
  obtain ⟨left, -, hleft⟩ := walk_append_of_ok hdirectory [.enter name]
  rw [List.map_append, List.map_singleton, hleft] at h
  exact eq_of_walk_enter hnode h

/-! ## Orders of enumeration -/

/-- Whether two file systems have the same entries in every directory, in orders that may differ. -/
structure Reorders (a b : Disk) : Prop where
  node? : ∀ path, b.node? path = a.node? path
  children : ∀ directory, (b.children directory).Perm (a.children directory)

variable {a b : Disk}

/-- One step depends on nothing but what is at paths. -/
theorem take_congr (h : ∀ path, b.node? path = a.node? path) (manner : Manner) (place : Place)
    (step : Step) : b.take manner place step = a.take manner place step := by
  simp only [take, enter, above, h]

theorem walkWith_congr (h : ∀ path, b.node? path = a.node? path) (manner : Manner)
    (follow : Place → Bytes → List Step → Except Fault Place) (place : Place)
    (steps : List Step) :
    b.walkWith manner follow place steps = a.walkWith manner follow place steps := by
  induction steps generalizing place with
  | nil => rfl
  | cons step steps ih =>
    simp only [walkWith, take_congr h, ih]

theorem walk_congr (h : ∀ path, b.node? path = a.node? path) (manner : Manner) (links : Nat)
    (place : Place) (steps : List Step) :
    b.walk manner links place steps = a.walk manner links place steps := by
  induction links generalizing place steps with
  | zero => exact walkWith_congr h manner _ place steps
  | succ links ih => simp only [walk, walkWith_congr h, ih]

theorem Reorders.resolve_eq (h : Reorders a b) (path : Path) : b.resolve path = a.resolve path := by
  simp only [resolve, walk_congr h.node?]

theorem Reorders.canonical_eq (h : Reorders a b) (path : Path) :
    b.canonical path = a.canonical path := by
  simp only [canonical, walk_congr h.node?]

theorem find?_path_of_perm {es fs : List Entry} (h : fs.Perm es)
    (hdistinct : (es.map Entry.path).Nodup) (path : Path) :
    fs.find? (·.path = path) = es.find? (·.path = path) := by
  cases hes : es.find? (·.path = path) with
  | none =>
    rw [List.find?_eq_none] at hes ⊢
    exact fun entry hentry => hes entry (h.mem_iff.1 hentry)
  | some entry =>
    have hentry := List.mem_of_find?_eq_some hes
    have hpath : entry.path = path := by simpa using List.find?_some hes
    cases hfs : fs.find? (·.path = path) with
    | none => simpa [hpath] using List.find?_eq_none.1 hfs entry (h.mem_iff.2 hentry)
    | some other =>
      have hother := h.mem_iff.1 (List.mem_of_find?_eq_some hfs)
      have hsame : other.path = path := by simpa using List.find?_some hfs
      rw [List.inj_on_of_nodup_map hdistinct hother hentry (hsame.trans hpath.symm)]

/-- Entries in another order are the same file system, if no two of them are at one path. -/
theorem reorders_of_perm (h : b.entries.Perm a.entries)
    (hdistinct : (a.entries.map Entry.path).Nodup) : Reorders a b := by
  refine ⟨fun path => ?_, fun directory => h.filter _⟩
  unfold node?
  split
  · rfl
  · rw [find?_path_of_perm h hdistinct]

end FileServer.Disk
