import FileServer.Disk.Walk

/-!
# Real paths are followed again

Where a way leads to can be reached by its real path as well: every directory on that path was
searched on the way, and no name in it is too long. Nor is the path, if it was built up on the way.
A path that goes through no link is itself the real path of what it leads to.

* `length_bytes_le_of_canonicalFrom`: a path that was built up is short enough to be followed;
* `walk_of_isReachable`: the path of a place that can be reached leads to it, in either manner;
* `path_of_walk`: a way through no link ends at the path that was followed;
* `canonical_of_hasNoLink`: so a path without links is found to be real.
-/

namespace FileServer

theorem Path.length_bytes_le_of_prefix {path longer : Path} (h : path <+: longer) :
    path.bytes.length ≤ longer.bytes.length := by
  obtain ⟨more, rfl⟩ := h
  cases path with
  | nil =>
    cases more with
    | nil => exact Nat.le_refl _
    | cons name more => simp [bytes]
  | cons name path => simp [bytes]

namespace Disk

variable {disk : Disk} {manner : Manner} {place next result : Place} {step : Step}

/-! ## Lengths -/

/-- A path that is built up on the way does not get too long. -/
theorem length_bytes_le_of_take (hplace : place.path.bytes.length ≤ maxPath)
    (h : disk.take .stepwise place step = .ok (.place next)) :
    next.path.bytes.length ≤ maxPath := by
  obtain rfl | ⟨hpath, -⟩ | ⟨name, henters, hpath⟩ := take_cases h
  · exact hplace
  · rw [hpath]
    exact Nat.le_trans (Path.length_bytes_le_of_prefix (List.dropLast_prefix _)) hplace
  · rw [hpath]
    exact henters.path_le rfl

/-- A written path leads to a place whose path is not too long. -/
theorem length_bytes_le_of_canonicalFrom {directory : Path} {written : Bytes}
    (h : disk.canonicalFrom directory written = .ok place) :
    place.path.bytes.length ≤ maxPath :=
  holds_of_canonicalFrom (fun place => place.path.bytes.length ≤ maxPath)
    (fun _ _ _ => length_bytes_le_of_take) (by decide) h

/-! ## Real paths -/

/-- A name on the path of a place that can be reached is entered. -/
theorem IsReachable.take_enter (hplace : disk.IsReachable place)
    (hpath : place.path.bytes.length ≤ maxPath) (manner : Manner) {front : Path} {name : Name}
    {object : Object} (hname : front ++ [name] <+: place.path)
    (hobject : disk.node? front = some (.object object)) :
    ∃ next, disk.node? (front ++ [name]) = some (.object next) ∧
      disk.take manner ⟨front, object⟩ (.enter name) = .ok (.place ⟨front ++ [name], next⟩) := by
  obtain ⟨hlength, access, hdirectory, hsearch⟩ := hplace.entered front name hname
  obtain rfl : object = .directory access := by
    rw [hobject] at hdirectory
    exact Node.object.inj (Option.some.inj hdirectory)
  -- The name leads to the place itself, or to one more directory on its path.
  obtain ⟨next, hnext⟩ : ∃ next, disk.node? (front ++ [name]) = some (.object next) := by
    obtain ⟨rest, hrest⟩ := hname
    cases rest with
    | nil => exact ⟨place.object, by rw [← hplace.node, ← hrest, List.append_nil]⟩
    | cons other rest =>
      obtain ⟨-, access, hdirectory, -⟩ := hplace.entered (front ++ [name]) other
        ⟨rest, by rw [List.append_assoc]; exact hrest⟩
      exact ⟨_, hdirectory⟩
  have hshort : (Path.bytes (front ++ [name])).length ≤ maxPath :=
    Nat.le_trans (Path.length_bytes_le_of_prefix hname) hpath
  exact ⟨next, hnext, take_enter_iff.2
    ⟨.object next, ⟨⟨access, rfl, hsearch⟩, hlength, hnext, fun _ => hshort⟩, rfl⟩⟩

theorem IsReachable.walkWith (hplace : disk.IsReachable place)
    (hpath : place.path.bytes.length ≤ maxPath)
    {follow : Place → Bytes → List Step → Except Fault Place} {front names : Path}
    {object : Object} (hnames : front ++ names = place.path)
    (hobject : disk.node? front = some (.object object)) :
    disk.walkWith manner follow ⟨front, object⟩ (names.map .enter) = .ok place := by
  induction names generalizing front object with
  | nil =>
    rw [List.append_nil] at hnames
    rw [hnames, hplace.node] at hobject
    obtain rfl := Node.object.inj (Option.some.inj hobject)
    subst hnames
    rfl
  | cons name names ih =>
    rw [List.append_cons] at hnames
    obtain ⟨next, hnext, htake⟩ := hplace.take_enter hpath manner ⟨names, hnames⟩ hobject
    rw [List.map_cons, Disk.walkWith, htake]
    exact ih hnames hnext

/-- The path of a place that can be reached leads to it, in either manner. -/
theorem walk_of_isReachable (hplace : disk.IsReachable place)
    (hpath : place.path.bytes.length ≤ maxPath) (links : Nat) :
    disk.walk manner links .top (place.path.map .enter) = .ok place := by
  cases links with
  | zero => exact hplace.walkWith hpath rfl rfl
  | succ links => exact hplace.walkWith hpath rfl rfl

/-- A real path is found to be one, if it can be written. -/
theorem resolve_path_of_isReachable (hplace : disk.IsReachable place)
    (hpath : place.path.bytes.length ≤ maxPath) (hplain : ∀ name ∈ place.path, 0 ∉ name) :
    disk.resolve place.path = .ok place ∧ disk.canonical place.path = .ok place := by
  have hnul : ¬ place.path.any (·.contains 0) := by
    simpa using hplain
  rw [resolve, canonical, if_neg hnul, if_neg hnul, if_neg (Nat.not_lt_of_le hpath)]
  exact ⟨walk_of_isReachable hplace hpath maxLinks, walk_of_isReachable hplace hpath maxLinks⟩

/-! ## Paths without links -/

/-- Whether no name of a path stands for another path. -/
def HasNoLink (disk : Disk) (path : Path) : Prop :=
  ∀ directory name target, directory ++ [name] <+: path →
    disk.node? (directory ++ [name]) ≠ some (.link target)

theorem IsReal.hasNoLink (h : disk.IsReal place) : disk.HasNoLink place.path := by
  intro directory name target hname hlink
  obtain ⟨rest, hrest⟩ := hname
  cases rest with
  | nil =>
    rw [List.append_nil] at hrest
    rw [hrest, h.node] at hlink
    cases hlink
  | cons other rest =>
    obtain ⟨access, hdirectory⟩ := h.directories (directory ++ [name]) other
      ⟨rest, by rw [List.append_assoc]; exact hrest⟩
    rw [hlink] at hdirectory
    cases hdirectory

/-- A path that goes on without a link from one that has none. -/
theorem HasNoLink.append {path names : Path} (h : disk.HasNoLink path)
    (hnames : ∀ front name target, front ++ [name] <+: names →
      disk.node? (path ++ front ++ [name]) ≠ some (.link target)) :
    disk.HasNoLink (path ++ names) := by
  intro directory name target hname
  obtain hbefore | hbehind := List.prefix_or_prefix_of_prefix hname (List.prefix_append path names)
  · exact h directory name target hbefore
  · obtain heq | ⟨front, rfl⟩ := List.prefix_concat_iff.1 hbehind
    · exact h directory name target (heq ▸ List.prefix_refl _)
    · rw [List.append_assoc, List.prefix_append_right_inj] at hname
      exact hnames front name target hname

theorem path_of_walkWith {follow : Place → Bytes → List Step → Except Fault Place} {names : Path}
    (hlinks : disk.HasNoLink (place.path ++ names))
    (h : disk.walkWith manner follow place (names.map .enter) = .ok result) :
    result.path = place.path ++ names := by
  induction names generalizing place with
  | nil => rw [← Except.ok.inj h, List.append_nil]
  | cons name names ih =>
    rw [List.append_cons] at hlinks ⊢
    rw [List.map_cons, Disk.walkWith] at h
    cases htake : disk.take manner place (.enter name) with
    | error fault =>
      rw [htake] at h
      cases h
    | ok arrival =>
      obtain ⟨node, henters, rfl⟩ := take_enter_iff.1 htake
      rw [htake] at h
      cases node with
      | object object => exact ih hlinks h
      | link target => exact absurd henters.node (hlinks _ _ _ (List.prefix_append _ _))

/-- A way through no link ends at the path that was followed. -/
theorem path_of_walk {links : Nat} {path : Path} (hlinks : disk.HasNoLink path)
    (h : disk.walk manner links .top (path.map .enter) = .ok result) : result.path = path := by
  cases links with
  | zero => exact path_of_walkWith hlinks h
  | succ links => exact path_of_walkWith hlinks h

/-- A path that goes through no link is found to be real. -/
theorem canonical_of_hasNoLink {path : Path} (hlinks : disk.HasNoLink path)
    (h : disk.resolve path = .ok place) : place.path = path ∧ disk.canonical path = .ok place := by
  have hplace := isReachable_of_resolve h
  unfold resolve at h
  split at h
  · cases h
  next hplain =>
  split at h
  · cases h
  next hshort =>
  obtain rfl := path_of_walk hlinks h
  refine ⟨rfl, ?_⟩
  rw [canonical, if_neg hplain]
  exact walk_of_isReachable hplace (Nat.le_of_not_lt hshort) maxLinks

end Disk

end FileServer
