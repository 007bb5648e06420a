import FileServer.Disk.Walk

/-!
# Real paths that are too long to be found

Where a path leads to is found as a whole before its real path is built up on the way. The second
walk takes the same steps to the same places. It can only be refused a look at an entry whose own
path is too long, which a link may have led to by a short one: then there is such an entry
(`IsDeep`).

* `take_stepwise`: the one way in which a step can fail that was made before;
* `isDeep_of_isTooFar`: it takes an entry at a path that is too long;
* `walk_stepwise`: a way that was gone is gone again, or such an entry is on it;
* `canonical_of_resolve`: so where a path leads to has a real path that is found.
-/

namespace FileServer.Disk

/-- Whether there is an entry at a path of the greatest length or a longer one. -/
def IsDeep (disk : Disk) : Prop := ∃ entry ∈ disk.entries, maxPath ≤ entry.path.bytes.length

instance (disk : Disk) : Decidable disk.IsDeep :=
  inferInstanceAs (Decidable (∃ entry ∈ disk.entries, _))

/-- What is found on a way that was gone to a place before: the place, unless a path is too long. -/
def IsFoundAgain (disk : Disk) (found : Except Fault Place) (place : Place) : Prop :=
  found = .ok place ∨ found = .error .nameTooLong ∧ disk.IsDeep

variable {disk : Disk} {place : Place} {step : Step}

theorem isDeep_of_node? {path : Path} {node : Node} (h : disk.node? path = some node)
    (hlong : maxPath ≤ path.bytes.length) : disk.IsDeep := by
  have hpath : path ≠ [] := by
    rintro rfl
    exact absurd hlong (by decide)
  obtain ⟨entry, hentry, rfl, -⟩ := exists_entry_of_node? hpath h
  exact ⟨entry, hentry, hlong⟩

/-- A step that was made in a whole path can be made stepwise, unless it leads too far. -/
theorem take_stepwise {arrival : Arrival} (h : disk.take .whole place step = .ok arrival) :
    disk.take .stepwise place step =
      if isTooFar place step then .error .nameTooLong else .ok arrival := by
  obtain ⟨path, object⟩ := place
  simp only [take, reduceCtorEq, false_and, if_false, false_or, true_and, true_or, if_true] at h ⊢
  split
  · rfl
  · cases object with
    | file => cases h
    | directory access =>
      cases step with
      | slash | enter => exact h
      | stay | up =>
        simp only at h ⊢
        split at h
        · exact h
        · cases h

/-- A step that was made leads too far only where an entry is at a path that is too long. -/
theorem isDeep_of_isTooFar {arrival : Arrival} (hplace : disk.IsReachable place)
    (h : disk.take .whole place step = .ok arrival) (hfar : isTooFar place step) :
    disk.IsDeep := by
  cases step with
  | enter name =>
    obtain ⟨node, henters, -⟩ := take_enter_iff.1 h
    exact isDeep_of_node? henters.node (Nat.le_of_lt (of_decide_eq_true hfar))
  | stay | up | slash => exact isDeep_of_node? hplace.node (of_decide_eq_true hfar)

/-! ## Ways -/

theorem walkWith_stepwise {follow again : Place → Bytes → List Step → Except Fault Place}
    (hfollow : ∀ place target steps result, disk.IsReachable place →
      follow place target steps = .ok result →
        disk.IsFoundAgain (again place target steps) result)
    {steps : List Step} {result : Place} (hplace : disk.IsReachable place)
    (h : disk.walkWith .whole follow place steps = .ok result) :
    disk.IsFoundAgain (disk.walkWith .stepwise again place steps) result := by
  induction steps generalizing place with
  | nil => exact .inl h
  | cons step steps ih =>
    rw [walkWith] at h ⊢
    cases htake : disk.take .whole place step with
    | error fault =>
      rw [htake] at h
      cases h
    | ok arrival =>
      rw [htake] at h
      rw [take_stepwise htake]
      by_cases hfar : isTooFar place step
      · rw [if_pos hfar]
        exact .inr ⟨rfl, isDeep_of_isTooFar hplace htake hfar⟩
      · -- the step was made again, and the way goes on from the same place or the same link
        rw [if_neg hfar]
        cases arrival with
        | place next => exact ih (isReachable_of_take hplace htake) h
        | link target => exact hfollow place target steps result hplace h

/-- A way that was gone as a whole can be gone stepwise, unless an entry on it is too deep. -/
theorem walk_stepwise {links : Nat} {steps : List Step} {result : Place}
    (hplace : disk.IsReachable place) (h : disk.walk .whole links place steps = .ok result) :
    disk.IsFoundAgain (disk.walk .stepwise links place steps) result := by
  induction links generalizing place steps result with
  | zero => exact walkWith_stepwise (by simp) hplace h
  | succ links ih =>
    exact walkWith_stepwise
      (fun _ target _ _ hp hnext => ih (holds_linkStart (isReachable_top disk) hp target) hnext)
      hplace h

/-- Where a path leads to is found with its real path, unless an entry on the way is too deep. -/
theorem canonical_of_resolve {path : Path} (h : disk.resolve path = .ok place) :
    disk.IsFoundAgain (disk.canonical path) place := by
  unfold resolve at h
  unfold canonical
  split at h
  · cases h
  · next hplain =>
    split at h
    · cases h
    · rw [if_neg hplain]
      exact walk_stepwise (isReachable_top disk) h

/-! ## A file that is too deep -/

/-- A name of the greatest length. -/
def longName : Name := List.replicate maxName 0x61

/-- A path of 3840 bytes. -/
def deepDirectory : Path := List.replicate 15 longName

/-- A file system with a file at a path of 4096 bytes, and a link to the directory of the file. -/
def deep : Disk where
  entries :=
    (List.range 15).map (fun n =>
        ⟨List.replicate n longName, longName, .object (.directory .all)⟩) ++
      [⟨[], [0x6C], .link deepDirectory.bytes⟩,
        ⟨deepDirectory, longName, .object (.file ⟨.all, ⟨0, 0⟩, [0x78]⟩)⟩]

end FileServer.Disk
