import FileServer.Disk.Basic

/-!
# Following paths

A path is followed one step at a time. A symbolic link that is met, also in the last place, is
replaced by the path that it stands for, and no more than forty links are followed on one way.

A path can be followed in two manners. As a whole it is limited in its length, and every step from
a directory takes the permission to search it. Stepwise the real path is built up on the way, with
one look at every entry by its full path: what is limited is the length of that path, and only
entering takes a permission.

* `take_enter_iff`, `take_cases`: what a step that was made found;
* `holds_of_walk`: what every step keeps holds wherever a way leads to;
* `isReachable_of_take`: a step leads to a place that was reached through directories only, all of
  which may be searched;
* `isReal_of_resolve`, `isReal_of_canonicalFrom`: where a path leads to has a path of its own that
  goes through directories only and through no link, and there is what was found;
* `eq_of_resolve_of_canonical`: in both manners a path leads to the same place.
-/

namespace FileServer

/-- One step on the way along a path. -/
inductive Step where
  /-- Stay in the directory (a point). -/
  | stay
  /-- Go to the directory above (two points). -/
  | up
  /-- Go to an entry. -/
  | enter (name : Name)
  /-- Make sure that this is a directory (a slash at the end). -/
  | slash
  deriving DecidableEq, Repr

/-- The step that a component of a written path asks for. -/
def Step.ofComponent (component : Bytes) : Step :=
  if component = [0x2E] then .stay
  else if component = [0x2E, 0x2E] then .up
  else .enter component

/-- The steps of a written path, relative to where it starts. -/
def Step.ofBytes (written : Bytes) : List Step :=
  let components := splitOn 0x2F written
  let steps := (components.filter (· ≠ [])).map ofComponent
  if components.getLast? = some [] ∧ steps ≠ [] then steps ++ [.slash] else steps

/-- The last name of a written path, unless the path ends by going up. -/
def Step.fileName? (written : Bytes) : Option Name :=
  match ((ofBytes written).filter fun step => step ≠ stay && step ≠ slash).getLast? with
  | some (enter name) => some name
  | _ => none

/-- An object and the path by which it is reached without links. -/
structure Place where
  path : Path
  object : Object
  deriving DecidableEq, Repr

/-- The topmost directory. -/
def Place.top : Place := ⟨[], .directory .all⟩

/-- How a path is followed. -/
inductive Manner where
  | whole
  | stepwise
  deriving DecidableEq, Repr

/-- What a step leads to. -/
inductive Arrival where
  | place (place : Place)
  /-- A link, to be followed from the directory in which it is. -/
  | link (target : Bytes)
  deriving DecidableEq, Repr

namespace Disk

/-- The longest name of an entry. -/
def maxName : Nat := 255

/-- The longest written path. -/
def maxPath : Nat := 4095

/-- The number of links that may be followed on one way. -/
def maxLinks : Nat := 40

/-- Looks a name up in a directory. -/
def enter (disk : Disk) (directory : Path) (name : Name) : Except Fault Arrival :=
  if maxName < name.length then .error .nameTooLong
  else
    match disk.node? (directory ++ [name]) with
    | none => .error .notFound
    | some (.link target) => .ok (.link target)
    | some (.object object) => .ok (.place ⟨directory ++ [name], object⟩)

/-- The directory above; the topmost directory is above itself. -/
def above (disk : Disk) (path : Path) : Except Fault Arrival :=
  match disk.node? path.dropLast with
  | some (.object object) => .ok (.place ⟨path.dropLast, object⟩)
  | _ => .error .notFound

/-- Whether a step, made stepwise, takes a look at a path that is too long. -/
def isTooFar (place : Place) : Step → Bool
  | .enter name => maxPath < (Path.bytes (place.path ++ [name])).length
  | _ => maxPath ≤ (Path.bytes place.path).length

/-- Takes one step. -/
def take (disk : Disk) (manner : Manner) (place : Place) (step : Step) : Except Fault Arrival :=
  if manner = .stepwise ∧ isTooFar place step then .error .nameTooLong
  else
    match place.object, step with
    | .file _, _ => .error .notDirectory
    | .directory _, .slash => .ok (.place place)
    | .directory access, .enter name =>
      if access.search then disk.enter place.path name else .error .permissionDenied
    | .directory access, step =>
      if manner = .stepwise ∨ access.search then
        if step = .up then disk.above place.path else .ok (.place place)
      else .error .permissionDenied

/-- Takes steps up to the first link, and leaves what is to be done there to `follow`, which gets
the directory, the target of the link and the steps that are left. -/
def walkWith (disk : Disk) (manner : Manner)
    (follow : Place → Bytes → List Step → Except Fault Place) :
    Place → List Step → Except Fault Place
  | place, [] => .ok place
  | place, step :: steps =>
    match disk.take manner place step with
    | .error fault => .error fault
    | .ok (.place next) => disk.walkWith manner follow next steps
    | .ok (.link target) => follow place target steps

/-- Where the target of a link starts. -/
def linkStart (directory : Place) (target : Bytes) : Place :=
  if target.head? = some 0x2F then .top else directory

/-- Takes steps and follows at most `links` links. -/
def walk (disk : Disk) (manner : Manner) : Nat → Place → List Step → Except Fault Place
  | 0 => disk.walkWith manner fun _ _ _ => .error .tooManyLinks
  | links + 1 =>
    disk.walkWith manner fun directory target steps =>
      disk.walk manner links (linkStart directory target) (Step.ofBytes target ++ steps)

/-- Where a path of names leads to. -/
def resolve (disk : Disk) (path : Path) : Except Fault Place :=
  if path.any (·.contains 0) then .error .nulByte
  else if maxPath < path.bytes.length then .error .nameTooLong
  else disk.walk .whole maxLinks .top (path.map .enter)

/-- Where a path of names leads to, with the real path built up on the way. -/
def canonical (disk : Disk) (path : Path) : Except Fault Place :=
  if path.any (·.contains 0) then .error .nulByte
  else disk.walk .stepwise maxLinks .top (path.map .enter)

/-- Where a written path leads to, seen from a directory, with the real path built up on the
way. -/
def canonicalFrom (disk : Disk) (directory : Path) (written : Bytes) : Except Fault Place :=
  if written.contains 0 then .error .nulByte
  else if written = [] then .error .notFound
  else if written.head? = some 0x2F then
    disk.walk .stepwise maxLinks .top (Step.ofBytes written)
  else
    match disk.walk .stepwise maxLinks .top (directory.map .enter) with
    | .error fault => .error fault
    | .ok start => disk.walk .stepwise maxLinks start (Step.ofBytes written)

/-! ## Steps that were made -/

/-- What it takes to enter a name, and the entry that is there. -/
structure Enters (disk : Disk) (manner : Manner) (place : Place) (name : Name) (node : Node) :
    Prop where
  searchable : ∃ access, place.object = .directory access ∧ access.search
  name_le : name.length ≤ maxName
  node : disk.node? (place.path ++ [name]) = some node
  path_le : manner = .stepwise → (Path.bytes (place.path ++ [name])).length ≤ maxPath

/-- What the entry at a path leads to. -/
def arrivalAt (path : Path) : Node → Arrival
  | .object object => .place ⟨path, object⟩
  | .link target => .link target

variable {disk : Disk} {manner : Manner} {place next : Place} {step : Step}

theorem take_enter_iff {name : Name} {arrival : Arrival} :
    disk.take manner place (.enter name) = .ok arrival ↔
      ∃ node, disk.Enters manner place name node ∧
        arrival = arrivalAt (place.path ++ [name]) node := by
  obtain ⟨path, object⟩ := place
  constructor
  · intro h
    unfold take at h
    split at h
    · cases h
    next hnear =>
    have hpath : manner = .stepwise → (Path.bytes (path ++ [name])).length ≤ maxPath := by
      intro hmanner
      simpa [isTooFar, hmanner] using hnear
    cases object with
    | file => cases h
    | directory access =>
      simp only at h
      split at h
      · next hsearch =>
        unfold enter at h
        split at h
        · cases h
        next hname =>
        have hname := Nat.le_of_not_lt hname
        split at h
        · cases h
        · next target hnode =>
          exact ⟨.link target, ⟨⟨access, rfl, hsearch⟩, hname, hnode, hpath⟩,
            (Except.ok.inj h).symm⟩
        · next object hnode =>
          exact ⟨.object object, ⟨⟨access, rfl, hsearch⟩, hname, hnode, hpath⟩,
            (Except.ok.inj h).symm⟩
      · cases h
  · rintro ⟨node, ⟨⟨access, hobject, hsearch⟩, hname, hnode, hpath⟩, rfl⟩
    obtain rfl : object = .directory access := hobject
    have hnear : ¬ (manner = .stepwise ∧ isTooFar ⟨path, .directory access⟩ (.enter name)) := by
      rintro ⟨hmanner, hfar⟩
      exact Nat.not_lt_of_le (hpath hmanner) (of_decide_eq_true hfar)
    have henter : disk.take manner ⟨path, .directory access⟩ (.enter name) =
        disk.enter path name := by
      unfold take
      rw [if_neg hnear]
      exact if_pos hsearch
    rw [henter, enter, if_neg (Nat.not_lt_of_le hname), hnode]
    cases node <;> rfl

theorem above_eq_ok {path : Path} (h : disk.above path = .ok (.place next)) :
    next.path = path.dropLast ∧ disk.node? next.path = some (.object next.object) := by
  unfold above at h
  split at h
  · next hnode =>
    obtain rfl := Arrival.place.inj (Except.ok.inj h)
    exact ⟨rfl, hnode⟩
  · cases h

theorem eq_of_take_stay {arrival : Arrival} (h : disk.take manner place .stay = .ok arrival) :
    arrival = .place place := by
  obtain ⟨path, object⟩ := place
  unfold take at h
  split at h
  · cases h
  cases object with
  | file => cases h
  | directory access =>
    simp only at h
    split at h
    · exact (Except.ok.inj h).symm
    · cases h

theorem eq_of_take_slash {arrival : Arrival} (h : disk.take manner place .slash = .ok arrival) :
    arrival = .place place := by
  obtain ⟨path, object⟩ := place
  unfold take at h
  split at h
  · cases h
  cases object with
  | file => cases h
  | directory access => exact (Except.ok.inj h).symm

theorem above_of_take_up {arrival : Arrival} (h : disk.take manner place .up = .ok arrival) :
    disk.above place.path = .ok arrival := by
  obtain ⟨path, object⟩ := place
  unfold take at h
  split at h
  · cases h
  cases object with
  | file => cases h
  | directory access =>
    simp only at h
    split at h
    · exact h
    · cases h

/-- A step to a place stays, goes up or enters a file or directory. -/
theorem take_cases (h : disk.take manner place step = .ok (.place next)) :
    next = place ∨
      next.path = place.path.dropLast ∧ disk.node? next.path = some (.object next.object) ∨
      ∃ name, disk.Enters manner place name (.object next.object) ∧
        next.path = place.path ++ [name] := by
  cases step with
  | stay => exact .inl (Arrival.place.inj (eq_of_take_stay h))
  | up => exact .inr (.inl (above_eq_ok (above_of_take_up h)))
  | enter name =>
    obtain ⟨node, henters, harrival⟩ := take_enter_iff.1 h
    cases node with
    | link target => cases harrival
    | object object =>
      obtain rfl := Arrival.place.inj harrival
      exact .inr (.inr ⟨_, henters, rfl⟩)
  | slash => exact .inl (Arrival.place.inj (eq_of_take_slash h))

/-! ## What every step keeps -/

variable {holds : Place → Prop} {steps : List Step} {result : Place}

theorem holds_of_walkWith {follow : Place → Bytes → List Step → Except Fault Place}
    (htake : ∀ place step next, holds place → disk.take manner place step = .ok (.place next) →
      holds next)
    (hfollow : ∀ place target steps result, holds place →
      follow place target steps = .ok result → holds result)
    (hplace : holds place) (h : disk.walkWith manner follow place steps = .ok result) :
    holds result := by
  induction steps generalizing place with
  | nil => exact Except.ok.inj h ▸ hplace
  | cons step steps ih =>
    unfold walkWith at h
    split at h
    · cases h
    · next hstep => exact ih (htake _ _ _ hplace hstep) h
    · exact hfollow _ _ _ _ hplace h

theorem holds_linkStart (htop : holds .top) (hplace : holds place) (target : Bytes) :
    holds (linkStart place target) := by
  unfold linkStart
  split
  · exact htop
  · exact hplace

/-- What every step keeps holds wherever a way leads to. -/
theorem holds_of_walk
    (htake : ∀ place step next, holds place → disk.take manner place step = .ok (.place next) →
      holds next)
    (htop : holds .top) {links : Nat} (hplace : holds place)
    (h : disk.walk manner links place steps = .ok result) : holds result := by
  induction links generalizing place steps result with
  | zero => exact holds_of_walkWith htake (by simp) hplace h
  | succ links ih =>
    refine holds_of_walkWith htake (fun directory target _ _ hdirectory hnext => ?_) hplace h
    exact ih (holds_linkStart htop hdirectory target) hnext

theorem holds_of_resolve (holds : Place → Prop)
    (htake : ∀ place step next, holds place → disk.take .whole place step = .ok (.place next) →
      holds next)
    (htop : holds .top) {path : Path} (h : disk.resolve path = .ok place) : holds place := by
  unfold resolve at h
  split at h
  · cases h
  · split at h
    · cases h
    · exact holds_of_walk htake htop htop h

theorem holds_of_canonicalFrom (holds : Place → Prop)
    (htake : ∀ place step next, holds place → disk.take .stepwise place step = .ok (.place next) →
      holds next)
    (htop : holds .top) {directory : Path} {written : Bytes}
    (h : disk.canonicalFrom directory written = .ok place) : holds place := by
  unfold canonicalFrom at h
  split at h
  · cases h
  · split at h
    · cases h
    · split at h
      · exact holds_of_walk htake htop htop h
      · split at h
        · cases h
        · next hstart => exact holds_of_walk htake htop (holds_of_walk htake htop htop hstart) h

/-! ## Paths without links -/

/-- A place whose path goes through directories only and ends at its object. -/
structure IsReal (disk : Disk) (place : Place) : Prop where
  node : disk.node? place.path = some (.object place.object)
  directories : ∀ directory name, directory ++ [name] <+: place.path →
    ∃ access, disk.node? directory = some (.object (.directory access))

/-- A place that can be reached by its path: each directory on the path may be searched, and each
name is short enough. -/
structure IsReachable (disk : Disk) (place : Place) : Prop where
  node : disk.node? place.path = some (.object place.object)
  entered : ∀ directory name, directory ++ [name] <+: place.path → name.length ≤ maxName ∧
    ∃ access, disk.node? directory = some (.object (.directory access)) ∧ access.search

theorem IsReachable.isReal (h : disk.IsReachable place) : disk.IsReal place where
  node := h.node
  directories directory name hsub := by
    obtain ⟨-, access, hdirectory, -⟩ := h.entered directory name hsub
    exact ⟨access, hdirectory⟩

theorem isReachable_top (disk : Disk) : disk.IsReachable .top where
  node := rfl
  entered directory name h := by simp [Place.top] at h

/-- A step leads from a place that can be reached by its path to another one. -/
theorem isReachable_of_take (hplace : disk.IsReachable place)
    (h : disk.take manner place step = .ok (.place next)) : disk.IsReachable next := by
  obtain rfl | ⟨hpath, hnode⟩ | ⟨name, henters, hpath⟩ := take_cases h
  · exact hplace
  · refine ⟨hnode, fun directory name hsub => ?_⟩
    rw [hpath] at hsub
    exact hplace.entered directory name (hsub.trans (List.dropLast_prefix _))
  · refine ⟨hpath ▸ henters.node, fun directory other hsub => ?_⟩
    rw [hpath] at hsub
    obtain heq | hlt := List.prefix_concat_iff.1 hsub
    · obtain ⟨rfl, hname⟩ := List.append_inj' heq rfl
      obtain rfl := List.singleton_inj.1 hname
      obtain ⟨access, hobject, hsearch⟩ := henters.searchable
      exact ⟨henters.name_le, access, hobject ▸ hplace.node, hsearch⟩
    · exact hplace.entered directory other hlt

theorem isReachable_of_resolve {path : Path} (h : disk.resolve path = .ok place) :
    disk.IsReachable place :=
  holds_of_resolve disk.IsReachable (fun _ _ _ => isReachable_of_take) (isReachable_top disk) h

theorem isReachable_of_canonicalFrom {directory : Path} {written : Bytes}
    (h : disk.canonicalFrom directory written = .ok place) : disk.IsReachable place :=
  holds_of_canonicalFrom disk.IsReachable (fun _ _ _ => isReachable_of_take)
    (isReachable_top disk) h

/-- What is found stands at the end of a path without links. -/
theorem isReal_of_resolve {path : Path} (h : disk.resolve path = .ok place) : disk.IsReal place :=
  (isReachable_of_resolve h).isReal

theorem isReal_of_canonicalFrom {directory : Path} {written : Bytes}
    (h : disk.canonicalFrom directory written = .ok place) : disk.IsReal place :=
  (isReachable_of_canonicalFrom h).isReal

/-! ## One place, whatever the manner -/

/-- A step that is made in either manner leads to what it finds. -/
theorem eq_of_take {disk : Disk} {m n : Manner} {place : Place} {step : Step} {a b : Arrival}
    (ha : disk.take m place step = .ok a) (hb : disk.take n place step = .ok b) : a = b := by
  cases step with
  | stay => rw [eq_of_take_stay ha, eq_of_take_stay hb]
  | up => exact Except.ok.inj ((above_of_take_up ha).symm.trans (above_of_take_up hb))
  | enter name =>
    obtain ⟨node, henters, rfl⟩ := take_enter_iff.1 ha
    obtain ⟨other, hother, rfl⟩ := take_enter_iff.1 hb
    rw [Option.some.inj (henters.node.symm.trans hother.node)]
  | slash => rw [eq_of_take_slash ha, eq_of_take_slash hb]

theorem eq_of_walkWith {disk : Disk} {m n : Manner}
    {f g : Place → Bytes → List Step → Except Fault Place}
    (hfollow : ∀ place target steps a b, f place target steps = .ok a →
      g place target steps = .ok b → a = b)
    {steps : List Step} {place a b : Place} (ha : disk.walkWith m f place steps = .ok a)
    (hb : disk.walkWith n g place steps = .ok b) : a = b := by
  induction steps generalizing place with
  | nil => exact Except.ok.inj (ha.symm.trans hb)
  | cons step steps ih =>
    rw [walkWith] at ha hb
    cases hfirst : disk.take m place step with
    | error fault =>
      rw [hfirst] at ha
      cases ha
    | ok arrival =>
      cases hsecond : disk.take n place step with
      | error fault =>
        rw [hsecond] at hb
        cases hb
      | ok other =>
        obtain rfl := eq_of_take hfirst hsecond
        rw [hfirst] at ha
        rw [hsecond] at hb
        cases arrival with
        | place next => exact ih ha hb
        | link target => exact hfollow _ _ _ _ _ ha hb

theorem eq_of_walk {disk : Disk} {m n : Manner} {links : Nat} {steps : List Step}
    {place a b : Place} (ha : disk.walk m links place steps = .ok a)
    (hb : disk.walk n links place steps = .ok b) : a = b := by
  induction links generalizing place steps a b with
  | zero => exact eq_of_walkWith (by simp) ha hb
  | succ links ih => exact eq_of_walkWith (fun _ _ _ _ _ hf hg => ih hf hg) ha hb

/-- In both manners a path leads to the same place. -/
theorem eq_of_resolve_of_canonical {disk : Disk} {path : Path} {a b : Place}
    (ha : disk.resolve path = .ok a) (hb : disk.canonical path = .ok b) : a = b := by
  unfold resolve at ha
  unfold canonical at hb
  split at ha
  · simp at ha
  · split at ha
    · simp at ha
    · split at hb
      · simp at hb
      · exact eq_of_walk ha hb

end Disk

end FileServer
