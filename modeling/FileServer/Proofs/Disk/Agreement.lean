import FileServer.Disk.Walk

/-!
# File systems that differ in the data of files

What a path leads to, and whether it leads anywhere, is decided by names, kinds, permissions and
link targets: by the outline of a file system, in which files are without data. Following a path in
two file systems of one outline (`SameOutline`) comes to places of one outline, in both manners and
step by step.

* `outline_node?`, `outline_take`, `outline_walk`: one look, one step and a whole way;
* `outline_resolve`, `outline_canonical`: where paths lead to;
* `AgreesWithin.eq_of_resolve`: file systems that also agree in the data of the files below a root
  agree in all that a path leads to there;
* `agreesWithin_of_entries`: lists of entries that differ in the data of others do.
-/

namespace FileServer

/-! ## Outlines -/

/-- An object without the data of a file. -/
def Object.outline : Object → Object
  | file ⟨access, _, _⟩ => .file ⟨access, ⟨0, 0⟩, []⟩
  | directory access => .directory access

/-- A node without the data of a file. -/
def Node.outline : Node → Node
  | object found => .object found.outline
  | link target => .link target

/-- An entry without the data of a file. -/
def Entry.outline (entry : Entry) : Entry := { entry with node := entry.node.outline }

/-- A place without the data of a file. -/
def Place.outline (place : Place) : Place := ⟨place.path, place.object.outline⟩

/-- What a step leads to, without the data of a file. -/
def Arrival.outline : Arrival → Arrival
  | place next => .place next.outline
  | link target => .link target

@[simp] theorem Object.isDirectory_outline (object : Object) :
    object.outline.isDirectory = object.isDirectory := by
  cases object <;> rfl

@[simp] theorem Node.isLink_outline (node : Node) : node.outline.isLink = node.isLink := by
  cases node <;> rfl

theorem Place.outline_eq {p q : Place} (h : p.outline = q.outline) :
    p.path = q.path ∧ p.object.outline = q.object.outline :=
  Place.mk.inj h

/-- Results that are the same but for what a map leaves out are the same fault, or two values. -/
theorem cases_of_map_eq {α β : Type} {f : α → β} {x y : Except Fault α} (h : x.map f = y.map f) :
    (∃ fault, x = .error fault ∧ y = .error fault) ∨
      ∃ u v, x = .ok u ∧ y = .ok v ∧ f u = f v := by
  cases x with
  | error fault =>
    cases y with
    | error other => exact .inl ⟨fault, rfl, by rw [Except.error.inj h]⟩
    | ok => cases h
  | ok u =>
    cases y with
    | error => cases h
    | ok v => exact .inr ⟨u, v, rfl, rfl, Except.ok.inj h⟩

namespace Disk

/-- Whether two file systems have the same names, kinds, permissions and link targets in every
directory, in the same order. -/
def SameOutline (a b : Disk) : Prop :=
  ∀ directory, (a.children directory).map Entry.outline = (b.children directory).map Entry.outline

namespace SameOutline

variable {a b : Disk}

theorem outline_node? (h : SameOutline a b) (path : Path) :
    (a.node? path).map Node.outline = (b.node? path).map Node.outline := by
  obtain rfl | ⟨directory, name, rfl⟩ := List.eq_nil_or_concat path
  · rfl
  · have hfind : ∀ disk : Disk, (disk.node? (directory ++ [name])).map Node.outline =
        (((disk.children directory).map Entry.outline).find? (·.name = name)).map (·.node) := by
      intro disk
      rw [node?_append_singleton, List.find?_map, Option.map_map, Option.map_map]
      rfl
    rw [List.concat_eq_append, hfind, hfind, h directory]

/-- Two looks find nothing, or the same link, or objects of one outline. -/
theorem node?_cases (h : SameOutline a b) (path : Path) :
    (a.node? path = none ∧ b.node? path = none) ∨
      (∃ target, a.node? path = some (.link target) ∧ b.node? path = some (.link target)) ∨
      ∃ p q, a.node? path = some (.object p) ∧ b.node? path = some (.object q) ∧
        p.outline = q.outline := by
  have hnode := h.outline_node? path
  cases ha : a.node? path with
  | none =>
    cases hb : b.node? path with
    | none => exact .inl ⟨rfl, rfl⟩
    | some => simp [ha, hb] at hnode
  | some p =>
    cases hb : b.node? path with
    | none => simp [ha, hb] at hnode
    | some q =>
      rw [ha, hb, Option.map_some, Option.map_some] at hnode
      have hnode := Option.some.inj hnode
      cases p with
      | object p =>
        cases q with
        | object q => exact .inr (.inr ⟨p, q, rfl, rfl, Node.object.inj hnode⟩)
        | link => cases hnode
      | link target =>
        cases q with
        | object => cases hnode
        | link => exact .inr (.inl ⟨target, rfl, by rw [Node.link.inj hnode]⟩)

/-! ## Steps -/

theorem outline_enter (h : SameOutline a b) (directory : Path) (name : Name) :
    (a.enter directory name).map Arrival.outline =
      (b.enter directory name).map Arrival.outline := by
  unfold enter
  split
  · rfl
  · obtain ⟨ha, hb⟩ | ⟨target, ha, hb⟩ | ⟨p, q, ha, hb, hpq⟩ :=
      h.node?_cases (directory ++ [name]) <;> rw [ha, hb]
    simp only [Except.map, Arrival.outline, Place.outline, hpq]

theorem outline_above (h : SameOutline a b) (path : Path) :
    (a.above path).map Arrival.outline = (b.above path).map Arrival.outline := by
  unfold above
  obtain ⟨ha, hb⟩ | ⟨target, ha, hb⟩ | ⟨p, q, ha, hb, hpq⟩ := h.node?_cases path.dropLast <;>
    rw [ha, hb]
  simp only [Except.map, Arrival.outline, Place.outline, hpq]

/-- From places of one outline a step leads to one outline. -/
theorem outline_take (h : SameOutline a b) (manner : Manner) {p q : Place}
    (hpq : p.outline = q.outline) (step : Step) :
    (a.take manner p step).map Arrival.outline = (b.take manner q step).map Arrival.outline := by
  obtain ⟨path, p⟩ := p
  obtain ⟨other, q⟩ := q
  obtain ⟨rfl, hobject⟩ : path = other ∧ p.outline = q.outline := Place.outline_eq hpq
  have hfar : isTooFar ⟨path, p⟩ step = isTooFar ⟨path, q⟩ step := by
    cases step <;> rfl
  unfold take
  rw [hfar]
  split
  · rfl
  cases p with
  | file =>
    cases q with
    | file => rfl
    | directory => cases hobject
  | directory access =>
    cases q with
    | file => cases hobject
    | directory other =>
      obtain rfl : access = other := Object.directory.inj hobject
      cases step with
      | slash => rfl
      | enter name =>
        simp only
        split
        · exact h.outline_enter path name
        · rfl
      | up =>
        simp only
        split
        · exact h.outline_above path
        · rfl
      | stay => rfl

/-! ## Ways -/

theorem outline_walkWith (h : SameOutline a b) (manner : Manner)
    {f g : Place → Bytes → List Step → Except Fault Place}
    (hfollow : ∀ p q : Place, p.outline = q.outline → ∀ target steps,
      (f p target steps).map Place.outline = (g q target steps).map Place.outline)
    {p q : Place} (hpq : p.outline = q.outline) (steps : List Step) :
    (a.walkWith manner f p steps).map Place.outline =
      (b.walkWith manner g q steps).map Place.outline := by
  induction steps generalizing p q with
  | nil => simp only [walkWith, Except.map, hpq]
  | cons step steps ih =>
    unfold walkWith
    obtain ⟨fault, ha, hb⟩ | ⟨u, v, ha, hb, huv⟩ := cases_of_map_eq (h.outline_take manner hpq step)
    · rw [ha, hb]
    · rw [ha, hb]
      cases u with
      | place next =>
        cases v with
        | place other => exact ih (Arrival.place.inj huv)
        | link => cases huv
      | link target =>
        cases v with
        | place => cases huv
        | link other =>
          obtain rfl : target = other := Arrival.link.inj huv
          exact hfollow p q hpq target steps

theorem outline_linkStart {p q : Place} (hpq : p.outline = q.outline) (target : Bytes) :
    (linkStart p target).outline = (linkStart q target).outline := by
  unfold linkStart
  split
  · rfl
  · exact hpq

theorem outline_walk (h : SameOutline a b) (manner : Manner) (links : Nat) {p q : Place}
    (hpq : p.outline = q.outline) (steps : List Step) :
    (a.walk manner links p steps).map Place.outline =
      (b.walk manner links q steps).map Place.outline := by
  induction links generalizing p q steps with
  | zero => exact h.outline_walkWith manner (fun _ _ _ _ _ => rfl) hpq steps
  | succ links ih =>
    refine h.outline_walkWith manner (fun p q hpq target steps => ?_) hpq steps
    exact ih (outline_linkStart hpq target) (Step.ofBytes target ++ steps)

theorem outline_resolve (h : SameOutline a b) (path : Path) :
    (a.resolve path).map Place.outline = (b.resolve path).map Place.outline := by
  unfold resolve
  split
  · rfl
  · split
    · rfl
    · exact h.outline_walk _ _ rfl _

theorem outline_canonical (h : SameOutline a b) (path : Path) :
    (a.canonical path).map Place.outline = (b.canonical path).map Place.outline := by
  unfold canonical
  split
  · rfl
  · exact h.outline_walk _ _ rfl _

end SameOutline

/-! ## Data below a root -/

/-- Whether two file systems have one outline, and the same data in the files that are really below
a root. Of the data of other files nothing is said. -/
structure AgreesWithin (root : Path) (a b : Disk) : Prop where
  outline : SameOutline a b
  inside : ∀ path file, root <+: path → a.IsReal ⟨path, .file file⟩ →
    b.node? path = some (.object (.file file))

/-- A path that leads below the root leads to the same place. -/
theorem AgreesWithin.eq_of_resolve {root : Path} {a b : Disk} (h : AgreesWithin root a b)
    {path : Path} {p q : Place} (ha : a.resolve path = .ok p) (hb : b.resolve path = .ok q)
    (hroot : root <+: p.path) : p = q := by
  have hpq : p.outline = q.outline := by
    have hresolve := h.outline.outline_resolve path
    rw [ha, hb] at hresolve
    exact Except.ok.inj hresolve
  have hreal := isReal_of_resolve ha
  have hother := (isReal_of_resolve hb).node
  obtain ⟨path, p⟩ := p
  obtain ⟨other, q⟩ := q
  obtain ⟨rfl, hobject⟩ : path = other ∧ p.outline = q.outline := Place.outline_eq hpq
  cases p with
  | file file =>
    rw [h.inside path file hroot hreal] at hother
    rw [Node.object.inj (Option.some.inj hother)]
  | directory access =>
    cases q with
    | file => cases hobject
    | directory other => rw [Object.directory.inj hobject]

theorem sameOutline_of_entries {a b : Disk}
    (h : a.entries.map Entry.outline = b.entries.map Entry.outline) : SameOutline a b := by
  intro directory
  have hchildren : ∀ disk : Disk, (disk.children directory).map Entry.outline =
      (disk.entries.map Entry.outline).filter (·.parent = directory) := by
    intro disk
    rw [children, List.filter_map]
    rfl
  rw [hchildren, hchildren, h]

/-- Changing the data of entries that are not below the root keeps the agreement. -/
theorem agreesWithin_of_entries {root : Path} {a b : Disk}
    (houtline : a.entries.map Entry.outline = b.entries.map Entry.outline)
    (hinside : a.entries.filter (root.isPrefixOf ·.path) =
      b.entries.filter (root.isPrefixOf ·.path)) : AgreesWithin root a b := by
  refine ⟨sameOutline_of_entries houtline, fun path file hroot hreal => ?_⟩
  have hnode : ∀ disk : Disk, disk.node? path =
      node? ⟨disk.entries.filter (root.isPrefixOf ·.path)⟩ path := by
    intro disk
    have hbelow : (fun entry : Entry =>
        decide (root.isPrefixOf entry.path = true ∧ decide (entry.path = path) = true)) =
        fun entry => decide (entry.path = path) := by
      funext entry
      by_cases hentry : entry.path = path
      · rw [hentry, List.isPrefixOf_iff_prefix.2 hroot]
        simp
      · simp [hentry]
    rw [node?, node?, List.find?_filter, hbelow]
  rw [hnode, ← hinside, ← hnode]
  exact hreal.node

end Disk

end FileServer
