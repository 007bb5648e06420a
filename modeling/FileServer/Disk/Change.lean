import FileServer.Disk.Walk

/-!
# Changing a file system

What is done to a file system between requests: making files, directories and links, changing
permissions, removing and renaming. Directories on the way to a new entry are made as needed. The
entries of a directory are changed by who may write to it and search it.

* `node?_set`: after a node was set, it is what its path leads to.
-/

namespace FileServer

/-- What can be done to a file system. -/
inductive Change where
  /-- To write a file. -/
  | write (path : Path) (contents : Bytes) (modified : Instant)
  | makeDirectory (path : Path)
  /-- To make a symbolic link. -/
  | makeLink (path : Path) (target : Bytes)
  /-- To change the permissions of what a path leads to. -/
  | setAccess (path : Path) (access : Access)
  /-- To remove an entry with everything below it. -/
  | remove (path : Path)
  /-- To move an entry with everything below it. -/
  | rename (source destination : Path)
  deriving DecidableEq, Repr

/-- An entry after what is at a path was moved to a directory, under a name. -/
def Entry.moved (old directory : Path) (name : Name) (entry : Entry) : Entry :=
  if entry.path = old then { entry with parent := directory, name }
  else if old.isPrefixOf entry.path then
    { entry with parent := directory ++ [name] ++ entry.parent.drop old.length }
  else entry

namespace Disk

/-- Puts a node at a path, in place of what is there or after all other entries. The directory has
to be the real one. -/
def set (disk : Disk) (directory : Path) (name : Name) (node : Node) : Disk :=
  if disk.entries.any (·.path = directory ++ [name]) then
    ⟨disk.entries.map fun entry =>
      if entry.path = directory ++ [name] then { entry with node } else entry⟩
  else ⟨disk.entries ++ [⟨directory, name, node⟩]⟩

/-- Whether the entries of a real directory may be changed. -/
def mayChange (disk : Disk) (directory : Path) : Bool :=
  match disk.node? directory with
  | some (.object (.directory access)) => access.write && access.search
  | _ => false

/-- Puts a node into a real directory. -/
def put (disk : Disk) (directory : Path) (name : Name) (node : Node) : Except Fault Disk :=
  if maxName < name.length then .error .nameTooLong
  else if disk.mayChange directory then .ok (disk.set directory name node)
  else .error .permissionDenied

/-- Where a name leads to from a real directory. -/
def lookUp (disk : Disk) (directory : Path) (name : Name) : Except Fault Place :=
  match disk.node? directory with
  | some (.object object) => disk.walk .whole maxLinks ⟨directory, object⟩ [.enter name]
  | _ => .error .notFound

/-- Goes down from a real directory, makes the directories that are missing, and gives the real
path of the last one. -/
def makeDirectories (disk : Disk) (directory : Path) : List Name → Except Fault (Disk × Path)
  | [] => .ok (disk, directory)
  | name :: names =>
    match disk.lookUp directory name with
    | .ok ⟨path, .directory _⟩ => disk.makeDirectories path names
    | .ok ⟨_, .file _⟩ => .error .alreadyExists
    | .error .notFound =>
      if (disk.node? (directory ++ [name])).isSome then .error .alreadyExists
      else
        match disk.put directory name (.object (.directory .all)) with
        | .ok made => made.makeDirectories (directory ++ [name]) names
        | .error fault => .error fault
    | .error fault => .error fault

/-- Makes the directories above an entry. Gives the real directory and the name. -/
def makeParent (disk : Disk) (path : Path) : Except Fault (Disk × Path × Name) := do
  let some name := path.getLast? | .error .isDirectory
  let (made, directory) ← disk.makeDirectories [] path.dropLast
  return (made, directory, name)

/-- Where a file is made that is written under a name. A link that leads to nothing is followed. -/
def newFile (disk : Disk) : Nat → Path → Name → Except Fault (Path × Name)
  | 0, _, _ => .error .tooManyLinks
  | links + 1, directory, name =>
    match disk.node? directory, disk.node? (directory ++ [name]) with
    | some (.object object), some (.link target) => do
      let steps := Step.ofBytes target
      let some (.enter last) := steps.getLast? | .error .isDirectory
      let place ← disk.walk .whole links (linkStart ⟨directory, object⟩ target) steps.dropLast
      disk.newFile links place.path last
    | _, _ => .ok (directory, name)

/-- Writes a file. An existing file keeps its permissions. -/
def write (disk : Disk) (path : Path) (contents : Bytes) (modified : Instant) :
    Except Fault Disk := do
  let (made, directory, name) ← disk.makeParent path
  match made.lookUp directory name with
  | .ok ⟨real, .file file⟩ =>
    if file.access.write then
      return made.set real.dropLast (real.getLastD name)
        (.object (.file ⟨file.access, modified, contents⟩))
    else .error .permissionDenied
  | .ok ⟨_, .directory _⟩ => .error .isDirectory
  | .error .notFound =>
    let (directory, name) ← made.newFile maxLinks directory name
    made.put directory name (.object (.file ⟨.all, modified, contents⟩))
  | .error fault => .error fault

/-- Makes a directory, unless there is one. -/
def makeDirectory (disk : Disk) (path : Path) : Except Fault Disk :=
  (disk.makeDirectories [] path).map Prod.fst

/-- Makes a symbolic link, in place of what is there. -/
def makeLink (disk : Disk) (path : Path) (target : Bytes) : Except Fault Disk := do
  let (made, directory, name) ← disk.makeParent path
  made.put directory name (.link target)

/-- Changes the permissions of what a path leads to. -/
def setAccess (disk : Disk) (path : Path) (access : Access) : Except Fault Disk := do
  let place ← disk.resolve path
  return ⟨disk.entries.map fun entry =>
    if entry.path = place.path then { entry with node := entry.node.withAccess access }
    else entry⟩

/-- The real directory, the name and the node of an existing entry, whose directory may be
changed. -/
def changeable (disk : Disk) (path : Path) : Except Fault (Path × Name × Node) := do
  let some name := path.getLast? | .error .isDirectory
  let ⟨directory, _⟩ ← disk.resolve path.dropLast
  let some node := disk.node? (directory ++ [name]) | .error .notFound
  if disk.mayChange directory then return (directory, name, node) else .error .permissionDenied

/-- Whether everything below a path may be removed. -/
def mayClear (disk : Disk) (path : Path) : Bool :=
  disk.entries.all fun entry =>
    match entry.node with
    | .object (.directory access) =>
      !path.isPrefixOf entry.path || access.read &&
        ((disk.children entry.path).isEmpty || access.write && access.search)
    | _ => true

/-- Removes an entry and everything below it. -/
def remove (disk : Disk) (path : Path) : Except Fault Disk := do
  let (directory, name, _) ← disk.changeable path
  if disk.mayClear (directory ++ [name]) then
    return ⟨disk.entries.filter fun entry => !(directory ++ [name]).isPrefixOf entry.path⟩
  else .error .permissionDenied

/-- Whether a node may go to another directory. A directory has to be written to for that. -/
def mayMove : Node → Bool
  | .object (.directory access) => access.write
  | _ => true

/-- Moves an entry, with everything below it, to another path. What is there is replaced. -/
def rename (disk : Disk) (source destination : Path) : Except Fault Disk := do
  let (sourceDirectory, sourceName, node) ← disk.changeable source
  let (disk, directory, name) ← disk.makeParent destination
  let old := sourceDirectory ++ [sourceName]
  let new := directory ++ [name]
  if old = new then return disk
  else if disk.mayChange directory ∧ (directory = sourceDirectory ∨ mayMove node) then
    return ⟨(disk.entries.filter fun entry => !new.isPrefixOf entry.path).map
      (·.moved old directory name)⟩
  else .error .permissionDenied

/-- Makes a change. -/
def apply (disk : Disk) : Change → Except Fault Disk
  | .write path contents modified => disk.write path contents modified
  | .makeDirectory path => disk.makeDirectory path
  | .makeLink path target => disk.makeLink path target
  | .setAccess path access => disk.setAccess path access
  | .remove path => disk.remove path
  | .rename source destination => disk.rename source destination

/-- Makes changes one after another. -/
def applyAll (disk : Disk) : List Change → Except Fault Disk
  | [] => .ok disk
  | change :: changes => do (← disk.apply change).applyAll changes

theorem path_replaced (path : Path) (node : Node) (entry : Entry) :
    (if entry.path = path then { entry with node } else entry).path = entry.path := by
  split
  · rfl
  · rfl

theorem node?_set (disk : Disk) (directory : Path) (name : Name) (node : Node) :
    (disk.set directory name node).node? (directory ++ [name]) = some node := by
  have hne : directory ++ [name] ≠ [] := by simp
  unfold set
  split
  · rename_i h
    obtain ⟨entry, hmem, hpath⟩ := List.any_eq_true.1 h
    have hkeep : ((fun e : Entry => decide (e.path = directory ++ [name])) ∘ fun e : Entry =>
        if e.path = directory ++ [name] then { e with node } else e) =
        fun e => decide (e.path = directory ++ [name]) := by
      funext e
      rw [Function.comp_apply, path_replaced]
    obtain ⟨found, hfound⟩ := Option.isSome_iff_exists.1
      ((@List.find?_isSome _ _ fun e : Entry => decide (e.path = directory ++ [name])).2
        ⟨entry, hmem, hpath⟩)
    have hat : found.path = directory ++ [name] := by simpa using List.find?_some hfound
    rw [node?, if_neg hne, List.find?_map, hkeep, hfound, Option.map_some, Option.map_some,
      if_pos hat]
  · rename_i h
    have hnone : disk.entries.find? (fun e => decide (e.path = directory ++ [name])) = none := by
      simpa using h
    have hpath : (⟨directory, name, node⟩ : Entry).path = directory ++ [name] := rfl
    simp [node?, List.find?_append, hnone, hpath]

end Disk

end FileServer
