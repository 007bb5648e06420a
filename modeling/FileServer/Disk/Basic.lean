import FileServer.Text.Utf8

/-!
# Files, directories and links

The state of a file system at one moment, as a list of directory entries. The order of the list is
the order in which a directory is enumerated. Every file system has its topmost directory, which
everyone can search and which is in no list.

* `exists_entry_of_node?`: what is found below the topmost directory is an entry;
* `node?_append_singleton`: what a directory contains is found under its path and a name;
* `mem_children`: enumerating a directory finds its entries and no others.
-/

namespace FileServer

/-- The name of a directory entry. -/
abbrev Name := Bytes

/-- The names from the topmost directory down to an entry. -/
abbrev Path := List Name

namespace Path

/-- The path as it is written, with a slash before every name. -/
def bytes : Path → Bytes
  | [] => [0x2F]
  | path => path.flatMap (0x2F :: ·)

/-- The path as it is shown. -/
def text (path : Path) : Text := Utf8.decodeLossy path.bytes

end Path

/-- What the process may do with a file or a directory. -/
structure Access where
  /-- To read a file, or list a directory. -/
  read : Bool
  /-- To change a file, or the entries of a directory. -/
  write : Bool
  /-- To reach what is in a directory. -/
  search : Bool
  deriving DecidableEq, Repr

/-- Everything is allowed. -/
def Access.all : Access := ⟨true, true, true⟩

/-- A point of time in seconds since the beginning of 1970, which may be negative, and nanoseconds
after that. -/
structure Instant where
  seconds : Int
  nanoseconds : Nat
  deriving DecidableEq, Repr

/-- The last whole second, or the beginning of 1970 if that is later. -/
def Instant.wholeSeconds (time : Instant) : Nat :=
  (time.seconds + time.nanoseconds / 1000000000).toNat

/-- A regular file. -/
structure File where
  access : Access
  modified : Instant
  contents : Bytes
  deriving DecidableEq, Repr

/-- What a path finally leads to. -/
inductive Object where
  | file (file : File)
  | directory (access : Access)
  deriving DecidableEq, Repr

namespace Object

/-- Whether the object is a directory. -/
def isDirectory : Object → Bool
  | file _ => false
  | directory _ => true

end Object

/-- What a directory entry is. -/
inductive Node where
  | object (object : Object)
  /-- A symbolic link, with the path that it stands for. -/
  | link (target : Bytes)
  deriving DecidableEq, Repr

/-- Whether the node is a symbolic link. -/
def Node.isLink : Node → Bool
  | object _ => false
  | link _ => true

/-- The node with other permissions; a link has none. -/
def Node.withAccess (access : Access) : Node → Node
  | object (.file file) => .object (.file { file with access })
  | object (.directory _) => .object (.directory access)
  | link target => .link target

/-- An entry of a directory. -/
structure Entry where
  parent : Path
  name : Name
  node : Node
  deriving DecidableEq, Repr

/-- Where an entry is. -/
def Entry.path (entry : Entry) : Path := entry.parent ++ [entry.name]

/-- The state of a file system. -/
structure Disk where
  entries : List Entry
  deriving DecidableEq, Repr

namespace Disk

/-- A file system with nothing in it. -/
def empty : Disk := ⟨[]⟩

/-- What is at a path, without following links. -/
def node? (disk : Disk) (path : Path) : Option Node :=
  if path = [] then some (.object (.directory .all))
  else (disk.entries.find? (·.path = path)).map (·.node)

/-- The entries of a directory, in the order of enumeration. -/
def children (disk : Disk) (directory : Path) : List Entry :=
  disk.entries.filter (·.parent = directory)

theorem exists_entry_of_node? {disk : Disk} {path : Path} {node : Node} (hpath : path ≠ [])
    (h : disk.node? path = some node) :
    ∃ entry ∈ disk.entries, entry.path = path ∧ entry.node = node := by
  rw [node?, if_neg hpath] at h
  obtain ⟨entry, hfind, hnode⟩ := Option.map_eq_some_iff.1 h
  exact ⟨entry, List.mem_of_find?_eq_some hfind, by simpa using List.find?_some hfind, hnode⟩

theorem node?_append_singleton (disk : Disk) (directory : Path) (name : Name) :
    disk.node? (directory ++ [name]) =
      ((disk.children directory).find? (·.name = name)).map (·.node) := by
  have hpath : ∀ entry : Entry, decide (entry.path = directory ++ [name]) =
      (decide (entry.parent = directory) && decide (entry.name = name)) := by
    intro entry
    rw [← Bool.decide_and, decide_eq_decide, Entry.path]
    exact ⟨fun h => by simpa using List.append_inj' h rfl, fun h => by rw [h.1, h.2]⟩
  simp [node?, children, List.find?_filter, hpath]

theorem mem_children {disk : Disk} {directory : Path} {entry : Entry} :
    entry ∈ disk.children directory ↔ entry ∈ disk.entries ∧ entry.parent = directory := by
  simp [children]

end Disk

/-- Why a path could not be used. -/
inductive Fault where
  | notFound
  | permissionDenied
  /-- Something on the way is not a directory. -/
  | notDirectory
  | nameTooLong
  /-- The path leads through too many links. -/
  | tooManyLinks
  /-- There is a directory where there must be none. -/
  | isDirectory
  /-- There is an entry where there must be none. -/
  | alreadyExists
  /-- The path contains a NUL byte. -/
  | nulByte
  deriving DecidableEq, Repr

/-- The wording of a fault. -/
def Fault.message : Fault → Text
  | notFound => "No such file or directory (os error 2)".toList
  | permissionDenied => "Permission denied (os error 13)".toList
  | notDirectory => "Not a directory (os error 20)".toList
  | nameTooLong => "File name too long (os error 36)".toList
  | tooManyLinks => "Too many levels of symbolic links (os error 40)".toList
  | isDirectory => "Is a directory (os error 21)".toList
  | alreadyExists => "File exists (os error 17)".toList
  | nulByte => "file name contained an unexpected NUL byte".toList

end FileServer
