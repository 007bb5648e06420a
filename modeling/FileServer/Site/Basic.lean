import FileServer.Http.MediaType
import FileServer.Text.Percent

/-!
# The served site

A site is the real path of the directory that is served, with the media types of its files. The
path of a request stands for a path below the root: percent escapes are decoded once, and empty
segments and segments of one or two points are dropped.

* `segments_plain`: no segment is empty, goes up or holds a slash;
* `canonicalFrom_of_ofPath`, `ofPath_of_canonicalFrom`: the root of a site is the directory that
  was found when it was opened;
* `contains_iff`: the site contains what lies component by component below its root.
-/

namespace FileServer

/-- Why a machine does not let a server listen at an address. -/
inductive BindFault where
  /-- Somebody else listens there. -/
  | inUse
  /-- The machine does not have the address. -/
  | notAvailable
  /-- The port is reserved. -/
  | permissionDenied
  /-- Nobody can listen at such an address. -/
  | invalid
  deriving DecidableEq, Repr

/-- The wording of a fault. -/
def BindFault.message : BindFault → Text
  | inUse => "Address already in use (os error 98)".toList
  | notAvailable => "Cannot assign requested address (os error 99)".toList
  | permissionDenied => "Permission denied (os error 13)".toList
  | invalid => "Invalid argument (os error 22)".toList

/-- Why the server could not start. -/
inductive StartupError where
  /-- The root that was given leads nowhere. -/
  | unresolvedRoot (given : Bytes) (fault : Fault)
  | rootNotDirectory (root : Path)
  | notBound (address : Text) (fault : BindFault)
  deriving DecidableEq, Repr

namespace StartupError

/-- What could not be done. -/
def headline : StartupError → Text
  | unresolvedRoot given _ => "cannot resolve served root ".toList ++ Utf8.decodeLossy given
  | rootNotDirectory root =>
    "served root ".toList ++ root.text ++ " is not a directory".toList
  | notBound address _ => "could not bind to ".toList ++ address

/-- What stood in the way, where that is something else. -/
def cause? : StartupError → Option Text
  | unresolvedRoot _ fault => some fault.message
  | rootNotDirectory _ => none
  | notBound _ fault => some fault.message

/-- The whole story on one line. -/
def message (error : StartupError) : Text :=
  match error.cause? with
  | some cause => error.headline ++ ": ".toList ++ cause
  | none => error.headline

end StartupError

/-- A directory that is served. -/
structure Site where
  root : Path
  /-- The media types of its files. -/
  [types : MediaTypes]

namespace Site

/-- Opens the site at a written path, seen from a directory. -/
def ofPath [MediaTypes] (disk : Disk) (directory : Path) (written : Bytes) :
    Except StartupError Site :=
  match disk.canonicalFrom directory written with
  | .error fault => .error (.unresolvedRoot written fault)
  | .ok place =>
    if place.object.isDirectory then .ok ⟨place.path⟩ else .error (.rootNotDirectory place.path)

/-- The decoded path of a request. -/
def decodePath (urlPath : Text) : Text :=
  Utf8.decodeLossy (Percent.decode (Utf8.encode urlPath))

/-- Whether a segment of a path names an entry. -/
def isPlain (segment : Text) : Bool := segment ≠ [] && segment ≠ ['.'] && segment ≠ ['.', '.']

/-- The segments of a request path that name entries. -/
def segments (urlPath : Text) : List Text := (splitOn '/' (decodePath urlPath)).filter isPlain

/-- Where a request path leads to below the root. -/
def locate (site : Site) (urlPath : Text) : Path :=
  site.root ++ (segments urlPath).map Utf8.encode

/-- Whether a real path lies in the site. -/
def contains (site : Site) (real : Path) : Bool := site.root.isPrefixOf real

/-- The media type of a file with a name. -/
def mediaType (site : Site) (name : Name) : Text := @MediaType.ofName site.types name

theorem isOneLine_mediaType (site : Site) (name : Name) : Text.IsOneLine (site.mediaType name) :=
  @MediaType.isOneLine_ofName site.types name

theorem ofPath_of_canonicalFrom [MediaTypes] {disk : Disk} {directory root : Path}
    {written : Bytes} {access : Access}
    (h : disk.canonicalFrom directory written = .ok ⟨root, .directory access⟩) :
    ofPath disk directory written = .ok ⟨root⟩ := by
  simp only [ofPath, h, Object.isDirectory, if_true]

theorem canonicalFrom_of_ofPath [MediaTypes] {disk : Disk} {directory : Path} {written : Bytes}
    {site : Site} (h : ofPath disk directory written = .ok site) :
    ∃ access, disk.canonicalFrom directory written = .ok ⟨site.root, .directory access⟩ := by
  unfold ofPath at h
  split at h
  · cases h
  next place hplace =>
  split at h
  · next hdirectory =>
    obtain rfl := Except.ok.inj h
    obtain ⟨path, object⟩ := place
    cases object with
    | file => cases hdirectory
    | directory access => exact ⟨access, hplace⟩
  · cases h

theorem segments_plain {urlPath segment : Text} (h : segment ∈ segments urlPath) :
    segment ≠ [] ∧ segment ≠ ['.'] ∧ segment ≠ ['.', '.'] ∧ '/' ∉ segment := by
  obtain ⟨hmem, hplain⟩ := List.mem_filter.1 h
  have hseparator := not_mem_of_mem_splitOn hmem
  obtain ⟨⟨hempty, hdot⟩, hdots⟩ : (segment ≠ [] ∧ segment ≠ ['.']) ∧ segment ≠ ['.', '.'] := by
    simpa [isPlain] using hplain
  exact ⟨hempty, hdot, hdots, hseparator⟩

theorem contains_iff {site : Site} {real : Path} : site.contains real ↔ site.root <+: real := by
  simp [contains]

end Site

end FileServer
