import FileServer.Http.Date
import FileServer.Http.Request
import FileServer.Site.Basic
import FileServer.Site.Listing
import FileServer.Trace

/-!
# Answers of a site

What a site does with a request is decided first, as an `Outcome`, and then put into words as a
draft of a response. A path has to lead to something whose real path lies in the site. A directory
is answered by its index file or by a listing, after a redirect if the path lacks the final slash.

* `contains_of_refusal?`: what is given out lies in the site;
* `sendFile_of_isUnchanged`, `sendFile_of_read`: what is sent of a file.
-/

namespace FileServer

/-- What a site decides to do with a request. -/
inductive Outcome where
  /-- The path leads nowhere, or to something that is not to be read. -/
  | failed (fault : Fault)
  /-- The path leads out of the site. -/
  | outside (real : Path)
  /-- The path lacks the slash of a directory. -/
  | redirect (location : Text)
  /-- The path has the slash of a directory and leads to a file. -/
  | slashAfterFile
  /-- The file has not changed since the time that the client named. -/
  | notModified
  | file (mediaType : Text) (modified : Nat) (contents : Bytes)
  | listing (directory : Listing)
  /-- The directory at a path must not be read. -/
  | unlistable (directory : Path) (fault : Fault)
  deriving DecidableEq, Repr

namespace Outcome

/-- The response to a path that could not be followed. -/
def faultDraft : Fault → Draft Status
  | .permissionDenied => Draft.error .forbidden none
  | _ => Draft.error .notFound (some "File not found".toList)

/-- The response, without the fields that every response has. -/
def draft : Outcome → Draft Status
  | failed fault => faultDraft fault
  | outside _ => Draft.error .forbidden none
  | redirect location => Draft.movedPermanently location
  | slashAfterFile => Draft.error .notFound (some "File not found".toList)
  | notModified => Draft.notModified
  | file mediaType modified contents =>
    ((Draft.ok.header "Content-Type".toList mediaType).header "Last-Modified".toList
      (HttpDate.render modified)).withBody contents
  | listing directory =>
    (Draft.ok.header "Content-Type".toList "text/html; charset=utf-8".toList).withBody
      (Utf8.encode directory.page)
  | unlistable _ _ => Draft.error .notFound (some "No permission to list directory".toList)

/-- What is reported about the decision. -/
def events : Outcome → List Event
  | outside real => [.outsideRoot real]
  | unlistable directory fault => [.unlistable directory fault]
  | _ => []

end Outcome

namespace Site

/-- The names of index files, in the order of preference. -/
def indexNames : List Name :=
  ["index.html".toList, "index.htm".toList].map Utf8.encode

/-- Whether the client has the file as of its last change. A request that names an entity tag is
not answered by time. -/
def isUnchanged (request : Request) (modified : Nat) : Bool :=
  match request.header "If-Modified-Since".toList, request.header "If-None-Match".toList with
  | some since, none =>
    match HttpDate.parse? since with
    | some since => modified ≤ since
    | none => false
  | _, _ => false

/-- Sends a file that was asked for under a path. -/
def sendFile (site : Site) (request : Request) (path : Path) (file : File) : Outcome :=
  let modified := file.modified.wholeSeconds
  if isUnchanged request modified then .notModified
  else if file.access.read then
    .file (site.mediaType (path.getLastD [])) modified file.contents
  else .failed .permissionDenied

/-- The location of the directory that a path without final slash leads to. One slash stands for
those at the front, since two would name another host. -/
def directoryLocation (request : Request) : Text :=
  let path := '/' :: request.path.dropWhile (· = '/')
  match request.query? with
  | some query => path ++ "/?".toList ++ query
  | none => path ++ ['/']

/-- The first index file of a directory, with the path that it is asked for under. -/
def index? (disk : Disk) (directory : Path) : Option (Path × File) :=
  indexNames.findSome? fun name =>
    match disk.resolve (directory ++ [name]) with
    | .ok ⟨_, .file file⟩ => some (directory ++ [name], file)
    | _ => none

/-- Why what a path leads to is not given out, if it is not. -/
def refusal? (site : Site) (disk : Disk) (path : Path) : Option Outcome :=
  match disk.canonical path with
  | .error fault => some (.failed fault)
  | .ok place => if site.contains place.path then none else some (.outside place.path)

/-- Lists a directory that was asked for under a path. -/
def list (disk : Disk) (request : Request) (path real : Path) (access : Access) : Outcome :=
  if access.read then
    .listing (.ofDirectory disk real path (decodePath request.path))
  else .unlistable path .permissionDenied

/-- Decides what to do with a request. -/
def answer (site : Site) (disk : Disk) (request : Request) : Outcome :=
  let path := site.locate request.path
  let slash := request.path.getLast? = some '/'
  match disk.resolve path with
  | .error fault => .failed fault
  | .ok place =>
    (site.refusal? disk path).getD <|
      match place.object with
      | .file file => if slash then .slashAfterFile else site.sendFile request path file
      | .directory access =>
        if slash then
          match index? disk path with
          | some (path, file) => (site.refusal? disk path).getD (site.sendFile request path file)
          | none => list disk request path place.path access
        else .redirect (directoryLocation request)

/-- What is given out lies in the site. -/
theorem contains_of_refusal? {site : Site} {disk : Disk} {path : Path} {place : Place}
    (h : site.refusal? disk path = none) (hplace : disk.resolve path = .ok place) :
    site.contains place.path := by
  unfold refusal? at h
  split at h
  · simp at h
  · rename_i real hreal
    rw [Disk.eq_of_resolve_of_canonical hplace hreal]
    split at h
    · assumption
    · simp at h

theorem sendFile_of_isUnchanged {request : Request} {file : File}
    (h : isUnchanged request file.modified.wholeSeconds) (site : Site) (path : Path) :
    site.sendFile request path file = .notModified := by
  simp [sendFile, h]

theorem sendFile_of_read {request : Request} {file : File}
    (h : isUnchanged request file.modified.wholeSeconds = false)
    (hread : file.access.read) (site : Site) (path : Path) :
    site.sendFile request path file =
      .file (site.mediaType (path.getLastD [])) file.modified.wholeSeconds file.contents := by
  simp [sendFile, h, hread]

end Site

end FileServer
