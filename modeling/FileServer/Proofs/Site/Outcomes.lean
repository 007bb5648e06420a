import FileServer.Site.Answer

/-!
# How a site comes to its answer

Each way in which a site answers a request, with what was found on it (`Answers`). What is proved
of every answer goes by these cases, so that the decision itself is followed in one place only.

* `answers_answer`: the answer of a site is come to in one of these ways;
* `answer_of_file`, `answer_of_directory`: what answers a path, from what it leads to;
* `sendFile_cases`, `list_cases`, `refusal?_eq_some`: what can come of them;
* `warrants_answer`: what is known of a request from its answer;
* `status_draft`: the status by which a client is told of each outcome.
-/

namespace FileServer

namespace Site

/-- The paths that a request may be answered from: its own, and those of index files below it. -/
def askedPaths (site : Site) (request : Request) : List Path :=
  site.locate request.path :: indexNames.map fun name => site.locate request.path ++ [name]

/-- The ways in which a site answers a request. -/
inductive Answers (site : Site) (disk : Disk) (request : Request) : Outcome → Prop
  /-- The path leads nowhere. -/
  | failed {fault : Fault} (hpath : disk.resolve (site.locate request.path) = .error fault) :
      Answers site disk request (.failed fault)
  /-- What a path leads to is not given out. -/
  | refused {path : Path} {place : Place} {outcome : Outcome}
      (hasked : path ∈ site.askedPaths request) (hplace : disk.resolve path = .ok place)
      (hrefusal : site.refusal? disk path = some outcome) : Answers site disk request outcome
  /-- A path leads to a file. -/
  | sent {path real : Path} {file : File} (hasked : path ∈ site.askedPaths request)
      (hplace : disk.resolve path = .ok ⟨real, .file file⟩)
      (hrefusal : site.refusal? disk path = none) :
      Answers site disk request (site.sendFile request path file)
  /-- The path leads to a file and ends with a slash. -/
  | slashAfterFile {real : Path} {file : File}
      (hplace : disk.resolve (site.locate request.path) = .ok ⟨real, .file file⟩)
      (hslash : request.path.getLast? = some '/') : Answers site disk request .slashAfterFile
  /-- The path leads to a directory without an index file. -/
  | listed {real : Path} {access : Access}
      (hplace : disk.resolve (site.locate request.path) = .ok ⟨real, .directory access⟩)
      (hrefusal : site.refusal? disk (site.locate request.path) = none)
      (hslash : request.path.getLast? = some '/') :
      Answers site disk request (list disk request (site.locate request.path) real access)
  /-- The path leads to a directory and does not end with a slash. -/
  | redirected {real : Path} {access : Access}
      (hplace : disk.resolve (site.locate request.path) = .ok ⟨real, .directory access⟩)
      (hslash : request.path.getLast? ≠ some '/') :
      Answers site disk request (.redirect (directoryLocation request))

theorem index?_eq_some {disk : Disk} {directory path : Path} {file : File}
    (h : index? disk directory = some (path, file)) :
    (∃ name ∈ indexNames, path = directory ++ [name]) ∧
      ∃ real, disk.resolve path = .ok ⟨real, .file file⟩ := by
  obtain ⟨name, hname, h⟩ := List.exists_of_findSome?_eq_some h
  split at h
  · next real found hreal =>
    obtain ⟨rfl, rfl⟩ := Prod.mk.inj (Option.some.inj h)
    exact ⟨⟨name, hname, rfl⟩, real, hreal⟩
  · cases h

theorem answers_answer (site : Site) (disk : Disk) (request : Request) :
    Answers site disk request (site.answer disk request) := by
  have hself : site.locate request.path ∈ site.askedPaths request := List.mem_cons_self
  unfold answer
  simp only
  split
  · next fault hpath => exact .failed hpath
  next place hplace =>
  obtain ⟨real, object⟩ := place
  cases hrefusal : site.refusal? disk (site.locate request.path) with
  | some outcome => exact .refused hself hplace hrefusal
  | none =>
    rw [Option.getD_none]
    cases object with
    | file file =>
      simp only
      split
      · next hslash => exact .slashAfterFile hplace hslash
      · exact .sent hself hplace hrefusal
    | directory access =>
      simp only
      split
      · next hslash =>
        split
        · next path file hindex =>
          obtain ⟨⟨name, hname, rfl⟩, real, hfile⟩ := index?_eq_some hindex
          have hasked : site.locate request.path ++ [name] ∈ site.askedPaths request :=
            List.mem_cons_of_mem _ (List.mem_map_of_mem hname)
          cases hfrefusal : site.refusal? disk (site.locate request.path ++ [name]) with
          | some outcome => exact .refused hasked hfile hfrefusal
          | none => exact .sent hasked hfile hfrefusal
        · exact .listed hplace hrefusal hslash
      · next hslash => exact .redirected hplace hslash

/-- What answers a path without final slash that leads to a file. -/
theorem answer_of_file {site : Site} {disk : Disk} {request : Request} {real : Path} {file : File}
    (hplace : disk.resolve (site.locate request.path) = .ok ⟨real, .file file⟩)
    (hslash : request.path.getLast? ≠ some '/') :
    site.answer disk request = (site.refusal? disk (site.locate request.path)).getD
      (site.sendFile request (site.locate request.path) file) := by
  simp only [answer, hplace, if_neg hslash]

/-- What answers a path with final slash that leads to a directory. -/
theorem answer_of_directory {site : Site} {disk : Disk} {request : Request} {real : Path}
    {access : Access}
    (hplace : disk.resolve (site.locate request.path) = .ok ⟨real, .directory access⟩)
    (hslash : request.path.getLast? = some '/') :
    site.answer disk request = (site.refusal? disk (site.locate request.path)).getD
      (match index? disk (site.locate request.path) with
        | some (path, file) => (site.refusal? disk path).getD (site.sendFile request path file)
        | none => list disk request (site.locate request.path) real access) := by
  cases hindex : index? disk (site.locate request.path) with
  | none => simp only [answer, hplace, if_pos hslash, hindex]
  | some found => simp only [answer, hplace, if_pos hslash, hindex]

/-- What is sent of a file, if anything. -/
theorem sendFile_cases (site : Site) (request : Request) (path : Path) (file : File) :
    site.sendFile request path file = .notModified ∨
      site.sendFile request path file =
        .file (site.mediaType (path.getLastD [])) file.modified.wholeSeconds file.contents ∨
      site.sendFile request path file = .failed .permissionDenied := by
  cases hunchanged : isUnchanged request file.modified.wholeSeconds with
  | true => exact .inl (sendFile_of_isUnchanged hunchanged site path)
  | false =>
    cases hread : file.access.read with
    | true => exact .inr (.inl (sendFile_of_read hunchanged hread site path))
    | false => exact .inr (.inr (by simp [sendFile, hunchanged, hread]))

theorem list_cases (disk : Disk) (request : Request) (path real : Path) (access : Access) :
    list disk request path real access =
        .listing (.ofDirectory disk real path (decodePath request.path)) ∨
      list disk request path real access = .unlistable path .permissionDenied := by
  unfold list
  split
  · exact .inl rfl
  · exact .inr rfl

/-- A refusal says that a path cannot be followed, or that it leads out of the site. -/
theorem refusal?_eq_some {site : Site} {disk : Disk} {path : Path} {outcome : Outcome}
    (h : site.refusal? disk path = some outcome) :
    (∃ fault, outcome = .failed fault) ∨ ∃ real, outcome = .outside real := by
  unfold refusal? at h
  split at h
  · exact .inl ⟨_, (Option.some.inj h).symm⟩
  · split at h
    · cases h
    · exact .inr ⟨_, (Option.some.inj h).symm⟩

/-- What is known of a request that gets an answer for which the final slash counts. -/
def Warrants (site : Site) (disk : Disk) (request : Request) : Outcome → Prop
  | .slashAfterFile =>
    (∃ real file, disk.resolve (site.locate request.path) = .ok ⟨real, .file file⟩) ∧
      request.path.getLast? = some '/'
  | .redirect location =>
    (∃ real access, disk.resolve (site.locate request.path) = .ok ⟨real, .directory access⟩) ∧
      request.path.getLast? ≠ some '/' ∧ location = directoryLocation request
  | .listing listing => ∃ real access,
    disk.resolve (site.locate request.path) = .ok ⟨real, .directory access⟩ ∧
      request.path.getLast? = some '/' ∧
      listing = .ofDirectory disk real (site.locate request.path) (decodePath request.path)
  | _ => True

theorem warrants_answer (site : Site) (disk : Disk) (request : Request) :
    site.Warrants disk request (site.answer disk request) := by
  have hanswers := site.answers_answer disk request
  generalize site.answer disk request = outcome at hanswers
  cases hanswers with
  | failed => trivial
  | refused _ _ hrefusal =>
    obtain ⟨fault, rfl⟩ | ⟨real, rfl⟩ := refusal?_eq_some hrefusal <;> trivial
  | @sent path _ file =>
    obtain hsend | hsend | hsend := site.sendFile_cases request path file <;> rw [hsend] <;> trivial
  | slashAfterFile hplace hslash => exact ⟨⟨_, _, hplace⟩, hslash⟩
  | @listed real access hplace _ hslash =>
    obtain hlist | hlist := list_cases disk request (site.locate request.path) real access <;>
      rw [hlist]
    · exact ⟨real, access, hplace, hslash, rfl⟩
    · trivial
  | redirected hplace hslash => exact ⟨⟨_, _, hplace⟩, hslash, rfl⟩

end Site

namespace Outcome

/-- The status that tells a client of an outcome. -/
def status : Outcome → Status
  | failed .permissionDenied | outside _ => .forbidden
  | failed _ | slashAfterFile | unlistable _ _ => .notFound
  | redirect _ => .movedPermanently
  | notModified => .notModified
  | file _ _ _ | listing _ => .ok

@[simp] theorem status_draft (outcome : Outcome) : outcome.draft.status = outcome.status := by
  cases outcome with
  | failed fault => cases fault <;> exact Draft.status_error _ _
  | outside | slashAfterFile | unlistable => exact Draft.status_error _ _
  | redirect => exact Draft.status_header _ _ _
  | notModified => rfl
  | file =>
    rw [draft, Draft.status_withBody, Draft.status_header, Draft.status_header]
    rfl
  | listing =>
    rw [draft, Draft.status_withBody, Draft.status_header]
    rfl

theorem exists_redirect_of_status {outcome : Outcome} (h : outcome.status = .movedPermanently) :
    ∃ location, outcome = .redirect location := by
  cases outcome with
  | redirect location => exact ⟨location, rfl⟩
  | failed fault => cases fault <;> cases h
  | _ => cases h

theorem headers_draft_redirect (location : Text) :
    (redirect location).draft.headers = [⟨"Location".toList, location⟩] :=
  Draft.headers_header (by decide) _ _

theorem headers_draft_file (mediaType : Text) (modified : Nat) (contents : Bytes) :
    (file mediaType modified contents).draft.headers =
      [⟨"Content-Type".toList, mediaType⟩,
        ⟨"Last-Modified".toList, HttpDate.render modified⟩] := by
  have hname : ∀ name ∈ ["Content-Type".toList, "Last-Modified".toList],
      sameName name Draft.contentLength = false := by decide
  rw [draft, Draft.withBody, Draft.headers_header (hname _ (by simp)),
    Draft.headers_header (hname _ (by simp))]
  rfl

end Outcome

end FileServer
