import FileServer.Http.MediaTable
import FileServer.Proofs.Http.Dates
import FileServer.Proofs.Site.Containment
import FileServer.Proofs.Site.Files

/-!
# Revalidation

A client that has a copy of a file sends back the time of the last change that came with it. It is
told that the file has not changed as long as this is so, and gets the file once the time of its
last change is in a later second. Times are cut to whole seconds, and those before 1970 count as
its beginning, on the way to the client and back.

* `wholeSeconds_eq`: the second that a date states of a time;
* `isUnchanged_iff`: when a request counts as one for a file that has not changed;
* `answer_of_fetches`: a request that leads to a file is answered from it;
* `isNotModified_respond`: an unchanged file is told of by neither a body nor fields of the file;
* `revalidates_respond`: how a file is answered, and what comes of sending its time back.
-/

namespace FileServer

namespace Instant

/-- The second that a time lies in, before or after the beginning of 1970. -/
def second (time : Instant) : Int := (time.seconds * 1000000000 + time.nanoseconds) / 1000000000

/-- A time is cut to its second, and one before 1970 to its beginning. -/
theorem wholeSeconds_eq (time : Instant) : (time.wholeSeconds : Int) = max 0 time.second := by
  unfold wholeSeconds second
  omega

end Instant

/-- Whether the client that sends a request has a file as of a second: the request names no entity
tag, and the first time that it names is a date that does not lie before the second. -/
def Request.HasCopy (request : Request) (second : Int) : Prop :=
  Header.values "If-None-Match".toList request.headers = [] ∧
    ∃ since n, (Header.values "If-Modified-Since".toList request.headers).head? = some since ∧
      HttpDate.parse? since = some n ∧ max 0 second ≤ n

namespace Request

variable {request : Request} {modified : Instant}

/-- A client that sends back the time of the last change of a file has this file as of every second
that does not lie after the time, and as of those before 1970. -/
theorem hasCopy_iff_of_since (hyear : modified.second < HttpDate.secondsBefore10000)
    (hmatch : Header.values "If-None-Match".toList request.headers = [])
    (hsince : (Header.values "If-Modified-Since".toList request.headers).head? =
      some (HttpDate.render modified.wholeSeconds)) (second : Int) :
    request.HasCopy second ↔ second ≤ modified.second ∨ second ≤ 0 := by
  have hwhole := modified.wholeSeconds_eq
  have hbound : (0 : Int) < HttpDate.secondsBefore10000 := by decide
  have hdate : HttpDate.parse? (HttpDate.render modified.wholeSeconds) =
      some modified.wholeSeconds := HttpDate.parse?_render (by omega)
  constructor
  · rintro ⟨-, since, n, hfirst, hparse, hle⟩
    obtain rfl := Option.some.inj (hsince.symm.trans hfirst)
    obtain rfl := Option.some.inj (hdate.symm.trans hparse)
    omega
  · intro hle
    exact ⟨hmatch, _, _, hsince, hdate, by omega⟩

end Request

/-- A date can be sent back as it came. -/
theorem HttpDate.isField_render (n : Nat) :
    Header.IsField ⟨"If-Modified-Since".toList, render n⟩ := by
  have hblank : ∀ c, Request.isPadding c → Text.isBlank c := by
    intro c hc
    have hpadding : c = ' ' ∨ c = '\t' := by simpa [Request.isPadding] using hc
    obtain rfl | rfl := hpadding <;> decide
  have hname : Request.IsFieldName "If-Modified-Since".toList := by decide
  exact ⟨hname, isOneLine_render n, dropWhile_render hblank n, trimEnd_render n⟩

/-- A response that says no more than that a file has not changed. -/
structure Response.IsNotModified (response : Response) : Prop where
  status : response.status = .notModified
  body : response.body = none
  length : response.header Draft.contentLength = none
  modified : response.header "Last-Modified".toList = none

namespace Site

variable {site : Site} {disk : Disk} {request : Request} {path : Path} {file : File}

theorem isUnchanged_iff : isUnchanged request file.modified.wholeSeconds ↔
    request.HasCopy file.modified.second := by
  rw [Request.HasCopy, ← List.head?_eq_none_iff, ← Instant.wholeSeconds_eq]
  simp only [isUnchanged, Request.header, Header.find?_eq_head?_values]
  split
  · next since hsince hmatch =>
    rw [hsince, hmatch]
    cases hparse : HttpDate.parse? since with
    | none => simp [hparse]
    | some n => simp [hparse]
  · next hother =>
    refine iff_of_false Bool.false_ne_true ?_
    rintro ⟨hmatch, since, n, hsince, -⟩
    exact hother since hsince hmatch

/-- The ways in which a request leads to a file of the site: by its own path, or by the path of a
directory that has the file for its index. -/
inductive Fetches (site : Site) (disk : Disk) (request : Request) : Path → File → Prop
  | direct {real : Path} {file : File}
      (hfile : site.Reaches disk request (site.locate request.path) ⟨real, .file file⟩)
      (hslash : request.path.getLast? ≠ some '/') :
      Fetches site disk request (site.locate request.path) file
  | index {directory path real : Path} {access : Access} {file : File}
      (hdirectory : site.Reaches disk request (site.locate request.path)
        ⟨directory, .directory access⟩)
      (hslash : request.path.getLast? = some '/')
      (hindex : index? disk (site.locate request.path) = some (path, file))
      (hfile : site.Reaches disk request path ⟨real, .file file⟩) :
      Fetches site disk request path file

theorem refusal?_of_reaches {place : Place} (h : site.Reaches disk request path place) :
    site.refusal? disk path = none := by
  rw [refusal?, h.canonical]
  exact if_pos (contains_iff.2 h.within)

/-- A request that leads to a file is answered from it. -/
theorem answer_of_fetches (h : site.Fetches disk request path file) :
    site.answer disk request = site.sendFile request path file := by
  cases h with
  | direct hfile hslash =>
    rw [answer_of_file hfile.resolve hslash, refusal?_of_reaches hfile, Option.getD_none]
  | index hdirectory hslash hindex hfile =>
    rw [answer_of_directory hdirectory.resolve hslash, refusal?_of_reaches hdirectory,
      Option.getD_none, hindex]
    simp only [refusal?_of_reaches hfile, Option.getD_none]

end Site

namespace Reply

variable {site : Site} {disk : Disk} {now : Nat} {head : Bytes} {request : Request}
  {path : Path} {file : File}

/-- An unchanged file is told of by neither a body nor fields of the file. -/
theorem isNotModified_respond (hparse : parseHead head = .ok request)
    (hmethod : request.method.isSupported) (hanswer : site.answer disk request = .notModified) :
    (respond site disk now head).response.IsNotModified := by
  have hdraft : draft site disk head = Outcome.notModified.draft := by
    rw [draft_of_parseHead hparse hmethod, hanswer]
  have hstatus : (respond site disk now head).response.status = .notModified := by
    rw [status_respond, hdraft]
    rfl
  refine ⟨hstatus, ?_, ?_, ?_⟩
  · rw [body_respond, hdraft]
    exact ite_self none
  · rw [Response.header, Header.find?_eq_head?_values, values_contentLength, if_pos hstatus]
    rfl
  · have hfields : (respond site disk now head).response.headers = commonFields now := by
      rw [headers_respond, hdraft]
      exact List.append_nil _
    have hother : ∀ header ∈ commonFields now,
        sameName header.name "Last-Modified".toList = false := by
      simp only [commonFields, List.forall_mem_cons]
      decide
    rw [Response.header, Header.find?_eq_head?_values, hfields, Header.values_eq_nil hother]
    rfl

/-- A request that leads to a file is answered by what its client has of it. -/
theorem respond_of_fetches (hparse : parseHead head = .ok request)
    (hmethod : request.method.isSupported) (hfetch : site.Fetches disk request path file)
    (hread : file.access.read) :
    (request.HasCopy file.modified.second →
      (respond site disk now head).response.IsNotModified) ∧
    (¬ request.HasCopy file.modified.second →
      (respond site disk now head).response.Offers request.method file
        (site.mediaType (path.getLastD []))) := by
  have hanswer := Site.answer_of_fetches hfetch
  refine ⟨fun hcopy => ?_, fun hcopy => ?_⟩
  · rw [Site.sendFile_of_isUnchanged (Site.isUnchanged_iff.2 hcopy)] at hanswer
    exact isNotModified_respond hparse hmethod hanswer
  · rw [← Site.isUnchanged_iff, Bool.not_eq_true] at hcopy
    rw [Site.sendFile_of_read hcopy hread] at hanswer
    exact offers_respond hparse hmethod hanswer

/-- A file that has not changed is not sent again. A request for a file of the site, by its path or
as the index of a directory, is answered by 304 if its client has the file as of the second of the
last change, and otherwise by 200. A client that got the file can send back the time that came with
it. As long as the last change of the file, or of whatever file it gets in its place, is not in a
later second, the answer is 304 and says nothing of the file; from then on it is 200 with what the
file has become. -/
theorem revalidates_respond (site : Site) (disk : Disk) (now : Nat) {head : Bytes}
    {request : Request} {path : Path} {file : File} (hparse : parseHead head = .ok request)
    (hmethod : request.method.isSupported) (hfetch : site.Fetches disk request path file)
    (hread : file.access.read) (hyear : file.modified.second < HttpDate.secondsBefore10000) :
    let response := (respond site disk now head).response
    (response.status = .notModified ↔ request.HasCopy file.modified.second) ∧
    (request.HasCopy file.modified.second → response.IsNotModified) ∧
    (¬ request.HasCopy file.modified.second →
      response.Offers request.method file (site.mediaType (path.getLastD []))) ∧
    ∀ value, response.status = .ok → response.header "Last-Modified".toList = some value →
      (∃ other, parseHead other =
        .ok { request with headers := [⟨"If-Modified-Since".toList, value⟩] }) ∧
      ∀ disk' now' head' request' path' file', parseHead head' = .ok request' →
        request'.method.isSupported → site.Fetches disk' request' path' file' →
        file'.access.read → file'.modified.second < HttpDate.secondsBefore10000 →
        Header.values "If-None-Match".toList request'.headers = [] →
        (Header.values "If-Modified-Since".toList request'.headers).head? = some value →
        let next := (respond site disk' now' head').response
        (file'.modified.second ≤ file.modified.second ∨ file'.modified.second ≤ 0 →
          next.IsNotModified) ∧
        (file.modified.second < file'.modified.second → 0 < file'.modified.second →
          next.Offers request'.method file' (site.mediaType (path'.getLastD []))) := by
  intro response
  obtain ⟨hunchanged, hchanged⟩ := @respond_of_fetches site disk now _ _ _ _ hparse hmethod hfetch
    hread
  refine ⟨⟨fun hstatus => ?_, fun hcopy => (hunchanged hcopy).status⟩, hunchanged, hchanged,
    fun value hok hvalue => ?_⟩
  · by_contra hcopy
    cases hstatus.symm.trans (hchanged hcopy).status
  · have hcopy : ¬ request.HasCopy file.modified.second := fun hcopy => by
      cases hok.symm.trans (hunchanged hcopy).status
    obtain rfl := Option.some.inj ((hchanged hcopy).modified.symm.trans hvalue)
    have hwritable := isWritable_of_parseHead hparse
    refine ⟨exists_parseHead_of_isWritable hparse rfl
      ⟨hwritable.1, List.forall_mem_singleton.2 (HttpDate.isField_render _)⟩, ?_⟩
    intro disk' now' head' request' path' file' hparse' hmethod' hfetch' hread' hyear' hmatch hsince
    obtain ⟨hsame, hlater⟩ := @respond_of_fetches site disk' now' _ _ _ _ hparse' hmethod' hfetch'
      hread'
    have hcopy' := Request.hasCopy_iff_of_since hyear hmatch hsince file'.modified.second
    refine ⟨fun hle => hsame (hcopy'.2 hle), fun hlt hpos => hlater fun hcopies => ?_⟩
    have := hcopy'.1 hcopies
    omega

/-- An index file whose last change lies within a second, the time sent back in a field with
another spelling, and a change in the next second. -/
theorem revalidates_respond_of_index :
    let bytes := fun s : String => Utf8.encode s.toList
    let site : Site := ⟨[bytes "srv"]⟩
    let disk := fun file : File => (⟨[⟨[], bytes "srv", .object (.directory .all)⟩,
      ⟨[bytes "srv"], bytes "index.htm", .object (.file file)⟩]⟩ : Disk)
    let old : File := ⟨.all, ⟨784111777, 999999999⟩, bytes "old"⟩
    let new : File := ⟨.all, ⟨784111778, 0⟩, bytes "new"⟩
    let date := "Sun, 06 Nov 1994 08:49:37 GMT"
    let again := bytes ("HEAD // HTTP/1.1\r\nif-modified-since: " ++ date ++ " \r\n\r\n")
    let first := (respond site (disk old) 0 (bytes "GET / HTTP/1.0\r\n\r\n")).response
    first.Offers .get old "text/html".toList ∧
      first.header "Last-Modified".toList = some date.toList ∧
      (respond site (disk old) 1 again).response.IsNotModified ∧
      (respond site (disk new) 2 again).response.Offers .head new "text/html".toList := by
  intro bytes site disk old new date again first
  let request : Request := ⟨.get, "/".toList, .http10, []⟩
  let next : Request :=
    ⟨.head, "//".toList, .http11, [⟨"if-modified-since".toList, date.toList⟩]⟩
  have hparse : parseHead (bytes "GET / HTTP/1.0\r\n\r\n") = .ok request := by
    rw [parseHead_encode]
    decide +kernel
  have hnext : parseHead again = .ok next := by
    rw [parseHead_encode]
    decide +kernel
  have hdirectory : ∀ r ∈ [request, next], ∀ file ∈ [old, new],
      (disk file).resolve (site.locate r.path) = .ok ⟨[bytes "srv"], .directory .all⟩ ∧
      site.refusal? (disk file) (site.locate r.path) = none ∧
      site.locate r.path = [bytes "srv"] ∧ r.path.getLast? = some '/' := by decide +kernel
  have hfile : ∀ file ∈ [old, new],
      (disk file).resolve [bytes "srv", bytes "index.htm"] =
        .ok ⟨[bytes "srv", bytes "index.htm"], .file file⟩ ∧
      site.refusal? (disk file) [bytes "srv", bytes "index.htm"] = none ∧
      Site.index? (disk file) [bytes "srv"] =
        some ([bytes "srv", bytes "index.htm"], file) := by decide +kernel
  have hfetch : ∀ r ∈ [request, next], ∀ file ∈ [old, new],
      site.Fetches (disk file) r [bytes "srv", bytes "index.htm"] file := by
    intro r hr file hmem
    obtain ⟨hplace, hrefusal, hlocate, hslash⟩ := hdirectory r hr file hmem
    obtain ⟨hplace', hrefusal', hindex⟩ := hfile file hmem
    have hasked : [bytes "srv", bytes "index.htm"] ∈ site.askedPaths r := by
      unfold Site.askedPaths
      rw [hlocate]
      decide +kernel
    exact .index (Site.reaches_of_refusal? List.mem_cons_self hplace hrefusal) hslash
      (hlocate ▸ hindex) (Site.reaches_of_refusal? hasked hplace' hrefusal')
  obtain ⟨-, -, hoffers, hecho⟩ := revalidates_respond site (disk old) 0 hparse rfl
    (hfetch _ (by simp) _ (by simp)) rfl (by decide)
  have hnew : ¬ request.HasCopy old.modified.second := by
    rintro ⟨-, _, _, hsince, -⟩
    cases hsince
  have hfirst := hoffers hnew
  have hdate : first.header "Last-Modified".toList = some date.toList :=
    hfirst.modified.trans (by decide +kernel)
  obtain ⟨-, hlater⟩ := hecho _ hfirst.status hdate
  refine ⟨hfirst, hdate, ?_, ?_⟩
  · exact (hlater (disk old) 1 _ next _ old hnext rfl (hfetch _ (by simp) _ (by simp)) rfl
      (by decide) (by decide) (by decide)).1 (.inl (by decide))
  · exact (hlater (disk new) 2 _ next _ new hnext rfl (hfetch _ (by simp) _ (by simp)) rfl
      (by decide) (by decide) (by decide)).2 (by decide) (by decide)

end Reply

end FileServer
