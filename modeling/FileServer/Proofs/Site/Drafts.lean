import FileServer.Proofs.Http.Dates
import FileServer.Proofs.Site.Location
import FileServer.Proofs.Site.Outcomes
import FileServer.Proofs.Text.Lines
import FileServer.Proofs.Text.Utf8

/-!
# The drafts of a site

A draft that waits for the fields that every response has is sound (`Draft.IsSound`): its own
fields are the type, the time and the location, each at most once and each on one line, and only
the draft of an unchanged file leaves out its length. Types come from a table and times from the
calendar, so that the location is the only field in which something of the request is repeated.

* `isOneLine_render`: what is stated of a number or a time stays within a line;
* `isSound_draft`: the draft of an outcome is sound if what it states stays within a line;
* `isOneLine_answer`: what a site states does, whatever a request with a target on one line asks.
-/

namespace FileServer

/-! ## Values on one line -/

/-- A digit does not end a line. -/
theorem Decimal.ne_of_isDigit {c : Char} (h : c.isDigit) : c ≠ '\r' ∧ c ≠ '\n' := by
  constructor <;> rintro rfl <;> simp at h

theorem Decimal.isOneLine_render (n : Nat) : Text.IsOneLine (render n) :=
  fun _ hc => ne_of_isDigit (render_isDigit hc)

theorem HttpDate.isOneLine_render (n : Nat) : Text.IsOneLine (render n) := by
  have hsigns : Text.IsOneLine signs := by decide
  exact fun c hc => (isDateText_render n c hc).elim Decimal.ne_of_isDigit (hsigns c)

/-! ## Sound drafts -/

namespace Draft

/-- The fields that a draft may have before it is completed, in their order. -/
def ownNames : List Text := ["Content-Type".toList, "Last-Modified".toList, "Location".toList]

/-- What every draft is that waits for its last fields. -/
structure IsSound (draft : Draft Status) : Prop where
  names : (draft.headers.map (·.name)).Sublist ownNames
  oneLine : ∀ header ∈ draft.headers, Text.IsOneLine header.value
  /-- Only the draft of an unchanged file leaves out its length. -/
  stated : draft.statesEmptyLength = decide (draft.status ≠ .notModified)
  bodiless : draft.status = .notModified → draft.body = none

/-- A draft with a status only. -/
theorem isSound_withStatus {status : Status} (h : status ≠ .notModified) :
    (empty.withStatus status).IsSound where
  names := List.nil_sublist _
  oneLine := List.forall_mem_nil _
  stated := (decide_eq_true h).symm
  bodiless := fun hunchanged => absurd hunchanged h

/-- Fields are added in the order of `ownNames`. -/
theorem IsSound.header {draft : Draft Status} (h : draft.IsSound) {names : List Text}
    {name value : Text} (hdraft : draft.headers.map (·.name) = names)
    (hnames : (names ++ [name]).Sublist ownNames) (hvalue : Text.IsOneLine value) :
    (draft.header name value).IsSound := by
  have hlength : ∀ name ∈ ownNames, sameName name contentLength = false := by decide
  have hname : name ∈ ownNames := hnames.subset (by simp)
  have hheaders : (draft.header name value).headers = draft.headers ++ [⟨name, value⟩] :=
    headers_header (hlength name hname) _ _
  refine ⟨?_, ?_, ?_, fun hunchanged => ?_⟩
  · rw [hheaders, List.map_append, hdraft]
    exact hnames
  · rw [hheaders, List.forall_mem_append]
    exact ⟨h.oneLine, List.forall_mem_singleton.2 hvalue⟩
  · rw [statesEmptyLength_header, status_header]
    exact h.stated
  · rw [status_header] at hunchanged
    rw [body_header]
    exact h.bodiless hunchanged

/-- A body can be added to all drafts but that of an unchanged file. -/
theorem IsSound.withBody {draft : Draft Status} (h : draft.IsSound)
    (hstatus : draft.status ≠ .notModified) (body : Bytes) : (draft.withBody body).IsSound where
  names := h.names
  oneLine := h.oneLine
  stated := h.stated
  bodiless := fun hunchanged => absurd hunchanged hstatus

theorem isSound_error {status : Status} (h : status ≠ .notModified) (message : Option Text) :
    (error status message).IsSound :=
  ((isSound_withStatus h).header (rfl : _ = []) (by decide) (by decide)).withBody
    (by rwa [status_header]) _

theorem isSound_movedPermanently {location : Text} (h : Text.IsOneLine location) :
    (movedPermanently location).IsSound :=
  (isSound_withStatus (by decide)).header (rfl : _ = []) (by decide) h

theorem isSound_notModified : notModified.IsSound :=
  ⟨by decide, by decide, rfl, fun _ => rfl⟩

/-- The draft that a file or a listing is put into. -/
theorem isSound_ok_header {mediaType : Text} (h : Text.IsOneLine mediaType) :
    (ok.header "Content-Type".toList mediaType).IsSound :=
  (isSound_withStatus (by decide)).header (rfl : _ = []) (by decide) h

end Draft

/-! ## Outcomes -/

namespace Outcome

/-- Whether what an outcome states in a field stays within a line. -/
def IsOneLine : Outcome → Prop
  | redirect location => Text.IsOneLine location
  | file mediaType _ _ => Text.IsOneLine mediaType
  | _ => True

theorem isSound_draft {outcome : Outcome} (h : outcome.IsOneLine) : outcome.draft.IsSound := by
  cases outcome with
  | failed fault => cases fault <;> exact Draft.isSound_error (by decide) _
  | outside real => exact Draft.isSound_error (by decide) _
  | redirect location => exact Draft.isSound_movedPermanently h
  | slashAfterFile => exact Draft.isSound_error (by decide) _
  | notModified => exact Draft.isSound_notModified
  | file mediaType modified contents =>
    refine ((Draft.isSound_ok_header h).header (rfl : _ = ["Content-Type".toList]) (by decide)
      (HttpDate.isOneLine_render modified)).withBody ?_ contents
    rw [Draft.status_header, Draft.status_header]
    decide
  | listing directory =>
    refine (Draft.isSound_ok_header (by decide)).withBody ?_ _
    rw [Draft.status_header]
    decide
  | unlistable directory fault => exact Draft.isSound_error (by decide) _

end Outcome

namespace Site

theorem isOneLine_directoryLocation {request : Request} (h : Text.IsOneLine request.target) :
    Text.IsOneLine (directoryLocation request) := by
  have hsigns : Text.IsOneLine ['/', '?'] := by decide
  intro c hc
  exact (mem_directoryLocation hc).elim (hsigns c) (h c)

theorem isOneLine_answer (site : Site) (disk : Disk) {request : Request}
    (h : Text.IsOneLine request.target) : (site.answer disk request).IsOneLine := by
  have hanswers := site.answers_answer disk request
  generalize site.answer disk request = outcome at hanswers
  cases hanswers with
  | failed | slashAfterFile => trivial
  | refused _ _ hrefusal =>
    obtain ⟨fault, rfl⟩ | ⟨real, rfl⟩ := refusal?_eq_some hrefusal <;> trivial
  | @sent path _ file =>
    obtain hsend | hsend | hsend := site.sendFile_cases request path file <;> rw [hsend]
    · trivial
    · exact site.isOneLine_mediaType _
    · trivial
  | @listed real access =>
    obtain hlist | hlist := list_cases disk request (site.locate request.path) real access <;>
      rw [hlist] <;> trivial
  | redirected => exact isOneLine_directoryLocation h

end Site

end FileServer
