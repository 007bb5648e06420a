import FileServer.Http.Draft

/-!
# Drafts after any number of edits

A draft is edited in steps, before and after its status is set: a field is added, the body is
replaced, or it is said whether an empty body has its length stated. What comes of the steps is
read off their list: the fields in their order, the last body and the last flag. Where the status
was set among them has no influence, and a length that was added as a field is nowhere to be found.

* `edit_eq`, `revise_eq`: what one step does, and what a list of steps does;
* `filter_headers_build`: the fields by which a finished response states a length;
* `build_revise`: the response that any steps lead to.
-/

namespace FileServer

/-- A step in which a draft is edited. -/
inductive Edit where
  | field (name value : Text)
  | body (content : Bytes)
  | emptyLength (stated : Bool)
  deriving DecidableEq, Repr

namespace Edit

/-- The field that a step asks for. -/
def field? : Edit → Option Header
  | field name value => some ⟨name, value⟩
  | _ => none

/-- The body that a step asks for. -/
def body? : Edit → Option Bytes
  | body content => some content
  | _ => none

/-- What a step says of the length of an empty body. -/
def emptyLength? : Edit → Option Bool
  | emptyLength stated => some stated
  | _ => none

/-- Whether a field states a length. -/
def isLength (header : Header) : Bool := sameName header.name Draft.contentLength

/-- The fields that are asked for, in their order, but for those that state a length. -/
def fields (edits : List Edit) : List Header := (edits.filterMap field?).filter (!isLength ·)

/-- What is asked for last by the steps that ask for something of a kind. -/
def last? {α : Type} (kind : Edit → Option α) (edits : List Edit) : Option α :=
  (edits.filterMap kind).getLast?

theorem fields_append (edits more : List Edit) :
    fields (edits ++ more) = fields edits ++ fields more := by
  rw [fields, List.filterMap_append, List.filter_append]
  rfl

/-- What is asked for later counts. -/
theorem last?_append {α : Type} (kind : Edit → Option α) (edits more : List Edit) :
    last? kind (edits ++ more) = (last? kind more).or (last? kind edits) := by
  rw [last?, List.filterMap_append, List.getLast?_append]
  rfl

/-- No field that was asked for states a length. -/
theorem isLength_of_mem_fields {edits : List Edit} {header : Header} (h : header ∈ fields edits) :
    isLength header = false := by
  simpa using (List.mem_filter.1 h).2

end Edit

namespace Draft

open Edit (fields last? body? emptyLength? isLength)

variable {σ : Type}

/-- The draft after one step. -/
def edit (draft : Draft σ) : Edit → Draft σ
  | .field name value => draft.header name value
  | .body content => draft.withBody content
  | .emptyLength stated => draft.stateEmptyLength stated

/-- The draft after some steps, the first of which is made first. -/
def revise (draft : Draft σ) (edits : List Edit) : Draft σ := edits.foldl edit draft

/-! ## Steps -/

/-- What one step does to a draft. -/
theorem edit_eq (draft : Draft σ) (step : Edit) :
    draft.edit step = ⟨draft.status, draft.headers ++ fields [step],
      (last? body? [step]).or draft.body,
      (last? emptyLength? [step]).getD draft.statesEmptyLength⟩ := by
  cases step with
  | field name value =>
    have hfields : fields [.field name value] =
        if sameName name contentLength then [] else [⟨name, value⟩] := by
      cases hname : sameName name contentLength <;> simp [fields, Edit.field?, isLength, hname]
    rw [hfields, edit, header]
    split
    · rw [List.append_nil]
      rfl
    · rfl
  | body | emptyLength =>
    rw [show fields [_] = [] from rfl, List.append_nil]
    rfl

/-- What a list of steps does to a draft. -/
theorem revise_eq (draft : Draft σ) (edits : List Edit) :
    draft.revise edits = ⟨draft.status, draft.headers ++ fields edits,
      (last? body? edits).or draft.body,
      (last? emptyLength? edits).getD draft.statesEmptyLength⟩ := by
  induction edits generalizing draft with
  | nil =>
    rw [show fields [] = [] from rfl, List.append_nil]
    rfl
  | cons step steps ih =>
    have hfirst : draft.revise (step :: steps) = (draft.edit step).revise steps := rfl
    rw [hfirst, ih, edit_eq]
    simp only [← List.singleton_append (l := steps), Edit.fields_append, Edit.last?_append,
      List.append_assoc, Option.or_assoc, Option.getD_or]

/-- Where the status is set among the steps has no influence. -/
theorem revise_withStatus_revise (before after : List Edit) (status : Status) :
    ((empty.revise before).withStatus status).revise after =
      ⟨status, fields (before ++ after), last? body? (before ++ after),
        (last? emptyLength? (before ++ after)).getD true⟩ := by
  simp only [revise_eq, withStatus, empty, Edit.fields_append, Edit.last?_append, List.nil_append,
    Option.or_none, Option.getD_or]

/-- A field can be added before or after the body is replaced. -/
theorem edit_field_body (draft : Draft σ) (name value : Text) (content : Bytes) :
    (draft.edit (.field name value)).edit (.body content) =
      (draft.edit (.body content)).edit (.field name value) := by
  simp only [edit, header, withBody]
  split <;> rfl

theorem edit_field_emptyLength (draft : Draft σ) (name value : Text) (stated : Bool) :
    (draft.edit (.field name value)).edit (.emptyLength stated) =
      (draft.edit (.emptyLength stated)).edit (.field name value) := by
  simp only [edit, header, stateEmptyLength]
  split <;> rfl

/-! ## Finished responses -/

/-- The field by which a finished draft states its length, if it does. -/
def lengthField (draft : Draft σ) : List Header :=
  if draft.bodyLength = 0 ∧ draft.statesEmptyLength = false then []
  else [⟨contentLength, Decimal.render draft.bodyLength⟩]

theorem headers_build_eq (draft : Draft Status) :
    draft.build.headers = draft.headers ++ draft.lengthField := by
  rw [headers_build, lengthField]
  split
  · exact (List.append_nil _).symm
  · rfl

theorem filter_lengthField (draft : Draft σ) :
    draft.lengthField.filter isLength = draft.lengthField := by
  unfold lengthField
  split
  · rfl
  · exact List.filter_cons_of_pos (sameName_refl _)

/-- No field states the length of a finished draft but the one that was added for it, if none of
its own fields is a length. -/
theorem filter_headers_build {draft : Draft Status}
    (h : ∀ header ∈ draft.headers, isLength header = false) :
    draft.build.headers.filter isLength = draft.lengthField := by
  have hnone : draft.headers.filter isLength = [] :=
    List.filter_eq_nil_iff.2 fun header hheader => by simp [h header hheader]
  rw [headers_build_eq, List.filter_append, hnone, List.nil_append, filter_lengthField]

/-- The response that any steps lead to, with the status set somewhere among them. It has the last
body, the fields in the order in which they were added, and behind them the length of the body,
which is left out for an empty body if that was asked for last. No other field states a length. A
field can be added before or after a step of another kind. -/
theorem build_revise (before after : List Edit) (status : Status) :
    let edits := before ++ after
    let response := (((empty.revise before).withStatus status).revise after).build
    let length : List Header :=
      if (last? body? edits).getD [] = [] ∧ last? emptyLength? edits = some false then []
      else [⟨contentLength, Decimal.render ((last? body? edits).getD []).length⟩]
    response.status = status ∧ response.body = last? body? edits ∧
      response.headers = fields edits ++ length ∧ response.headers.filter isLength = length ∧
      (∀ (σ : Type) (draft : Draft σ) (name value : Text) (content : Bytes),
        (draft.edit (.field name value)).edit (.body content) =
          (draft.edit (.body content)).edit (.field name value)) ∧
      ∀ (σ : Type) (draft : Draft σ) (name value : Text) (stated : Bool),
        (draft.edit (.field name value)).edit (.emptyLength stated) =
          (draft.edit (.emptyLength stated)).edit (.field name value) := by
  intro edits response length
  have hdraft := revise_withStatus_revise before after status
  have hlength : lengthField (((empty.revise before).withStatus status).revise after) = length := by
    have hasked : (last? emptyLength? edits).getD true = false ↔
        last? emptyLength? edits = some false := by
      cases last? emptyLength? edits <;> simp
    rw [hdraft]
    simp only [lengthField, bodyLength, List.length_eq_zero_iff]
    exact ite_congr (by rw [hasked]) (fun _ => rfl) fun _ => rfl
  have hfiltered : response.headers.filter isLength = length := by
    rw [← hlength]
    refine filter_headers_build fun header hheader => ?_
    rw [hdraft] at hheader
    exact Edit.isLength_of_mem_fields hheader
  have hheaders : response.headers = fields edits ++ length := by
    rw [← hlength, headers_build_eq, hdraft]
  refine ⟨?_, ?_, hheaders, hfiltered, fun σ => edit_field_body, fun σ => edit_field_emptyLength⟩
  · rw [status_build, hdraft]
  · rw [body_build, hdraft]

/-- A length that was added as a field is replaced by that of the last body. -/
example : (((empty.revise [.field "a".toList "1".toList, .body [0x78]]).withStatus .ok).revise
      [.field "content-length".toList "99".toList, .body [0x78, 0x79, 0x7A],
        .field "A".toList "2".toList]).build.headers =
    [⟨"a".toList, "1".toList⟩, ⟨"A".toList, "2".toList⟩,
      ⟨"Content-Length".toList, "3".toList⟩] := by
  decide +kernel

end Draft

end FileServer
