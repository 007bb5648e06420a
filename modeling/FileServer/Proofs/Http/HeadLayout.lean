import Mathlib.Data.List.DropRight
import FileServer.Proofs.Http.HeadGrammar
import FileServer.Proofs.Http.VersionToken

/-!
# Layouts of request heads

A request can be written in many ways: with other spellings of its version, with LF or CR LF after
each line, with blanks around the value of each field, and with or without a blank line at the end
(`HeadLayout`). Each of them is a head in the sense of the grammar, so each of them is read as the
request that was written.

* `trimEnd_dropWhile_append`: what surrounds the value of a field is stripped, and nothing else;
* `fieldBlock_renderFields`: the field lines of a layout state the fields that were written;
* `isWritable_of_isHead`, `exists_parse_of_isWritable`: what is read can be written, and the other
  way round;
* `parse_eq_ok_iff_and_parse_render`: what is read as a request, and that every layout is.
-/

namespace FileServer

/-! ## What can be written -/

/-- Whether a field can be written on a line and read back: its value has nothing at its ends that
reading strips. -/
def Header.IsField (header : Header) : Prop :=
  Request.IsFieldName header.name ∧ Text.IsOneLine header.value ∧
    header.value.dropWhile Request.isPadding = header.value ∧
    Text.trimEnd header.value = header.value

instance (header : Header) : Decidable header.IsField :=
  inferInstanceAs (Decidable (_ ∧ _ ∧ _ ∧ _))

/-- Whether a request can be written as a head. That there is a token for its version is left to
the layout. -/
def Request.IsWritable (request : Request) : Prop :=
  Request.IsToken request.target ∧ ∀ header ∈ request.headers, header.IsField

instance (request : Request) : Decidable request.IsWritable :=
  inferInstanceAs (Decidable (_ ∧ _))

/-- How a field is written: what stands before and after its value, and how its line ends. -/
structure FieldLayout where
  padding : Text
  blanks : Text
  ending : LineEnd
  padding_isPadding : ∀ c ∈ padding, Request.isPadding c
  blanks_isBlank : ∀ c ∈ blanks, Text.isBlank c
  blanks_isOneLine : Text.IsOneLine blanks
  ending_ne : ending ≠ .missing

/-- The line of a field. -/
def FieldLayout.render (layout : FieldLayout) (header : Header) : Text :=
  header.name ++ ':' :: (layout.padding ++ (header.value ++ layout.blanks)) ++ layout.ending.text

/-- How a head with a version is written: the token of the version, how the request line ends, how
each field is written, how the blank line ends (the head ends with the text if it is missing), and
what follows the head. -/
structure HeadLayout (version : Version) where
  versionToken : Text
  ending : LineEnd
  field : Nat → FieldLayout
  closing : LineEnd
  after : Text
  parse_versionToken : Version.parse versionToken = .ok version
  ending_ne : ending ≠ .missing
  after_eq : closing = .missing → after = []

/-- The lines of fields, each with a layout of its own. -/
def HeadLayout.renderFields (layout : Nat → FieldLayout) : List Header → Text
  | [] => []
  | header :: headers =>
    (layout 0).render header ++ renderFields (fun n => layout (n + 1)) headers

/-- The head of a request, with what follows it. -/
def HeadLayout.render (request : Request) (layout : HeadLayout request.version) : Text :=
  request.requestLine layout.versionToken ++ layout.ending.text ++
    (renderFields layout.field request.headers ++ (layout.closing.text ++ layout.after))

/-! ## Stripping -/

theorem Text.trimEnd_append {blanks : Text} (h : ∀ c ∈ blanks, isBlank c) (t : Text) :
    trimEnd (t ++ blanks) = trimEnd t := by
  have hreverse : ∀ c ∈ blanks.reverse, isBlank c := fun c hc => h c (List.mem_reverse.1 hc)
  rw [trimEnd, List.reverse_append, List.dropWhile_append_of_pos hreverse, trimEnd]

theorem Text.trimEnd_of_isBlank {blanks : Text} (h : ∀ c ∈ blanks, isBlank c) :
    trimEnd blanks = [] :=
  trimEnd_append h []

/-- What surrounds the value of a field is stripped, and nothing else. -/
theorem Text.trimEnd_dropWhile_append {value blanks : Text}
    (hvalue : value.dropWhile Request.isPadding = value) (htrim : trimEnd value = value)
    (hblanks : ∀ c ∈ blanks, isBlank c) :
    trimEnd ((value ++ blanks).dropWhile Request.isPadding) = value := by
  rw [List.dropWhile_append, hvalue]
  split
  · next hempty =>
    obtain rfl := List.isEmpty_iff.1 hempty
    exact trimEnd_of_isBlank fun c hc => hblanks c ((List.dropWhile_suffix _).subset hc)
  · rw [trimEnd_append hblanks, htrim]

namespace HeadLayout

theorem fieldLine_render {header : Header} (h : header.IsField) (layout : FieldLayout) :
    Request.FieldLine (layout.render header) header := by
  obtain ⟨hname, hvalue, hpadding, htrim⟩ := h
  have hline := Request.FieldLine.intro hname layout.padding_isPadding
    (Text.isOneLine_append.2 ⟨hvalue, layout.blanks_isOneLine⟩) layout.ending_ne
  rwa [Text.trimEnd_dropWhile_append hpadding htrim layout.blanks_isBlank] at hline

theorem fieldBlock_renderFields {headers : List Header} (h : ∀ header ∈ headers, header.IsField)
    (layout : Nat → FieldLayout) {closing : LineEnd} {after : Text}
    (hafter : closing = .missing → after = []) :
    Request.FieldBlock (renderFields layout headers ++ (closing.text ++ after)) headers after := by
  induction headers generalizing layout with
  | nil =>
    by_cases hclosing : closing = .missing
    · obtain rfl := hafter hclosing
      rw [hclosing]
      exact .ended
    · exact .blank hclosing after
  | cons header headers ih =>
    obtain ⟨hheader, hheaders⟩ := List.forall_mem_cons.1 h
    rw [renderFields, List.append_assoc]
    exact .field (fieldLine_render hheader _) (ih hheaders _)

end HeadLayout

theorem Request.isToken_of_parse {token : Text} {version : Version}
    (h : Version.parse token = .ok version) : IsToken token := by
  have hplain : ∀ c ∈ token, c ≠ ' ' ∧ c ≠ '\r' ∧ c ≠ '\n' := by
    intro c hc
    have := Version.forall_mem_of_parse h c hc
    refine ⟨?_, ?_, ?_⟩ <;> rintro rfl <;> simp at this
  exact ⟨Version.ne_nil_of_parse h, fun hc => (hplain _ hc).1 rfl, fun c hc => (hplain c hc).2⟩

/-- A layout of a request is a head of it. -/
theorem HeadLayout.isHead_render {request : Request} (h : request.IsWritable)
    (layout : HeadLayout request.version) :
    Request.IsHead (layout.render request) request layout.after :=
  .intro h.1 (Request.isToken_of_parse layout.parse_versionToken) layout.parse_versionToken
    (fun he => absurd he layout.ending_ne) (fieldBlock_renderFields h.2 _ layout.after_eq)

/-! ## What is read can be written -/

theorem Header.isField_of_fieldLine {line : Text} {header : Header}
    (h : Request.FieldLine line header) : header.IsField := by
  obtain @⟨name, padding, value, ending, hname, -, hvalue, -⟩ := h
  have hbegins : Text.trimEnd (value.dropWhile Request.isPadding) <+: _ :=
    List.rdropWhile_prefix Text.isBlank _
  refine ⟨hname, hvalue.mono fun c hc => ?_, ?_, List.rdropWhile_idempotent Text.isBlank _⟩
  · exact (List.dropWhile_suffix _).subset (hbegins.subset hc)
  · -- what is left of the value begins with the character at which stripping stopped, if at all
    generalize hkept : Text.trimEnd (value.dropWhile Request.isPadding) = kept at hbegins ⊢
    cases kept with
    | nil => rfl
    | cons c kept =>
      obtain ⟨rest, hrest⟩ := hbegins
      have hhead := List.head?_dropWhile_not Request.isPadding value
      rw [← hrest] at hhead
      have hc : Request.isPadding c = false := by simpa using hhead
      rw [List.dropWhile_cons_of_neg (by simp [hc])]

theorem Request.isWritable_of_isHead {text rest : Text} {request : Request}
    (h : IsHead text request rest) : request.IsWritable := by
  obtain ⟨htarget, -, -, -, hfields⟩ := h
  refine ⟨htarget, ?_⟩
  clear htarget
  generalize request.headers = headers at hfields
  induction hfields with
  | ended => simp
  | blank => simp
  | field hline _ ih => exact List.forall_mem_cons.2 ⟨Header.isField_of_fieldLine hline, ih⟩

namespace Request

/-- What can be written is read from some text, if there is a token for its version. -/
theorem exists_parse_of_isWritable {text : Text} {request next : Request}
    (h : parse text = .ok request) (hversion : next.version = request.version)
    (hnext : next.IsWritable) : ∃ other, parse other = .ok next := by
  obtain ⟨_, ⟨-, -, hparse, -, -⟩⟩ := isHead_of_parse h
  let plain : FieldLayout :=
    ⟨[], [], .crlf, List.forall_mem_nil _, List.forall_mem_nil _, Text.isOneLine_nil, by decide⟩
  let layout : HeadLayout next.version :=
    ⟨_, .crlf, fun _ => plain, .crlf, [], hversion ▸ hparse, by decide, fun _ => rfl⟩
  exact ⟨layout.render next, parse_of_isHead (layout.isHead_render hnext)⟩

/-- A text is read as a request exactly if it begins with a head that states the request, and what
is read can be written. Every request that can be written is read back from each of its layouts. -/
theorem parse_eq_ok_iff_and_parse_render :
    (∀ text request, parse text = .ok request ↔ ∃ rest, IsHead text request rest) ∧
      (∀ text request, parse text = .ok request → request.IsWritable) ∧
      ∀ request : Request, request.IsWritable → ∀ layout : HeadLayout request.version,
        parse (layout.render request) = .ok request := by
  refine ⟨fun text request => ⟨isHead_of_parse, ?_⟩, fun text request h => ?_,
    fun request h layout => ?_⟩
  · rintro ⟨rest, hrest⟩
    exact parse_of_isHead hrest
  · obtain ⟨rest, hrest⟩ := isHead_of_parse h
    exact isWritable_of_isHead hrest
  · exact parse_of_isHead (layout.isHead_render h)

/-- A head with a leading zero in its version, mixed endings, blanks of several kinds around a
value and bytes after the blank line. -/
theorem parse_render_mixed :
    let request : Request :=
      ⟨.get, "/a?b".toList, .http11, [⟨"Host".toList, "h".toList⟩, ⟨"X".toList, []⟩]⟩
    request.IsWritable ∧
      parse "GET /a?b HTTP/01.1\nHost:\t h\x0b \r\nX: \n\r\nbody".toList = .ok request := by
  refine ⟨by decide, ?_⟩
  exact parse_eq_ok_iff_and_parse_render.2.2
    ⟨.get, "/a?b".toList, .http11, [⟨"Host".toList, "h".toList⟩, ⟨"X".toList, []⟩]⟩ (by decide)
    { versionToken := "HTTP/01.1".toList
      ending := .lf
      field := fun n =>
        if n = 0 then ⟨"\t ".toList, "\x0b ".toList, .crlf, List.all_eq_true.1 (by decide),
          List.all_eq_true.1 (by decide), by decide, by decide⟩
        else ⟨" ".toList, [], .lf, List.all_eq_true.1 (by decide), List.all_eq_true.1 (by decide),
          by decide, by decide⟩
      closing := .crlf
      after := "body".toList
      parse_versionToken := by decide
      ending_ne := by decide
      after_eq := by decide }

end Request

end FileServer
