import Mathlib.Data.List.TakeDrop
import Mathlib.Data.List.TakeWhile
import FileServer.Http.Request
import FileServer.Proofs.Text.Lines

/-!
# The grammar of request heads

What a request head looks like, said apart from the reader: a request line (`IsHead`), field lines
(`FieldLine`) and what ends them (`FieldBlock`), as relations between a text, what it states and
what it leaves unread. The reader accepts exactly these texts and finds in them what they state.

* `tokens?_eq_some`, `header?_eq_some`: what is read off a line, and from which lines;
* `fieldBlock_of_headers?`, `headers?_of_fieldBlock`: the induction over the field lines, both ways;
* `isHead_of_parse`, `parse_of_isHead`: the reader and the grammar agree.
-/

namespace FileServer.Request

/-! ## The grammar -/

/-- Whether a text can stand between the spaces of a request line. -/
def IsToken (t : Text) : Prop := t ≠ [] ∧ ' ' ∉ t ∧ Text.IsOneLine t

instance (t : Text) : Decidable (IsToken t) :=
  inferInstanceAs (Decidable (t ≠ [] ∧ ' ' ∉ t ∧ Text.IsOneLine t))

/-- Whether a text can be the name of a field. -/
def IsFieldName (t : Text) : Prop := t ≠ [] ∧ ':' ∉ t ∧ Text.IsOneLine t

instance (t : Text) : Decidable (IsFieldName t) :=
  inferInstanceAs (Decidable (t ≠ [] ∧ ':' ∉ t ∧ Text.IsOneLine t))

/-- A field line with its ending, and the field that it states. -/
inductive FieldLine : Text → Header → Prop
  | intro {name padding value : Text} {ending : LineEnd} (hname : IsFieldName name)
      (hpadding : ∀ c ∈ padding, isPadding c) (hvalue : Text.IsOneLine value)
      (hending : ending ≠ .missing) :
      FieldLine (name ++ ':' :: (padding ++ value) ++ ending.text)
        ⟨name, Text.trimEnd (value.dropWhile isPadding)⟩

/-- Field lines up to a blank line or the end of the text, the fields that they state, and what
follows the blank line. -/
inductive FieldBlock : Text → List Header → Text → Prop
  | ended : FieldBlock [] [] []
  | blank {ending : LineEnd} (hending : ending ≠ .missing) (rest : Text) :
      FieldBlock (ending.text ++ rest) [] rest
  | field {line text rest : Text} {header : Header} {headers : List Header}
      (hline : FieldLine line header) (htext : FieldBlock text headers rest) :
      FieldBlock (line ++ text) (header :: headers) rest

/-- The request line of a request, with a token for its version. -/
def requestLine (request : Request) (versionToken : Text) : Text :=
  request.method.token ++ ' ' :: (request.target ++ ' ' :: versionToken)

/-- A text that begins with a request head, the request that the head states, and what follows. -/
inductive IsHead : Text → Request → Text → Prop
  | intro {request : Request} {versionToken fields rest : Text} {ending : LineEnd}
      (htarget : IsToken request.target) (htoken : IsToken versionToken)
      (hversion : Version.parse versionToken = .ok request.version)
      (hlast : ending = .missing → fields = [])
      (hfields : FieldBlock fields request.headers rest) :
      IsHead (request.requestLine versionToken ++ ending.text ++ fields) request rest

/-! ## The request line -/

theorem tokens?_eq_some {line : Line} (hlf : '\n' ∉ line.text) {m t v : Text} :
    tokens? line = some (m, t, v) ↔
      line.text = m ++ ' ' :: (t ++ ' ' :: v) ∧ IsToken m ∧ IsToken t ∧ IsToken v := by
  constructor
  · intro h
    unfold tokens? at h
    split at h
    · cases h
    next hcr =>
    split at h
    · next a b c hsplit =>
      split at h
      · next hne =>
        obtain ⟨rfl, rfl, rfl⟩ : a = m ∧ b = t ∧ c = v := by simpa using h
        have hline : line.text = a ++ ' ' :: (b ++ ' ' :: c) := by
          rw [← intercalate_splitOn ' ' line.text, hsplit]
          simp [List.intercalate]
        have htoken : ∀ field ∈ [a, b, c], field ≠ [] → IsToken field := fun field hf hn =>
          ⟨hn, not_mem_of_mem_splitOn (hsplit ▸ hf), (Text.isOneLine_iff.2 ⟨hcr, hlf⟩).mono
            fun x hx => by simp only [List.mem_cons, List.not_mem_nil, or_false] at hf; grind⟩
        exact ⟨hline, htoken a (by simp) hne.1, htoken b (by simp) hne.2.1,
          htoken c (by simp) hne.2.2⟩
      · cases h
    · cases h
  · rintro ⟨hline, hm, ht, hv⟩
    have hcr : '\r' ∉ line.text := by
      have := (Text.isOneLine_iff.1 hm.2.2).1
      have := (Text.isOneLine_iff.1 ht.2.2).1
      have := (Text.isOneLine_iff.1 hv.2.2).1
      simp_all
    unfold tokens?
    rw [if_neg hcr, hline, splitOn_append_cons hm.2.1, splitOn_append_cons ht.2.1,
      splitOn_of_not_mem hv.2.1]
    simp [hm.1, ht.1, hv.1]

theorem isToken_token (m : Method) : IsToken m.token := by
  cases m <;> decide

/-! ## Field lines -/

theorem fieldLine_of_header? {line : Line} (hlf : '\n' ∉ line.text) {header : Header}
    (h : header? line = some header) : FieldLine line.render header := by
  unfold header? at h
  split at h
  · cases h
  next hplain =>
  obtain ⟨hending, hcr⟩ := not_or.1 hplain
  have hone : Text.IsOneLine line.text := Text.isOneLine_iff.2 ⟨hcr, hlf⟩
  rw [List.span_eq_takeWhile_dropWhile] at h
  split at h
  · next first name colon value hspan =>
    obtain ⟨hbefore, hafter⟩ := Prod.mk.inj hspan
    have hline : first :: name ++ colon :: value = line.text := by
      rw [← hbefore, ← hafter]
      exact List.takeWhile_append_dropWhile
    have hname : ':' ∉ first :: name := fun hmem => by
      rw [← hbefore] at hmem
      have := List.mem_takeWhile_imp hmem
      simp at this
    obtain rfl : colon = ':' := by
      have := List.head?_dropWhile_not (· ≠ ':') line.text
      rw [hafter] at this
      simpa using this
    obtain ⟨hfirst, hvalue⟩ := Text.isOneLine_append.1 (hline ▸ hone)
    obtain rfl := Option.some.inj h
    have := FieldLine.intro ⟨by simp, hname, hfirst⟩ (List.forall_mem_nil (isPadding ·))
      (Text.isOneLine_cons.1 hvalue).2 hending
    rwa [List.nil_append, hline] at this
  · cases h

theorem isOneLine_of_isPadding {padding : Text} (h : ∀ c ∈ padding, isPadding c) :
    Text.IsOneLine padding := by
  intro c hc
  have := h c hc
  constructor <;> rintro rfl <;> simp [isPadding] at this

theorem isOneLine_field {name padding value : Text} (hname : IsFieldName name)
    (hpadding : ∀ c ∈ padding, isPadding c) (hvalue : Text.IsOneLine value) :
    Text.IsOneLine (name ++ ':' :: (padding ++ value)) := by
  rw [Text.isOneLine_append, Text.isOneLine_cons, Text.isOneLine_append]
  exact ⟨hname.2.2, by decide, isOneLine_of_isPadding hpadding, hvalue⟩

theorem header?_line {name padding value : Text} {ending : LineEnd} (hname : IsFieldName name)
    (hpadding : ∀ c ∈ padding, isPadding c) (hvalue : Text.IsOneLine value)
    (hending : ending ≠ .missing) :
    header? ⟨name ++ ':' :: (padding ++ value), ending⟩ =
      some ⟨name, Text.trimEnd (value.dropWhile isPadding)⟩ := by
  have hcr := (Text.isOneLine_iff.1 (isOneLine_field hname hpadding hvalue)).1
  obtain ⟨hne, hcolon, -⟩ := hname
  have hbefore : ∀ c ∈ name, decide (c ≠ ':') = true := fun c hc =>
    decide_eq_true fun e => hcolon (e ▸ hc)
  obtain ⟨first, name, rfl⟩ := List.exists_cons_of_ne_nil hne
  unfold header?
  rw [if_neg (by simp only [hending, false_or]; exact hcr), List.span_eq_takeWhile_dropWhile,
    List.takeWhile_append_of_pos hbefore, List.dropWhile_append_of_pos hbefore]
  simp [List.dropWhile_append_of_pos hpadding]

/-! ## Field blocks -/

theorem fieldBlock_of_headers? {text : Text} {headers : List Header}
    (h : headers? (Text.lines text) = some headers) : ∃ rest, FieldBlock text headers rest := by
  generalize hlines : Text.lines text = ls at h
  induction ls generalizing text headers with
  | nil =>
    obtain rfl := Text.eq_nil_of_lines hlines
    obtain rfl : [] = headers := Option.some.inj h
    exact ⟨[], .ended⟩
  | cons line ls ih =>
    obtain ⟨after, rfl, hafter, hlf, hlast⟩ := Text.lines_eq_cons hlines
    rw [headers?] at h
    split at h
    · next hblank =>
      obtain rfl : [] = headers := Option.some.inj h
      have hending : line.ending ≠ .missing := fun he => (hlast he).1 hblank
      refine ⟨after, ?_⟩
      rw [Line.render, hblank]
      exact .blank hending after
    · split at h
      · next first others hfirst hothers =>
        obtain rfl := Option.some.inj h
        obtain ⟨rest, hrest⟩ := ih hafter hothers
        exact ⟨rest, .field (fieldLine_of_header? hlf hfirst) hrest⟩
      · cases h

theorem headers?_of_fieldBlock {text rest : Text} {headers : List Header}
    (h : FieldBlock text headers rest) : headers? (Text.lines text) = some headers := by
  induction h with
  | ended => rfl
  | blank hending rest =>
    have := Text.lines_line Text.isOneLine_nil hending rest
    rw [List.nil_append] at this
    rw [this]
    simp [headers?]
  | field hline _ ih =>
    obtain ⟨hname, hpadding, hvalue, hending⟩ := hline
    rw [Text.lines_line (isOneLine_field hname hpadding hvalue) hending, headers?,
      header?_line hname hpadding hvalue hending, ih]
    simp

/-! ## Heads -/

theorem isHead_of_parse {text : Text} {request : Request} (h : parse text = .ok request) :
    ∃ rest, IsHead text request rest := by
  unfold parse at h
  split at h
  · cases h
  next line ls hlines =>
  obtain ⟨after, rfl, rfl, hlf, hlast⟩ := Text.lines_eq_cons hlines
  split at h
  · cases h
  next methodToken target versionToken htokens =>
  obtain ⟨hline, -, htarget, hversionToken⟩ := (tokens?_eq_some hlf).1 htokens
  split at h
  · cases h
  next version hversion =>
  split at h
  · cases h
  next headers hheaders =>
  split at h
  · cases h
  next method hmethod =>
  obtain rfl := Except.ok.inj h
  obtain ⟨rest, hrest⟩ := fieldBlock_of_headers? hheaders
  refine ⟨rest, ?_⟩
  rw [Line.render, hline, Method.eq_token_of_parse? hmethod]
  exact @IsHead.intro ⟨method, target, version, headers⟩ _ _ _ _ htarget hversionToken hversion
    (fun he => (hlast he).2) hrest

theorem isOneLine_requestLine {request : Request} {versionToken : Text}
    (htarget : IsToken request.target) (htoken : IsToken versionToken) :
    Text.IsOneLine (request.requestLine versionToken) := by
  rw [requestLine, Text.isOneLine_append, Text.isOneLine_cons, Text.isOneLine_append,
    Text.isOneLine_cons]
  exact ⟨(isToken_token _).2.2, by decide, htarget.2.2, by decide, htoken.2.2⟩

theorem parse_of_isHead {text rest : Text} {request : Request} (h : IsHead text request rest) :
    parse text = .ok request := by
  obtain @⟨_, versionToken, fields, _, ending, htarget, htoken, hversion, hlast, hfields⟩ := h
  have hline := isOneLine_requestLine htarget htoken
  have htokens : tokens? ⟨request.requestLine versionToken, ending⟩ =
      some (request.method.token, request.target, versionToken) :=
    (tokens?_eq_some (Text.isOneLine_iff.1 hline).2).2 ⟨rfl, isToken_token _, htarget, htoken⟩
  have hne : request.requestLine versionToken ≠ [] := by simp [requestLine]
  unfold parse
  rw [Text.lines_first hline hne hlast]
  simp [htokens, hversion, headers?_of_fieldBlock hfields]

end FileServer.Request
