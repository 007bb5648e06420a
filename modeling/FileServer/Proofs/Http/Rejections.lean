import FileServer.Proofs.Http.HeadGrammar

/-!
# What a text is rejected for

A head is read in stages: the request line, its version, the field lines and the method. A text
that is no request is rejected for the first stage that fails (`RejectedFor`), which is said in
terms of the grammar and not of the reader. What comes later in the text has no influence on an
error that is found in its first line.

* `parse_of_requestLine`: what is left to be checked of a text that begins with a request line;
* `parse_eq_error_iff`: a text is rejected with the error of the first stage that fails;
* `parse_eq_error_of_head?_lines`: texts with one first line have its errors in common.
-/

namespace FileServer

/-- A version is refused as malformed, with its token, or as unsupported, with its numbers. -/
theorem Version.parse_eq_error {token : Text} {error : RequestError}
    (h : parse token = .error error) :
    error = .version token ∨ ∃ major minor, error = .unsupportedVersion major minor := by
  unfold parse at h
  split at h
  · exact .inl (Except.error.inj h).symm
  · split at h
    · exact .inr ⟨_, _, (Except.error.inj h).symm⟩
    · cases h

/-- A token names no method if it is not the token of any. -/
theorem Method.parse?_eq_none_iff {token : Text} :
    parse? token = none ↔ ∀ method : Method, token ≠ method.token := by
  constructor
  · rintro h method rfl
    rw [parse?_token] at h
    cases h
  · intro h
    cases hparse : parse? token with
    | none => rfl
    | some method => exact absurd (eq_token_of_parse? hparse) (h method)

namespace Request

/-! ## The stages -/

/-- A text that begins with a request line, the three tokens of the line and what follows it. -/
inductive RequestLine : Text → Text → Text → Text → Text → Prop
  | intro {method target versionToken rest : Text} {ending : LineEnd} (hmethod : IsToken method)
      (htarget : IsToken target) (hversion : IsToken versionToken)
      (hlast : ending = .missing → rest = []) :
      RequestLine (method ++ ' ' :: (target ++ ' ' :: versionToken) ++ ending.text ++ rest)
        method target versionToken rest

/-- What is wrong with a text that is rejected with an error. The stages before the one that fails
are passed, and nothing is said of those after it. -/
def RejectedFor (text : Text) : RequestError → Prop
  | .encoding => False
  | .requestLine line =>
    line = Text.firstLine text ∧
      ∀ method target versionToken rest, ¬ RequestLine text method target versionToken rest
  | .header => ∃ method target versionToken rest version,
    RequestLine text method target versionToken rest ∧
      Version.parse versionToken = .ok version ∧ ∀ headers after, ¬ FieldBlock rest headers after
  | .method method => ∃ target versionToken rest version headers after,
    RequestLine text method target versionToken rest ∧
      Version.parse versionToken = .ok version ∧ FieldBlock rest headers after ∧
      ∀ known : Method, method ≠ known.token
  -- the two errors that a version is refused with
  | error => ∃ method target versionToken rest,
    RequestLine text method target versionToken rest ∧ Version.parse versionToken = .error error

variable {text method target versionToken rest : Text}

theorem lines_of_requestLine (h : RequestLine text method target versionToken rest) :
    ∃ line, Text.lines text = line :: Text.lines rest ∧
      tokens? line = some (method, target, versionToken) := by
  obtain @⟨_, _, _, _, ending, hmethod, htarget, hversion, hlast⟩ := h
  have hline : Text.IsOneLine (method ++ ' ' :: (target ++ ' ' :: versionToken)) := by
    rw [Text.isOneLine_append, Text.isOneLine_cons, Text.isOneLine_append, Text.isOneLine_cons]
    exact ⟨hmethod.2.2, by decide, htarget.2.2, by decide, hversion.2.2⟩
  exact ⟨_, Text.lines_first hline (by simp) hlast,
    (tokens?_eq_some (Text.isOneLine_iff.1 hline).2).2 ⟨rfl, hmethod, htarget, hversion⟩⟩

theorem requestLine_of_lines {line : Line} {ls : List Line} (hlines : Text.lines text = line :: ls)
    (h : tokens? line = some (method, target, versionToken)) :
    ∃ rest, RequestLine text method target versionToken rest := by
  obtain ⟨rest, rfl, -, hlf, hlast⟩ := Text.lines_eq_cons hlines
  obtain ⟨hline, hmethod, htarget, hversion⟩ := (tokens?_eq_some hlf).1 h
  rw [Line.render, hline]
  exact ⟨rest, .intro hmethod htarget hversion fun he => (hlast he).2⟩

/-- Field lines are refused if they are no block of fields. -/
theorem headers?_eq_none_iff :
    headers? (Text.lines text) = none ↔ ∀ headers after, ¬ FieldBlock text headers after := by
  constructor
  · intro h headers after hblock
    rw [headers?_of_fieldBlock hblock] at h
    cases h
  · intro h
    cases hheaders : headers? (Text.lines text) with
    | none => rfl
    | some headers =>
      obtain ⟨after, hblock⟩ := fieldBlock_of_headers? hheaders
      exact absurd hblock (h headers after)

/-- What is left to be checked of a text that begins with a request line. -/
theorem parse_of_requestLine (h : RequestLine text method target versionToken rest) :
    parse text =
      match Version.parse versionToken with
      | .error error => .error error
      | .ok version =>
        match headers? (Text.lines rest) with
        | none => .error .header
        | some headers =>
          match Method.parse? method with
          | none => .error (.method method)
          | some known => .ok ⟨known, target, version, headers⟩ := by
  obtain ⟨line, hlines, htokens⟩ := lines_of_requestLine h
  unfold parse
  rw [hlines]
  cases hversion : Version.parse versionToken with
  | error error => simp only [htokens, hversion]
  | ok version =>
    cases hheaders : headers? (Text.lines rest) with
    | none => simp only [htokens, hversion, hheaders]
    | some headers =>
      cases hmethod : Method.parse? method with
      | none => simp only [htokens, hversion, hheaders, hmethod]
      | some known => simp only [htokens, hversion, hheaders, hmethod]

theorem parse_of_forall_not_requestLine
    (h : ∀ method target versionToken rest, ¬ RequestLine text method target versionToken rest) :
    parse text = .error (.requestLine (Text.firstLine text)) := by
  unfold parse Text.firstLine
  cases hlines : Text.lines text with
  | nil => rfl
  | cons line ls =>
    cases htokens : tokens? line with
    | none => simp only [htokens]
    | some tokens =>
      obtain ⟨rest, hline⟩ := requestLine_of_lines hlines htokens
      exact absurd hline (h _ _ _ rest)

/-! ## Classification -/

theorem rejectedFor_of_parse {error : RequestError} (h : parse text = .error error) :
    RejectedFor text error := by
  by_cases hline : ∃ method target versionToken rest,
      RequestLine text method target versionToken rest
  · obtain ⟨method, target, versionToken, rest, hline⟩ := hline
    rw [parse_of_requestLine hline] at h
    split at h
    · next hversion =>
      obtain rfl := Except.error.inj h
      obtain rfl | ⟨major, minor, rfl⟩ := Version.parse_eq_error hversion <;>
        exact ⟨method, target, versionToken, rest, hline, hversion⟩
    next version hversion =>
    split at h
    · next hheaders =>
      obtain rfl := Except.error.inj h
      exact ⟨method, target, versionToken, rest, version, hline, hversion,
        headers?_eq_none_iff.1 hheaders⟩
    next headers hheaders =>
    split at h
    · next hmethod =>
      obtain rfl := Except.error.inj h
      obtain ⟨after, hblock⟩ := fieldBlock_of_headers? hheaders
      exact ⟨target, versionToken, rest, version, headers, after, hline, hversion, hblock,
        Method.parse?_eq_none_iff.1 hmethod⟩
    · cases h
  · have hnone : ∀ method target versionToken rest,
        ¬ RequestLine text method target versionToken rest :=
      fun method target versionToken rest h => hline ⟨method, target, versionToken, rest, h⟩
    rw [parse_of_forall_not_requestLine hnone] at h
    obtain rfl := Except.error.inj h
    exact ⟨rfl, hnone⟩

theorem parse_of_rejectedFor {error : RequestError} (h : RejectedFor text error) :
    parse text = .error error := by
  cases error with
  | encoding => exact h.elim
  | requestLine line =>
    obtain ⟨rfl, hnone⟩ := h
    exact parse_of_forall_not_requestLine hnone
  | version | unsupportedVersion =>
    obtain ⟨_, _, _, _, hline, hversion⟩ := h
    simp only [parse_of_requestLine hline, hversion]
  | header =>
    obtain ⟨_, _, _, _, _, hline, hversion, hblock⟩ := h
    simp only [parse_of_requestLine hline, hversion, headers?_eq_none_iff.2 hblock]
  | method =>
    obtain ⟨_, _, _, _, _, _, hline, hversion, hblock, hmethod⟩ := h
    simp only [parse_of_requestLine hline, hversion, headers?_of_fieldBlock hblock,
      Method.parse?_eq_none_iff.2 hmethod]

/-- A text is rejected with the error of the first stage that fails. -/
theorem parse_eq_error_iff {error : RequestError} :
    parse text = .error error ↔ RejectedFor text error :=
  ⟨rejectedFor_of_parse, parse_of_rejectedFor⟩

end Request

/-! ## Errors of the first line -/

/-- Whether an error is one of the first line: it is no request line, or its version is refused. -/
def RequestError.IsOfFirstLine : RequestError → Prop
  | requestLine _ | version _ | unsupportedVersion _ _ => True
  | encoding | header | method _ => False

/-- Texts with one first line have its errors in common. -/
theorem Request.parse_eq_error_of_head?_lines {text other : Text}
    (hfirst : (Text.lines text).head? = (Text.lines other).head?) {error : RequestError}
    (herror : error.IsOfFirstLine) (h : parse text = .error error) :
    parse other = .error error := by
  unfold parse at h ⊢
  cases hlines : Text.lines text with
  | nil =>
    rw [hlines] at h hfirst
    rw [List.head?_eq_none_iff.1 hfirst.symm]
    exact h
  | cons line ls =>
    rw [hlines] at h hfirst
    obtain ⟨others, hothers⟩ := List.head?_eq_some_iff.1 hfirst.symm
    rw [hothers]
    simp only at h ⊢
    split at h
    · exact h
    split at h
    · exact h
    · -- the line is in order, and what is found after it is none of its errors
      split at h
      · obtain rfl := Except.error.inj h
        exact herror.elim
      · split at h
        · obtain rfl := Except.error.inj h
          exact herror.elim
        · cases h

end FileServer
