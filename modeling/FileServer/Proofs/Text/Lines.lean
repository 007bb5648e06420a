import FileServer.Text.Line

/-!
# Lines, one at a time

A text is written line by line and read line by line, so what is proved of heads goes by its first
line and what follows that. What is written as a line has neither CR nor LF (`IsOneLine`); a line
that is read may hold a CR, and nothing else is known of it but that it holds no LF.

* `lines_line`, `lines_unended`, `lines_first`: the lines of a text that begins with a line, or is
  one;
* `lines_eq_cons`: a text whose lines are known begins with the first of them;
* `lines_append`: what comes after an LF has no influence on the lines before it.
-/

namespace FileServer.Text

/-- A line that is written out is the first line that is read. -/
theorem lines_line {t : Text} (ht : IsOneLine t) {ending : LineEnd} (he : ending ≠ .missing)
    (rest : Text) : lines (t ++ ending.text ++ rest) = ⟨t, ending⟩ :: lines rest := by
  induction t with
  | nil =>
    cases ending with
    | lf => simp [LineEnd.text, Line.push]
    | crlf => simp [LineEnd.text, Line.push]
    | missing => exact absurd rfl he
  | cons c t ih =>
    obtain ⟨⟨hr, hn⟩, ht⟩ := isOneLine_cons.1 ht
    rw [List.cons_append, List.cons_append, lines_cons, ih ht]
    simp [Line.push, hr, hn]

theorem lines_unended {t : Text} (ht : IsOneLine t) (hne : t ≠ []) :
    lines t = [⟨t, .missing⟩] := by
  induction t with
  | nil => exact absurd rfl hne
  | cons c t ih =>
    obtain ⟨⟨hr, hn⟩, ht⟩ := isOneLine_cons.1 ht
    rw [lines_cons]
    cases t with
    | nil => simp [Line.push, hn]
    | cons d t =>
      rw [ih ht (by simp)]
      simp [Line.push, hr, hn]

theorem lines_first {t : Text} (ht : IsOneLine t) (hne : t ≠ []) {ending : LineEnd} {rest : Text}
    (hlast : ending = .missing → rest = []) :
    lines (t ++ ending.text ++ rest) = ⟨t, ending⟩ :: lines rest := by
  by_cases he : ending = .missing
  · obtain rfl := hlast he
    rw [he, LineEnd.text, List.append_nil, List.append_nil, lines_unended ht hne, lines_nil]
  · exact lines_line ht he rest

theorem eq_nil_of_lines {t : Text} (h : lines t = []) : t = [] := by
  have := render_lines t
  rw [h] at this
  exact this.symm

/-- A text begins with its first line, and its other lines are those of the rest. A line without
ending is not empty, and nothing follows it. -/
theorem lines_eq_cons {t : Text} {line : Line} {ls : List Line} (h : lines t = line :: ls) :
    ∃ rest, t = line.render ++ rest ∧ lines rest = ls ∧ '\n' ∉ line.text ∧
      (line.ending = .missing → line.text ≠ [] ∧ rest = []) := by
  induction t generalizing line ls with
  | nil => simp at h
  | cons c t ih =>
    rw [lines_cons] at h
    unfold Line.push at h
    split at h
    · next hc =>
      obtain ⟨rfl, rfl⟩ := List.cons.inj h
      exact ⟨t, by simp [Line.render, LineEnd.text, hc], rfl, by simp, by simp⟩
    · next hc =>
      split at h
      · next hnil =>
        obtain ⟨rfl, rfl⟩ := List.cons.inj h
        have ht := eq_nil_of_lines hnil
        subst ht
        exact ⟨[], by simp [Line.render, LineEnd.text], rfl, by simp [Ne.symm hc], by simp⟩
      · next first others hlines =>
        obtain ⟨rest, htext, hrest, hlf, hlast⟩ := ih hlines
        split at h
        · next hcr =>
          obtain ⟨rfl, rfl⟩ := List.cons.inj h
          obtain ⟨rfl, rfl⟩ := hcr
          exact ⟨rest, by simp [htext, Line.render, LineEnd.text], hrest, by simp, by simp⟩
        · obtain ⟨rfl, rfl⟩ := List.cons.inj h
          exact ⟨rest, by simp [htext, Line.render], hrest, by simp [Ne.symm hc, hlf],
            fun he => ⟨by simp, (hlast he).2⟩⟩

/-! ## Two texts -/

theorem push_append (c : Char) {ls : List Line} (hne : ls ≠ []) (more : List Line) :
    Line.push c (ls ++ more) = Line.push c ls ++ more := by
  obtain ⟨line, ls, rfl⟩ := List.exists_cons_of_ne_nil hne
  unfold Line.push
  split
  · rfl
  · simp only [List.cons_append]
    split <;> rfl

theorem lines_ne_nil {t : Text} (hne : t ≠ []) : lines t ≠ [] :=
  fun h => hne (eq_nil_of_lines h)

/-- What comes after an LF has no influence on the lines before it. -/
theorem lines_append (t more : Text) :
    lines (t ++ '\n' :: more) = lines (t ++ ['\n']) ++ lines more := by
  induction t with
  | nil => simp [Line.push]
  | cons c t ih =>
    rw [List.cons_append, List.cons_append, lines_cons, lines_cons, ih,
      push_append c (lines_ne_nil (by simp))]

end FileServer.Text
