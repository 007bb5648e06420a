import FileServer.Text.Utf8

/-!
# Lines

A line of text ends with LF, with CR LF, or with the end of the text. A CR that is not followed by
LF belongs to the line. A text without either (`IsOneLine`) is the text of a line whatever its
ending.

* `render_lines`: the lines, each with its ending, make up the text.
-/

namespace FileServer

/-- How a line ends. -/
inductive LineEnd where
  | lf
  | crlf
  /-- The text ends within the line. -/
  | missing
  deriving DecidableEq, Repr

/-- The characters of a line ending. -/
def LineEnd.text : LineEnd → Text
  | .lf => ['\n']
  | .crlf => ['\r', '\n']
  | .missing => []

/-- A line and how it ends. -/
structure Line where
  text : Text
  ending : LineEnd
  deriving DecidableEq, Repr

/-- The line with its ending. -/
def Line.render (line : Line) : Text := line.text ++ line.ending.text

/-- The lines of a text that has one more character in front. -/
def Line.push (c : Char) (lines : List Line) : List Line :=
  if c = '\n' then ⟨[], .lf⟩ :: lines
  else
    match lines with
    | [] => [⟨[c], .missing⟩]
    | line :: rest =>
      if c = '\r' ∧ line = ⟨[], .lf⟩ then ⟨[], .crlf⟩ :: rest
      else ⟨c :: line.text, line.ending⟩ :: rest

namespace Text

/-- The lines of a text. The empty text has none, and no line is empty and unended. -/
def lines (t : Text) : List Line := t.foldr Line.push []

/-- The first line without its ending; empty for the empty text. -/
def firstLine (t : Text) : Text :=
  match lines t with
  | [] => []
  | line :: _ => line.text

@[simp] theorem lines_nil : lines [] = [] := rfl

@[simp] theorem lines_cons (c : Char) (t : Text) : lines (c :: t) = Line.push c (lines t) := rfl

theorem render_push (c : Char) (ls : List Line) :
    (Line.push c ls).flatMap Line.render = c :: ls.flatMap Line.render := by
  unfold Line.push
  split
  · next h => simp [Line.render, LineEnd.text, h]
  · split
    · simp [Line.render, LineEnd.text]
    · split
      · next h => simp [Line.render, LineEnd.text, h.1, h.2]
      · simp [Line.render]

/-- The lines, each with its ending, make up the text. -/
theorem render_lines (t : Text) : (lines t).flatMap Line.render = t := by
  induction t with
  | nil => rfl
  | cons c t ih => rw [lines_cons, render_push, ih]

/-! ## Texts within a line -/

/-- Whether a text stays within a line. -/
def IsOneLine (t : Text) : Prop := ∀ c ∈ t, c ≠ '\r' ∧ c ≠ '\n'

instance (t : Text) : Decidable (IsOneLine t) := List.decidableBAll _ t

@[simp] theorem isOneLine_nil : IsOneLine [] := by simp [IsOneLine]

@[simp] theorem isOneLine_cons {c : Char} {t : Text} :
    IsOneLine (c :: t) ↔ (c ≠ '\r' ∧ c ≠ '\n') ∧ IsOneLine t := by
  simp [IsOneLine]

@[simp] theorem isOneLine_append {s t : Text} :
    IsOneLine (s ++ t) ↔ IsOneLine s ∧ IsOneLine t :=
  List.forall_mem_append

theorem IsOneLine.mono {s t : Text} (h : IsOneLine t) (hst : ∀ c ∈ s, c ∈ t) : IsOneLine s :=
  fun c hc => h c (hst c hc)

theorem isOneLine_iff {t : Text} : IsOneLine t ↔ '\r' ∉ t ∧ '\n' ∉ t := by
  refine ⟨fun h => ⟨fun hc => (h _ hc).1 rfl, fun hc => (h _ hc).2 rfl⟩, ?_⟩
  rintro ⟨hr, hn⟩ c hc
  exact ⟨fun e => hr (e ▸ hc), fun e => hn (e ▸ hc)⟩

/-- A string stays within a line if its bytes do, which are faster to go through than its text. -/
theorem isOneLine_toList {s : String}
    (h : s.toByteArray.data.toList.all fun b => b ≠ 0x0D && b ≠ 0x0A) : IsOneLine s.toList := by
  rw [← Utf8.encode_toList] at h
  have hencode : ∀ c ∈ s.toList, ∀ b ∈ String.utf8EncodeChar c, b ≠ 0x0D ∧ b ≠ 0x0A := by
    intro c hc b hb
    simpa using List.all_eq_true.1 h b (List.mem_flatMap.2 ⟨c, hc, hb⟩)
  intro c hc
  constructor
  · rintro rfl
    exact (hencode _ hc 0x0D (by decide)).1 rfl
  · rintro rfl
    exact (hencode _ hc 0x0A (by decide)).2 rfl

end Text

end FileServer
