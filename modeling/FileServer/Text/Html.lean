import FileServer.Text.Basic

/-!
# HTML escapes

The five characters that mean something in HTML text and attributes, each written as an entity.

* `escape_append`: a text is escaped piece by piece;
* `unescape_escape_append`: the entities can be undone, and what follows them has no part in it.
-/

namespace FileServer.Html

/-- The entity of a character that is significant in HTML, and any other character itself. -/
def escapeChar : Char → Text
  | '&' => "&amp;".toList
  | '<' => "&lt;".toList
  | '>' => "&gt;".toList
  | '"' => "&quot;".toList
  | '\'' => "&#x27;".toList
  | c => [c]

/-- The text with every significant character written as its entity. -/
def escape (t : Text) : Text := t.flatMap escapeChar

/-- The text with the five entities replaced by their characters, in one pass from the left. -/
def unescape : Text → Text
  | '&' :: 'a' :: 'm' :: 'p' :: ';' :: t => '&' :: unescape t
  | '&' :: 'l' :: 't' :: ';' :: t => '<' :: unescape t
  | '&' :: 'g' :: 't' :: ';' :: t => '>' :: unescape t
  | '&' :: 'q' :: 'u' :: 'o' :: 't' :: ';' :: t => '"' :: unescape t
  | '&' :: '#' :: 'x' :: '2' :: '7' :: ';' :: t => '\'' :: unescape t
  | c :: t => c :: unescape t
  | [] => []

@[simp] theorem escape_cons (c : Char) (t : Text) : escape (c :: t) = escapeChar c ++ escape t :=
  rfl

theorem escape_append (s t : Text) : escape (s ++ t) = escape s ++ escape t := by
  simp [escape]

theorem unescape_cons_of_ne {c : Char} (h : c ≠ '&') (t : Text) :
    unescape (c :: t) = c :: unescape t := by
  rw [unescape] <;> intros <;> simp_all

theorem unescape_escapeChar_append (c : Char) (t : Text) :
    unescape (escapeChar c ++ t) = c :: unescape t := by
  unfold escapeChar
  split
  case h_6 h _ _ _ _ => exact unescape_cons_of_ne h t
  all_goals rfl

/-- The entities can be undone, whatever follows them. -/
theorem unescape_escape_append (s t : Text) : unescape (escape s ++ t) = s ++ unescape t := by
  induction s with
  | nil => rfl
  | cons c s ih =>
    rw [escape_cons, List.append_assoc, unescape_escapeChar_append, ih, List.cons_append]

/-- The entities can be undone. -/
theorem unescape_escape (t : Text) : unescape (escape t) = t := by
  have := unescape_escape_append t []
  rwa [unescape, List.append_nil, List.append_nil] at this

end FileServer.Html
