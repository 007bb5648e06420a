import FileServer.Proofs.Text.Markup

/-!
# Reading a page

What a page shows is read off its tags by a reader who does not know how the page was written. A tag
goes from `<` to the next `>`, and its text from there to the next tag. An element goes from a tag
to the next tag that closes it, and shows the texts in it with their entities undone.

* `tags_flatMap_render`: tags that are written one after another are read again;
* `elements_append`: tags of other kinds in front of an element have no influence on it.
-/

namespace FileServer.Html

/-- What stands in a tag, and the text that follows it. -/
structure Tag where
  inner : Text
  text : Text
  deriving DecidableEq, Repr

namespace Tag

/-- The tag and its text. -/
def render (tag : Tag) : Text := '<' :: (tag.inner ++ '>' :: tag.text)

/-- Reads a tag and its text off what follows the `<`. -/
def ofPiece (piece : Text) : Tag :=
  ⟨piece.takeWhile (· ≠ '>'), (piece.dropWhile (· ≠ '>')).tail⟩

/-- Whether a tag ends where it is meant to end, and its text does. -/
structure IsPlain (tag : Tag) : Prop where
  inner : '<' ∉ tag.inner ∧ '>' ∉ tag.inner
  text : '<' ∉ tag.text

end Tag

/-- The tags of a page. -/
def tags (page : Text) : List Tag := (splitOn '<' page).tail.map Tag.ofPiece

/-- The elements of a kind, each with the tags from the one that opens it up to the one that closes
it. -/
def elements (kind : Text) : List Tag → List (List Tag)
  | [] => []
  | tag :: rest =>
    if tag.inner = kind then
      (tag :: rest.takeWhile (·.inner ≠ '/' :: kind)) :: elements kind rest
    else elements kind rest

/-- What tags show. -/
def shownText (ts : List Tag) : Text := unescape (ts.flatMap (·.text))

/-- What the list items of a page show, from the first to the last. -/
def itemTexts (page : Text) : List Text := (elements "li".toList (tags page)).map shownText

/-! ## Tags -/

theorem Tag.ofPiece_append {tag : Tag} (h : '>' ∉ tag.inner) :
    ofPiece (tag.inner ++ '>' :: tag.text) = tag := by
  have hinner : ∀ c ∈ tag.inner, decide (c ≠ '>') = true :=
    fun c hc => decide_eq_true fun e => h (e ▸ hc)
  have htake : ('>' :: tag.text).takeWhile (· ≠ '>') = [] := List.takeWhile_cons_of_neg (by simp)
  have hdrop : ('>' :: tag.text).dropWhile (· ≠ '>') = '>' :: tag.text :=
    List.dropWhile_cons_of_neg (by simp)
  rw [ofPiece, List.takeWhile_append_of_pos hinner, List.dropWhile_append_of_pos hinner, htake,
    hdrop, List.append_nil, List.tail_cons]

/-- The pieces into which a page is cut are the text before the tags, and one for each tag. -/
theorem splitOn_append_render {before : Text} (hbefore : '<' ∉ before) {ts : List Tag}
    (h : ∀ tag ∈ ts, tag.IsPlain) :
    splitOn '<' (before ++ ts.flatMap Tag.render) =
      before :: ts.map fun tag => tag.inner ++ '>' :: tag.text := by
  induction ts generalizing before with
  | nil => rw [List.flatMap_nil, List.append_nil, splitOn_of_not_mem hbefore, List.map_nil]
  | cons tag ts ih =>
    obtain ⟨htag, hts⟩ := List.forall_mem_cons.1 h
    have hpiece : '<' ∉ tag.inner ++ '>' :: tag.text := by simp [htag.inner.1, htag.text]
    rw [List.flatMap_cons, Tag.render, List.cons_append, splitOn_append_cons hbefore,
      ih hpiece hts, List.map_cons]

/-- Tags that are written one after another are read again. -/
theorem tags_flatMap_render {ts : List Tag} (h : ∀ tag ∈ ts, tag.IsPlain) :
    tags (ts.flatMap Tag.render) = ts := by
  rw [tags, ← List.nil_append (ts.flatMap Tag.render), splitOn_append_render List.not_mem_nil h,
    List.tail_cons, List.map_map]
  refine (List.map_congr_left fun tag htag => ?_).trans (List.map_id ts)
  exact Tag.ofPiece_append (h tag htag).inner.2

/-- A text before the first tag, and a tag without text. -/
example : tags "x<b>y &lt; z</b><hr>".toList =
    [⟨"b".toList, "y &lt; z".toList⟩, ⟨"/b".toList, []⟩, ⟨"hr".toList, []⟩] := by decide

/-! ## Elements -/

variable {kind : Text}

/-- Tags of other kinds in front of an element have no influence on it. -/
theorem elements_append {before : List Tag} (h : ∀ tag ∈ before, tag.inner ≠ kind)
    (ts : List Tag) : elements kind (before ++ ts) = elements kind ts := by
  induction before with
  | nil => rfl
  | cons tag before ih =>
    obtain ⟨htag, hbefore⟩ := List.forall_mem_cons.1 h
    rw [List.cons_append, elements, if_neg htag, ih hbefore]

theorem elements_eq_nil {ts : List Tag} (h : ∀ tag ∈ ts, tag.inner ≠ kind) :
    elements kind ts = [] := by
  rw [← List.append_nil ts, elements_append h, elements]

/-- An element is read up to the tag that closes it. -/
theorem elements_cons_append {opening closing : Tag} {content : List Tag}
    (hopening : opening.inner = kind) (hclosing : closing.inner = '/' :: kind)
    (hcontent : ∀ tag ∈ content, tag.inner ≠ kind ∧ tag.inner ≠ '/' :: kind) (ts : List Tag) :
    elements kind (opening :: (content ++ closing :: ts)) =
      (opening :: content) :: elements kind ts := by
  have htake : (content ++ closing :: ts).takeWhile (·.inner ≠ '/' :: kind) = content := by
    rw [List.takeWhile_append_of_pos fun tag htag => decide_eq_true (hcontent tag htag).2,
      List.takeWhile_cons_of_neg (by simp [hclosing]), List.append_nil]
  have hother : closing.inner ≠ kind := by
    rw [hclosing]
    exact List.cons_ne_self '/' kind
  rw [elements, if_pos hopening, htake, elements_append fun tag htag => (hcontent tag htag).1,
    elements, if_neg hother]

end FileServer.Html
