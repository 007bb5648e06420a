import FileServer.Text.Html

/-!
# Markup and entities

What makes a page of a text are its angle brackets and quotation marks (`markup`). A text that was
escaped has none of them, wherever it is put, and its ampersands are the beginnings of the five
entities (`HasEntities`).

* `markup_append`, `markup_escape`: escaped text adds nothing to the markup of a page;
* `HasEntities.append`, `hasEntities_escape`: an ampersand of a page begins an entity;
* `exists_escape_eq`, `escape_reversible`: these two laws say which texts are escaped ones, and each
  of them is so for one text only.
-/

namespace FileServer.Html

/-- The characters of a text that delimit tags and attributes. -/
def markup (t : Text) : Text := t.filter (· ∈ ['<', '>', '"', '\''])

/-- The entities of the five characters that are escaped. -/
def entities : List Text := ['&', '<', '>', '"', '\''].map escapeChar

/-- Whether every ampersand of a text begins an entity. -/
def HasEntities (t : Text) : Prop :=
  ∀ rest, '&' :: rest <:+ t → ∃ entity ∈ entities, entity <+: '&' :: rest

/-! ## Markup -/

@[simp] theorem markup_append (s t : Text) : markup (s ++ t) = markup s ++ markup t :=
  List.filter_append s t

theorem markup_eq_nil {t : Text} (h : ∀ c ∈ ['<', '>', '"', '\''], c ∉ t) : markup t = [] :=
  List.filter_eq_nil_iff.2 fun c hc hmem => h c (of_decide_eq_true hmem) hc

theorem markup_flatMap {α : Type} {f : α → Text} {m : Text} (h : ∀ a, markup (f a) = m)
    (l : List α) : markup (l.flatMap f) = (List.replicate l.length m).flatten := by
  induction l with
  | nil => rfl
  | cons a l ih =>
    rw [List.flatMap_cons, markup_append, h, ih, List.length_cons, List.replicate_succ,
      List.flatten_cons]

theorem escapeChar_of_not_mem {c : Char} (h : c ∉ ['&', '<', '>', '"', '\'']) :
    escapeChar c = [c] := by
  simp only [List.mem_cons, List.not_mem_nil, or_false, not_or] at h
  unfold escapeChar
  split
  case h_6 => rfl
  all_goals simp at h

/-- A character is written as an entity, without ampersands but the first, or as itself. -/
theorem escapeChar_cases (c : Char) :
    (∃ tail, escapeChar c = '&' :: tail ∧ '&' :: tail ∈ entities ∧ '&' ∉ tail ∧
      markup ('&' :: tail) = []) ∨
    escapeChar c = [c] ∧ c ∉ ['&', '<', '>', '"', '\''] := by
  by_cases hc : c ∈ ['&', '<', '>', '"', '\'']
  · refine .inl ⟨(escapeChar c).tail, ?_⟩
    have hsign : c = '&' ∨ c = '<' ∨ c = '>' ∨ c = '"' ∨ c = '\'' := by simpa using hc
    obtain rfl | rfl | rfl | rfl | rfl := hsign <;> decide
  · exact .inr ⟨escapeChar_of_not_mem hc, hc⟩

@[simp] theorem markup_escape (t : Text) : markup (escape t) = [] := by
  induction t with
  | nil => rfl
  | cons c t ih =>
    rw [escape_cons, markup_append, ih, List.append_nil]
    obtain ⟨tail, hentity, -, -, hmarkup⟩ | ⟨hself, hother⟩ := escapeChar_cases c
    · rw [hentity, hmarkup]
    · rw [hself]
      refine markup_eq_nil fun d hd hmem => hother ?_
      rw [← List.mem_singleton.1 hmem]
      exact List.mem_cons_of_mem _ hd

/-- A text that was escaped has no tags in it. -/
theorem not_mem_escape {c : Char} (hc : c ∈ ['<', '>', '"', '\'']) (t : Text) :
    c ∉ escape t := by
  intro hmem
  have := List.filter_eq_nil_iff.1 (markup_escape t) c hmem
  exact this (decide_eq_true hc)

/-! ## Entities -/

theorem hasEntities_of_not_mem {t : Text} (h : '&' ∉ t) : HasEntities t :=
  fun _ hsuffix => absurd (hsuffix.subset List.mem_cons_self) h

/-- An ampersand in an append is in one of the parts, with at least the rest of that part. -/
theorem HasEntities.append {s t : Text} (hs : HasEntities s) (ht : HasEntities t) :
    HasEntities (s ++ t) := by
  rintro rest ⟨before, hbefore⟩
  obtain ⟨middle, rfl, hrest⟩ | ⟨middle, rfl, hrest⟩ := List.append_eq_append_iff.1 hbefore
  · cases middle with
    | nil => exact ht rest ⟨[], hrest⟩
    | cons c middle =>
      obtain ⟨rfl, rfl⟩ := List.cons.inj hrest
      obtain ⟨entity, hmem, hprefix⟩ := hs middle (List.suffix_append _ _)
      exact ⟨entity, hmem, hprefix.trans (List.prefix_append _ _)⟩
  · exact ht rest ⟨middle, hrest.symm⟩

theorem hasEntities_flatMap {α : Type} {f : α → Text} (h : ∀ a, HasEntities (f a)) (l : List α) :
    HasEntities (l.flatMap f) := by
  induction l with
  | nil => exact hasEntities_of_not_mem List.not_mem_nil
  | cons a l ih => exact (h a).append ih

theorem hasEntities_escapeChar (c : Char) : HasEntities (escapeChar c) := by
  obtain ⟨tail, hentity, hmem, hnot, -⟩ | ⟨hself, hother⟩ := escapeChar_cases c
  · rw [hentity]
    intro rest hsuffix
    obtain heq | hsuffix := List.suffix_cons_iff.1 hsuffix
    · exact ⟨'&' :: tail, hmem, heq ▸ List.prefix_refl _⟩
    · exact absurd (hsuffix.subset List.mem_cons_self) hnot
  · rw [hself]
    refine hasEntities_of_not_mem fun hmem => hother ?_
    rw [← List.mem_singleton.1 hmem]
    exact List.mem_cons_self

theorem hasEntities_escape (t : Text) : HasEntities (escape t) :=
  hasEntities_flatMap hasEntities_escapeChar t

/-! ## Texts that were escaped -/

theorem HasEntities.of_append {s t : Text} (h : HasEntities (s ++ t)) : HasEntities t :=
  fun rest hsuffix => h rest (hsuffix.trans (List.suffix_append s t))

/-- A text without markup, in which ampersands begin entities, begins with a character as it is
written. -/
theorem exists_escapeChar_append {c : Char} {t : Text} (hmarkup : markup (c :: t) = [])
    (hentities : HasEntities (c :: t)) : ∃ d rest, escapeChar d ++ rest = c :: t := by
  by_cases hc : c = '&'
  · subst hc
    obtain ⟨entity, hmem, rest, hrest⟩ := hentities t (List.suffix_refl _)
    obtain ⟨d, -, rfl⟩ := List.mem_map.1 hmem
    exact ⟨d, rest, hrest⟩
  · have hplain := List.filter_eq_nil_iff.1 hmarkup c List.mem_cons_self
    have hself : escapeChar c = [c] :=
      escapeChar_of_not_mem fun hmem =>
        hplain (decide_eq_true ((List.mem_cons.1 hmem).resolve_left hc))
    exact ⟨c, t, by rw [hself, List.singleton_append]⟩

/-- By induction on the length: what a character is written as can be taken off. -/
theorem exists_escape_eq {t : Text} (hmarkup : markup t = []) (hentities : HasEntities t) :
    ∃ s, escape s = t := by
  cases t with
  | nil => exact ⟨[], rfl⟩
  | cons c t =>
    obtain ⟨d, rest, hrest⟩ := exists_escapeChar_append hmarkup hentities
    have hlt : rest.length < (c :: t).length := by
      rw [← hrest, List.length_append]
      obtain ⟨tail, hentity, -⟩ | ⟨hself, -⟩ := escapeChar_cases d
      · simp [hentity]
      · simp [hself]
    rw [← hrest] at hmarkup hentities ⊢
    rw [markup_append, List.append_eq_nil_iff] at hmarkup
    obtain ⟨s, hs⟩ := exists_escape_eq hmarkup.2 hentities.of_append
    exact ⟨d :: s, by rw [escape_cons, hs]⟩
termination_by t.length

/-- Escaping loses nothing. An escaped text has no angle brackets and no quotation marks. Replacing
the entities in one pass from the left gives back the text, also if it has entities of its own and
whatever follows it, so no two texts are escaped alike. Texts are escaped piece by piece, and what
can be the result are the texts without these characters in which every ampersand begins an
entity. -/
theorem escape_reversible :
    (∀ t, '<' ∉ escape t ∧ '>' ∉ escape t ∧ '"' ∉ escape t ∧ '\'' ∉ escape t) ∧
    (∀ t, unescape (escape t) = t) ∧
    (∀ s t, escape s = escape t ↔ s = t) ∧
    (∀ s t, escape (s ++ t) = escape s ++ escape t) ∧
    (∀ s t, unescape (escape s ++ t) = s ++ unescape t) ∧
    ∀ t, (∃ s, escape s = t) ↔ markup t = [] ∧ HasEntities t := by
  refine ⟨fun t => ?_, unescape_escape, fun s t => ⟨fun h => ?_, congrArg escape⟩, escape_append,
    unescape_escape_append, fun t => ⟨?_, fun h => exists_escape_eq h.1 h.2⟩⟩
  · have hnot : ∀ c ∈ ['<', '>', '"', '\''], c ∉ escape t := fun c hc => not_mem_escape hc t
    simpa using hnot
  · have := congrArg unescape h
    rwa [unescape_escape, unescape_escape] at this
  · rintro ⟨s, rfl⟩
    exact ⟨markup_escape s, hasEntities_escape s⟩

/-- Entities in a text, one of them cut off, are text like any other. -/
example : escape "&lt;'&".toList = "&amp;lt;&#x27;&amp;".toList ∧
    unescape "&amp;lt;&#x27;&am".toList = "&lt;'&am".toList := by decide

end FileServer.Html
