import Mathlib.Data.List.TakeWhile
import FileServer.Http.Request

/-!
# The parts of a target

A target is built like a URL, of a path, a query behind a `?` and a fragment behind a `#`, and it
can be taken apart in one way only (`Splits`). The path of a request is the path of its target. Its
query is that of the target if there is one, and otherwise that of the fragment, read as a target.

* `path_subset`, `query_subset`: the path and the query of a request are parts of its target;
* `isPath_path`, `not_mem_query`: they are without the signs that end them;
* `path_eq_of_target`: the path of a target that was put together;
* `exists_splits`, `Splits.unique`: a target can be taken apart, and in one way only;
* `query?_of_splits`, `query?_eq_none_iff`: where the query of a request comes from.
-/

namespace FileServer.Request

variable {request : Request}

/-- Whether a text can be the path of a target. -/
def IsPath (t : Text) : Prop := ∀ c ∈ t, c ≠ '?' ∧ c ≠ '#'

instance (t : Text) : Decidable (IsPath t) := List.decidableBAll _ t

theorem isPath_append {s t : Text} : IsPath (s ++ t) ↔ IsPath s ∧ IsPath t :=
  List.forall_mem_append

theorem isPath_path (request : Request) : IsPath request.path :=
  fun c hc => by simpa using List.mem_takeWhile_imp hc

theorem path_subset (request : Request) : request.path ⊆ request.target :=
  (List.takeWhile_prefix _).subset

theorem query_subset {query : Text} (h : request.query? = some query) :
    query ⊆ request.target := by
  unfold query? at h
  split at h
  · cases h
  · next mark rest htarget =>
    obtain rfl := Option.some.inj h
    intro c hc
    refine (List.dropWhile_suffix (· ≠ '?')).subset ?_
    rw [htarget]
    exact List.mem_cons_of_mem _ ((List.takeWhile_prefix _).subset hc)

theorem not_mem_query {query : Text} (h : request.query? = some query) : '#' ∉ query := by
  unfold query? at h
  split at h
  · cases h
  · obtain rfl := Option.some.inj h
    intro hmem
    have := List.mem_takeWhile_imp hmem
    simp at this

/-- The path of a target is what stands before something that ends it. -/
theorem path_eq_of_target {path rest : Text} (htarget : request.target = path ++ rest)
    (hpath : IsPath path) (hrest : rest.head? ∈ [none, some '?', some '#']) :
    request.path = path := by
  have hbefore : ∀ c ∈ path, (c ≠ '?' && c ≠ '#') = true := fun c hc => by
    simpa using hpath c hc
  have hafter : rest.takeWhile (fun c => c ≠ '?' && c ≠ '#') = [] := by
    cases rest with
    | nil => rfl
    | cons c rest =>
      refine List.takeWhile_cons_of_neg ?_
      simp only [List.head?_cons, List.mem_cons, Option.some.injEq, List.not_mem_nil, or_false,
        reduceCtorEq, false_or] at hrest
      obtain rfl | rfl := hrest <;> decide
  rw [Request.path, htarget, List.takeWhile_append_of_pos hbefore, hafter, List.append_nil]

/-! ## Taking a target apart -/

/-- A part of a target, with the sign before it. -/
def marked (sign : Char) : Option Text → Text
  | none => []
  | some part => sign :: part

/-- The parts of which a target is built like a URL. -/
structure Splits (target path : Text) (query fragment : Option Text) : Prop where
  join : target = path ++ (marked '?' query ++ marked '#' fragment)
  path : IsPath path
  query : ∀ text ∈ query, '#' ∉ text

variable {path : Text} {query fragment : Option Text}

theorem marked_injective {sign : Char} {a b : Option Text} (h : marked sign a = marked sign b) :
    a = b := by
  cases a <;> cases b <;> simp_all [marked]

theorem takeWhile_append_marked {text : Text} (h : '#' ∉ text) (fragment : Option Text) :
    (text ++ marked '#' fragment).takeWhile (· ≠ '#') = text := by
  have hbefore : ∀ c ∈ text, decide (c ≠ '#') = true := fun c hc =>
    decide_eq_true fun e => h (e ▸ hc)
  rw [List.takeWhile_append_of_pos hbefore]
  cases fragment with
  | none => simp [marked]
  | some part => simp [marked]

theorem not_mem_marked (query : Option Text) (h : ∀ text ∈ query, '#' ∉ text) :
    '#' ∉ marked '?' query := by
  cases query with
  | none => simp [marked]
  | some text => simpa [marked] using h text rfl

/-- What follows the first `#` is the fragment. -/
theorem exists_fragment (rest : Text) :
    ∃ text fragment, rest = text ++ marked '#' fragment ∧ '#' ∉ text := by
  by_cases hmem : '#' ∈ rest
  · obtain ⟨text, part, hrest, htext⟩ := List.eq_append_cons_of_mem hmem
    exact ⟨text, some part, hrest, htext⟩
  · exact ⟨rest, none, (List.append_nil rest).symm, hmem⟩

/-- Every target can be taken apart, and begins with the path of the request. -/
theorem exists_splits (request : Request) :
    ∃ query fragment, Splits request.target request.path query fragment := by
  obtain ⟨rest, htarget, hhead⟩ := request.path_append
  cases rest with
  | nil => exact ⟨none, none, htarget, request.isPath_path, by simp⟩
  | cons sign rest =>
    have hsign : sign = '?' ∨ sign = '#' := by simpa using hhead
    obtain rfl | rfl := hsign
    · obtain ⟨text, fragment, rfl, htext⟩ := exists_fragment rest
      exact ⟨some text, fragment, htarget, request.isPath_path, by simpa using htext⟩
    · exact ⟨none, some rest, htarget, request.isPath_path, by simp⟩

/-- What follows the path begins with a sign. -/
theorem head?_marked (query fragment : Option Text) :
    (marked '?' query ++ marked '#' fragment).head? ∈ [none, some '?', some '#'] := by
  cases query <;> cases fragment <;> simp [marked]

theorem Splits.path_eq (h : Splits request.target path query fragment) : request.path = path :=
  path_eq_of_target h.join h.path (head?_marked query fragment)

/-- A target can be taken apart in one way only. -/
theorem Splits.unique (h : Splits request.target path query fragment)
    {path' : Text} {query' fragment' : Option Text}
    (h' : Splits request.target path' query' fragment') :
    path' = path ∧ query' = query ∧ fragment' = fragment := by
  have hpath : path' = path := h'.path_eq.symm.trans h.path_eq
  subst hpath
  have hrest : marked '?' query' ++ marked '#' fragment' =
      marked '?' query ++ marked '#' fragment :=
    List.append_cancel_left (h'.join.symm.trans h.join)
  have hquery : marked '?' query' = marked '?' query := by
    rw [← takeWhile_append_marked (not_mem_marked query' h'.query) fragment', hrest,
      takeWhile_append_marked (not_mem_marked query h.query)]
  rw [hquery] at hrest
  exact ⟨rfl, marked_injective hquery, marked_injective (List.append_cancel_left hrest)⟩

/-! ## The query of a request -/

/-- The query of a request is that of its target if the target has one. Otherwise it is the query
that the fragment has when it is read as a target. -/
theorem query?_of_splits (h : Splits request.target path query fragment) :
    request.query? =
      query.or (fragment.bind fun text => { request with target := text }.query?) := by
  have hbefore : ∀ c ∈ path, decide (c ≠ '?') = true := fun c hc => decide_eq_true (h.path c hc).1
  unfold query?
  rw [h.join, List.dropWhile_append_of_pos hbefore]
  cases query with
  | some text =>
    rw [marked, List.cons_append, List.dropWhile_cons_of_neg (by decide)]
    exact congrArg some (takeWhile_append_marked (h.query text rfl) fragment)
  | none =>
    cases fragment with
    | none => simp [marked]
    | some text => simp [marked]

/-- A text without `?` has no query, and no other has none. -/
theorem query?_eq_none_iff : request.query? = none ↔ '?' ∉ request.target := by
  unfold query?
  split
  · next hnone =>
    have hall := List.dropWhile_eq_nil_iff.1 hnone
    exact ⟨fun _ hmem => by simpa using hall _ hmem, fun _ => rfl⟩
  · next c rest hsome =>
    have hc : c = '?' := by
      have := List.head?_dropWhile_not (· ≠ '?') request.target
      rw [hsome] at this
      simpa using this
    refine ⟨fun h => (Option.some_ne_none _ h).elim, fun h => (h ?_).elim⟩
    refine (List.dropWhile_suffix (· ≠ '?')).subset ?_
    rw [hsome, hc]
    exact List.mem_cons_self

end FileServer.Request
