import FileServer.Proofs.Site.Redirects

/-!
# Queries and fragments

A request has the path of its target and the query of its target if there is one. Otherwise the
query is looked for in the fragment, so that a `?` within a fragment right after the path is taken
for the beginning of a query, and a redirect repeats what follows.

* `exists_splits_iff`: when the path and the query of a request fit the target;
* `splits_target`: what they have to do with the target, and what a redirect repeats.
-/

namespace FileServer

namespace Request

/-- The query of a request is that of its target as long as a fragment right after the path is
without `?`. -/
theorem exists_splits_iff (request : Request) :
    (∃ fragment, Splits request.target request.path request.query? fragment) ↔
      ∀ before after, request.target = before ++ '#' :: after → IsPath before →
        '?' ∉ after := by
  constructor
  · rintro ⟨fragment, h⟩ before after htarget hbefore
    have hsplits : Splits request.target before none (some after) := ⟨htarget, hbefore, by simp⟩
    obtain ⟨-, hquery, -⟩ := hsplits.unique h
    rw [query?_of_splits hsplits] at hquery
    exact query?_eq_none_iff.1 hquery
  · intro h
    obtain ⟨query, fragment, hsplits⟩ := exists_splits request
    refine ⟨fragment, ?_⟩
    have hquery : request.query? = query := by
      rw [query?_of_splits hsplits]
      cases query with
      | some text => rfl
      | none =>
        cases fragment with
        | none => rfl
        | some text =>
          exact query?_eq_none_iff.2 (h request.path text hsplits.join hsplits.path)
    rw [hquery]
    exact hsplits

end Request

namespace Reply

/-- The target of a request can be taken apart in one way, and begins with the path of the request.
The query of the request is that of the target if there is one, and otherwise that of the fragment,
read as a target; it has no `#` in either case. It fits the target as long as a fragment right after
the path is without `?`, and in no other case. A redirect repeats the query, wherever it comes
from. -/
theorem splits_target (request : Request) :
    (∃ query fragment, Request.Splits request.target request.path query fragment ∧
      (∀ path' query' fragment', Request.Splits request.target path' query' fragment' →
        path' = request.path ∧ query' = query ∧ fragment' = fragment) ∧
      request.query? =
        query.or (fragment.bind fun text => { request with target := text }.query?)) ∧
    (∀ text ∈ request.query?, '#' ∉ text) ∧
    ((∃ fragment, Request.Splits request.target request.path request.query? fragment) ↔
      ∀ before after, request.target = before ++ '#' :: after → Request.IsPath before →
        '?' ∉ after) ∧
    ∀ site disk now head, parseHead head = .ok request →
      (respond site disk now head).response.status = .movedPermanently →
      (respond site disk now head).response.header "Location".toList =
        some (Site.directoryPath request ++ Request.marked '?' request.query?) := by
  refine ⟨?_, fun text => Request.not_mem_query, request.exists_splits_iff,
    fun site disk now head hparse hstatus => ?_⟩
  · obtain ⟨query, fragment, hsplits⟩ := request.exists_splits
    exact ⟨query, fragment, hsplits, fun _ _ _ h => hsplits.unique h,
      Request.query?_of_splits hsplits⟩
  · obtain ⟨other, hother, -, hlocation⟩ := exists_location_of_status hstatus
    obtain rfl := Except.ok.inj (hparse.symm.trans hother)
    rw [hlocation, Site.directoryLocation_eq]

/-- A fragment with a query in it: the query is repeated, the fragment is not. -/
theorem splits_target_of_query :
    let bytes := fun s : String => Utf8.encode s.toList
    let disk : Disk := ⟨[⟨[], bytes "d", .object (.directory .all)⟩]⟩
    let head := bytes "GET /d?a?b#c?d HTTP/1.0\r\n\r\n"
    (respond ⟨[]⟩ disk 0 head).response.header "Location".toList = some "/d/?a?b".toList := by
  intro bytes disk head
  have hhead : parseHead head = .ok ⟨.get, "/d?a?b#c?d".toList, .http10, []⟩ := by
    rw [parseHead_encode]
    decide +kernel
  obtain ⟨-, -, -, hlocation⟩ := splits_target ⟨.get, "/d?a?b#c?d".toList, .http10, []⟩
  have hstatus : (respond ⟨[]⟩ disk 0 head).response.status = .movedPermanently := by
    decide +kernel
  exact (hlocation ⟨[]⟩ disk 0 head hhead hstatus).trans (by decide +kernel)

/-- A question mark in a fragment is taken for the beginning of a query. -/
theorem splits_target_of_fragment :
    let bytes := fun s : String => Utf8.encode s.toList
    let disk : Disk := ⟨[⟨[], bytes "d", .object (.directory .all)⟩]⟩
    let head := bytes "GET /d#b?c HTTP/1.1\r\n\r\n"
    let request : Request := ⟨.get, "/d#b?c".toList, .http11, []⟩
    parseHead head = .ok request ∧
      request.path = "/d".toList ∧ request.query? = some "c".toList ∧
      (¬ ∃ fragment, Request.Splits request.target request.path request.query? fragment) ∧
      (respond ⟨[]⟩ disk 0 head).response.header "Location".toList = some "/d/?c".toList := by
  intro bytes disk head request
  have hfragment : ¬ ∃ fragment,
      Request.Splits request.target request.path request.query? fragment := by
    rw [Request.exists_splits_iff]
    intro h
    exact h request.path "b?c".toList (by decide +kernel) request.isPath_path (by decide)
  have hhead : parseHead head = .ok request := by
    rw [parseHead_encode]
    decide +kernel
  exact ⟨hhead, by decide +kernel, by decide +kernel, hfragment, by decide +kernel⟩

end Reply

end FileServer
