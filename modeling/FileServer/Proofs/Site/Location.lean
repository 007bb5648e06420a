import FileServer.Proofs.Http.Target
import FileServer.Site.Answer

/-!
# The location of a directory

The location that a redirect names is put together of the path and the query of a request. Its path
has one slash for those at the front of the path and one more at the end. A request with the
location as its target has this path, and the query of the first request.

* `directoryLocation_eq`: a location is its path, with the query of the request;
* `mem_directoryLocation`: nothing but signs is in a location that is not in the target;
* `splits_directoryLocation`: how a location is taken apart;
* `path_of_directoryLocation`, `query?_of_directoryLocation`: what a request for it asks for.
-/

namespace FileServer.Site

/-- The path of the location of a directory. -/
def directoryPath (request : Request) : Text := '/' :: request.path.dropWhile (· = '/') ++ ['/']

theorem directoryLocation_eq (request : Request) :
    directoryLocation request = directoryPath request ++ Request.marked '?' request.query? := by
  unfold directoryLocation directoryPath
  cases request.query? with
  | some query => simp [Request.marked]
  | none => simp [Request.marked]

theorem getLast?_directoryPath (request : Request) :
    (directoryPath request).getLast? = some '/' := by
  rw [directoryPath, List.getLast?_concat]

theorem mem_directoryPath {request : Request} {c : Char} (h : c ∈ directoryPath request) :
    c = '/' ∨ c ∈ request.path := by
  obtain h | h := List.mem_append.1 h
  · obtain rfl | h := List.mem_cons.1 h
    · exact .inl rfl
    · exact .inr ((List.dropWhile_suffix _).subset h)
  · exact .inl (List.mem_singleton.1 h)

/-- A location repeats nothing of a request but parts of its target. -/
theorem mem_directoryLocation {request : Request} {c : Char}
    (h : c ∈ directoryLocation request) : c ∈ ['/', '?'] ∨ c ∈ request.target := by
  rw [directoryLocation_eq] at h
  obtain h | h := List.mem_append.1 h
  · obtain rfl | h := mem_directoryPath h
    · exact .inl (by decide)
    · exact .inr (request.path_subset h)
  · cases hquery : request.query? with
    | some query =>
      rw [hquery] at h
      obtain rfl | h := List.mem_cons.1 h
      · exact .inl (by decide)
      · exact .inr (Request.query_subset hquery h)
    | none =>
      rw [hquery] at h
      cases h

/-! ## Taking a location apart -/

variable {request next : Request}

theorem isPath_directoryPath (request : Request) : Request.IsPath (directoryPath request) := by
  intro c hc
  obtain rfl | hc := mem_directoryPath hc
  · decide
  · exact request.isPath_path c hc

/-- A location has the path and the query that it was put together of, and no fragment. -/
theorem splits_directoryLocation (request : Request) :
    Request.Splits (directoryLocation request) (directoryPath request) request.query? none :=
  ⟨by rw [directoryLocation_eq, Request.marked, List.append_nil], isPath_directoryPath request,
    fun _ => Request.not_mem_query⟩

theorem path_of_directoryLocation (h : next.target = directoryLocation request) :
    next.path = directoryPath request :=
  Request.Splits.path_eq (h ▸ splits_directoryLocation request)

theorem query?_of_directoryLocation (h : next.target = directoryLocation request) :
    next.query? = request.query? := by
  rw [Request.query?_of_splits (h ▸ splits_directoryLocation request), Option.bind_none,
    Option.or_none]

end FileServer.Site
