import FileServer.Http.Header

/-!
# Fields with one name

Looking a field up gives the first one of its name (`Header.find?`). Where no two fields have the
same name (`Header.Distinct`) that is all there is to find.

* `values_of_mem`: a field is the only one of its name if no two fields share one;
* `find?_eq_head?_values`: what is looked up is the first value.
-/

namespace FileServer

theorem sameName_comm (a b : Text) : sameName a b = sameName b a :=
  decide_eq_decide.2 eq_comm

namespace Header

/-- The values of all fields with a name. -/
def values (name : Text) (headers : List Header) : List Text :=
  (headers.filter fun header => sameName header.name name).map (·.value)

/-- Whether no two fields have the same name. -/
def Distinct (headers : List Header) : Prop :=
  headers.Pairwise fun a b => sameName a.name b.name = false

theorem values_cons (name : Text) (header : Header) (headers : List Header) :
    values name (header :: headers) =
      if sameName header.name name then header.value :: values name headers
      else values name headers := by
  unfold values
  rw [List.filter_cons]
  split <;> rfl

theorem values_eq_nil {name : Text} {headers : List Header}
    (h : ∀ header ∈ headers, sameName header.name name = false) : values name headers = [] := by
  have hfilter : headers.filter (fun header => sameName header.name name) = [] :=
    List.filter_eq_nil_iff.2 fun header hmem => by simp [h header hmem]
  rw [values, hfilter, List.map_nil]

/-- A field is the only one of its name if no two fields have the same name. -/
theorem values_of_mem {header : Header} {headers : List Header} (hdistinct : Distinct headers)
    (h : header ∈ headers) : values header.name headers = [header.value] := by
  induction headers with
  | nil => cases h
  | cons first headers ih =>
    obtain ⟨hfirst, hothers⟩ := List.pairwise_cons.1 hdistinct
    obtain rfl | hmem := List.mem_cons.1 h
    · have hnone : values header.name headers = [] := values_eq_nil fun other hother => by
        rw [sameName_comm, hfirst other hother]
      rw [values_cons, sameName_refl, if_pos rfl, hnone]
    · rw [values_cons, hfirst header hmem, if_neg (by decide), ih hothers hmem]

theorem find?_eq_head?_values (name : Text) (headers : List Header) :
    find? name headers = (values name headers).head? := by
  rw [find?, values, List.head?_map, List.head?_filter]

end Header

end FileServer
