import FileServer.Http.MediaTable
import FileServer.Proofs.Text.Escapes
import FileServer.Proofs.Text.Lossy
import FileServer.Site.Basic

/-!
# Request paths piece by piece

A slash that is not escaped cuts a request path before and after decoding in the same place: no
escape takes it in, and it ends what is ill-formed before it. So the names in a path are those
before such a slash and those after it, and slashes at either end change nothing. What follows the
last slash may be a link that was made of a name, and this is read as the name again.

* `segments_append_slash`: the names on either side of a slash;
* `segments_dropWhile_slash`: slashes at the front name nothing;
* `segments_encode`: a link that was made of a name stands for the name;
* `segments_of_spells`: the names of a path are its fields, less those that name nothing;
* `segments_of_writes`: it is decoded once, whatever is escaped in it;
* `locate_spelling`: a path leads to the names that it spells, and nowhere else;
* `locate_append`: a path with more behind it leads further.
-/

namespace FileServer.Site

/-! ## Decoding -/

theorem decodePath_append_slash (s t : Text) :
    decodePath (s ++ '/' :: t) = decodePath s ++ '/' :: decodePath t := by
  have hbyte : UInt8.ofNat ('/' : Char).toNat = 0x2F := rfl
  rw [decodePath, Utf8.encode_append, Utf8.encode_cons_ascii (by decide), hbyte,
    Percent.decode_append_slash, Utf8.decodeLossy_append_ascii (by decide)]
  rfl

theorem decodePath_encode (t : Text) : decodePath (Percent.encode t) = t := by
  rw [decodePath, Percent.decode_encode, Utf8.decodeLossy_encode]

theorem decodePath_of_writes {t urlPath : Text} (h : Percent.Writes t urlPath) :
    decodePath urlPath = t := by
  have hread := Percent.decode_of_writes h []
  rw [List.append_nil, show Percent.decode [] = [] from rfl, List.append_nil] at hread
  rw [decodePath, hread, Utf8.decodeLossy_encode]

/-! ## Names -/

/-- The names on either side of a slash. -/
theorem segments_append_slash (s t : Text) :
    segments (s ++ '/' :: t) = segments s ++ segments t := by
  rw [segments, decodePath_append_slash, splitOn_append_separator, List.filter_append]
  rfl

@[simp] theorem segments_nil : segments [] = [] := by decide

@[simp] theorem segments_cons_slash (t : Text) : segments ('/' :: t) = segments t :=
  segments_append_slash [] t

@[simp] theorem segments_append_singleton_slash (s : Text) :
    segments (s ++ ['/']) = segments s := by
  rw [segments_append_slash, segments_nil, List.append_nil]

/-- Slashes at the front name nothing. -/
theorem segments_dropWhile_slash (t : Text) : segments (t.dropWhile (· = '/')) = segments t := by
  induction t with
  | nil => rfl
  | cons c t ih =>
    by_cases hc : c = '/'
    · rw [List.dropWhile_cons_of_pos (by simpa using hc), ih, hc, segments_cons_slash]
    · rw [List.dropWhile_cons_of_neg (by simpa using hc)]

/-- Whether a text can be the name of a directory entry. -/
def IsName (name : Text) : Prop :=
  name ≠ [] ∧ name ≠ ['.'] ∧ name ≠ ['.', '.'] ∧ '/' ∉ name

instance (name : Text) : Decidable (IsName name) :=
  inferInstanceAs (Decidable (_ ∧ _ ∧ _ ∧ _))

theorem IsName.isPlain {name : Text} (h : IsName name) : isPlain name = true := by
  obtain ⟨hempty, hpoint, hpoints, -⟩ := h
  simp [Site.isPlain, hempty, hpoint, hpoints]

/-- A link that was made of a name stands for the name. -/
theorem segments_encode {name : Text} (h : IsName name) :
    segments (Percent.encode name) = [name] := by
  rw [segments, decodePath_encode, splitOn_of_not_mem h.2.2.2, List.filter_cons_of_pos h.isPlain,
    List.filter_nil]

/-- Fields between slashes that are names, among others that name nothing. -/
inductive Spells : List Text → List Text → Prop
  | nil : Spells [] []
  | name {name : Text} {fields names : List Text} (hname : IsName name)
      (h : Spells fields names) : Spells (name :: fields) (name :: names)
  | skip {field : Text} {fields names : List Text} (hfield : field ∈ [[], ['.'], ['.', '.']])
      (h : Spells fields names) : Spells (field :: fields) names

/-- The names of a path are its fields, less those that name nothing. -/
theorem segments_of_spells {urlPath : Text} {names : List Text}
    (h : Spells (splitOn '/' (decodePath urlPath)) names) : segments urlPath = names := by
  rw [segments]
  generalize splitOn '/' (decodePath urlPath) = fields at h
  induction h with
  | nil => rfl
  | name hname _ ih => rw [List.filter_cons_of_pos hname.isPlain, ih]
  | @skip field fields names hfield _ ih =>
    have hskipped : ∀ field ∈ [[], ['.'], ['.', '.']], isPlain field = false := by decide
    rw [List.filter_cons_of_neg (by simp [hskipped field hfield]), ih]

theorem Spells.slash_not_mem {fields names : List Text} (h : Spells fields names) :
    ∀ field ∈ fields, '/' ∉ field := by
  have hskipped : ∀ field ∈ [[], ['.'], ['.', '.']], '/' ∉ field := by decide
  induction h with
  | nil => exact List.forall_mem_nil _
  | name hname _ ih => exact List.forall_mem_cons.2 ⟨hname.2.2.2, ih⟩
  | skip hfield _ ih => exact List.forall_mem_cons.2 ⟨hskipped _ hfield, ih⟩

theorem spells_self {names : List Text} (h : ∀ name ∈ names, IsName name) : Spells names names := by
  induction names with
  | nil => exact .nil
  | cons name names ih =>
    obtain ⟨hname, hnames⟩ := List.forall_mem_cons.1 h
    exact .name hname (ih hnames)

/-- A path is decoded once, whatever is escaped in it: its fields, or the slashes between them. -/
theorem segments_of_writes {fields names : List Text} {urlPath : Text}
    (hfields : Spells fields names) (hpath : Percent.Writes (['/'].intercalate fields) urlPath) :
    segments urlPath = names := by
  apply segments_of_spells
  rw [decodePath_of_writes hpath]
  by_cases hnone : fields = []
  · -- no field at all is spelled like an empty one
    rw [hnone] at hfields ⊢
    exact .skip List.mem_cons_self hfields
  · rw [splitOn_intercalate hnone hfields.slash_not_mem]
    exact hfields

theorem locate_eq_of_segments {site : Site} {urlPath : Text} {names : List Text}
    (h : segments urlPath = names) : site.locate urlPath = site.root ++ names.map Utf8.encode := by
  rw [locate, h]

/-- A path leads to names below the root. These are the ones that it spells, in whatever way it is
written; percent signs in them are not decoded again. -/
theorem locate_spelling (site : Site) :
    (∀ urlPath, ∃ names : List Text, (∀ name ∈ names, IsName name) ∧
      site.locate urlPath = site.root ++ names.map Utf8.encode) ∧
    (∀ urlPath fields names, Spells fields names →
      Percent.Writes (['/'].intercalate fields) urlPath →
      site.locate urlPath = site.root ++ names.map Utf8.encode) ∧
    ∀ names, (∀ name ∈ names, IsName name) →
      site.locate (Percent.escapeSigns (['/'].intercalate ([] :: names))) =
        site.root ++ names.map Utf8.encode := by
  refine ⟨fun urlPath => ⟨segments urlPath, ?_, rfl⟩, ?_, ?_⟩
  · intro name hname
    exact segments_plain hname
  · intro urlPath fields names hfields hpath
    exact locate_eq_of_segments (segments_of_writes hfields hpath)
  · intro names hnames
    have hfields : Spells ([] :: names) names := .skip List.mem_cons_self (spells_self hnames)
    exact locate_eq_of_segments (segments_of_writes hfields (Percent.writes_escapeSigns _))

/-- Names that look like escapes, written with escapes in either case. -/
theorem locate_spelling_of_signs :
    let site : Site := ⟨["srv".toUTF8.data.toList]⟩
    let names := ["%2e".toList, "a%2Fb".toList, "é%25".toList]
    let fields := [[], "..".toList, "%2e".toList, ".".toList, "a%2Fb".toList, [], "é%25".toList]
    let urlPath := "/%2E./%252e/.%2fa%252Fb//%C3%a9%2525".toList
    let plain := "/%252e/a%252Fb/é%2525".toList
    (Spells fields names ∧ Percent.Writes (['/'].intercalate fields) urlPath ∧
      site.locate urlPath = site.root ++ names.map Utf8.encode) ∧
    ((∀ name ∈ names, IsName name) ∧
      Percent.escapeSigns (['/'].intercalate ([] :: names)) = plain ∧
      site.locate plain = site.root ++ names.map Utf8.encode) := by
  intro site names fields urlPath plain
  have hnames : ∀ name ∈ names, IsName name := by decide
  have hfields : Spells fields names :=
    .skip (by decide) (.skip (by decide) (.name (by decide) (.skip (by decide) (.name (by decide)
      (.skip (by decide) (.name (by decide) .nil))))))
  have hpath : Percent.Writes (['/'].intercalate fields) urlPath := by
    have hpoint : Percent.Escapes (String.utf8EncodeChar '.') "%2E".toList :=
      .cons (by decide) (by decide) .nil
    have hsign : Percent.Escapes (String.utf8EncodeChar '%') "%25".toList :=
      .cons (by decide) (by decide) .nil
    have hslash : Percent.Escapes (String.utf8EncodeChar '/') "%2f".toList :=
      .cons (by decide) (by decide) .nil
    have hletter : Percent.Escapes (String.utf8EncodeChar 'é') "%C3%a9".toList :=
      .cons (by decide) (by decide) (.cons (by decide) (by decide) .nil)
    have hplain := fun t ht => @Percent.writes_of_not_mem t ht
    exact (hplain "/".toList (by decide)).append <| .escaped hpoint <|
      (hplain "./".toList (by decide)).append <| .escaped hsign <|
      (hplain "2e/.".toList (by decide)).append <| .escaped hslash <|
      (hplain "a".toList (by decide)).append <| .escaped hsign <|
      (hplain "2Fb//".toList (by decide)).append <| .escaped hletter <| .escaped hsign <|
      hplain "25".toList (by decide)
  obtain ⟨-, hspelled, hsigns⟩ := locate_spelling site
  have hplain : Percent.escapeSigns (['/'].intercalate ([] :: names)) = plain := by decide
  refine ⟨⟨hfields, hpath, hspelled urlPath fields names hfields hpath⟩, hnames, hplain, ?_⟩
  rw [← hplain]
  exact hsigns names hnames

/-- What follows a slash leads on from where the path before it leads. -/
theorem locate_append {path : Text} (hslash : path.getLast? = some '/') (site : Site)
    (text : Text) :
    site.locate (path ++ text) = site.locate path ++ (segments text).map Utf8.encode := by
  obtain ⟨before, rfl⟩ := List.getLast?_eq_some_iff.1 hslash
  rw [locate, locate, List.append_assoc, List.singleton_append, segments_append_slash,
    segments_append_singleton_slash, List.map_append, List.append_assoc]

end FileServer.Site
