import FileServer.Connection

/-!
# Where a head ends

The end of a head is a matter of its bytes alone: a first line that is blank means that there is no
request, and otherwise the head is the shortest beginning that ends with a blank line (`IsHeadOf`).
Bytes that have neither leave it open (`Undecided`).

A scan knows of the bytes before it no more than `Scan.after` says, which is computed from these
bytes and not by scanning. Each step keeps that, so a scan of any bytes finds what is to be found
in them.

* `step_after`: what one byte does to a scan, in terms of the bytes before and after it;
* `finds_advance`: what a scan of bytes finds, when other bytes came before them;
* `IsHeadOf.unique`: bytes have one head at most.
-/

namespace FileServer

/-! ## Blank lines -/

/-- The lines with nothing but their ending. -/
def blankLines : List Bytes := [[0x0A], [0x0D, 0x0A]]

/-- Whether the first line is blank. -/
def StartsBlank (bytes : Bytes) : Prop := ∃ line ∈ blankLines, line <+: bytes

/-- Whether the last line is blank, and comes after another. -/
def EndsBlank (bytes : Bytes) : Prop := ∃ line ∈ blankLines, 0x0A :: line <:+ bytes

instance (bytes : Bytes) : Decidable (StartsBlank bytes) :=
  inferInstanceAs (Decidable (∃ line ∈ blankLines, line <+: bytes))

instance (bytes : Bytes) : Decidable (EndsBlank bytes) :=
  inferInstanceAs (Decidable (∃ line ∈ blankLines, 0x0A :: line <:+ bytes))

/-- Whether a head is the shortest beginning of some bytes that ends with a blank line. -/
structure IsHeadOf (head bytes : Bytes) : Prop where
  begins : head <+: bytes
  endsBlank : EndsBlank head
  shortest : ∀ other, other <+: bytes → EndsBlank other → head.length ≤ other.length

/-- Whether bytes leave it open where the head ends: their first line is not blank, and no later
line is. -/
structure Undecided (bytes : Bytes) : Prop where
  not_startsBlank : ¬ StartsBlank bytes
  not_endsBlank : ∀ other, other <+: bytes → ¬ EndsBlank other

theorem IsHeadOf.unique {head head' bytes : Bytes} (h : IsHeadOf head bytes)
    (h' : IsHeadOf head' bytes) : head = head' :=
  List.prefix_of_prefix_length_le h.begins h'.begins
    (h.shortest head' h'.begins h'.endsBlank) |>.eq_of_length_le
    (h'.shortest head h.begins h.endsBlank)

theorem Undecided.not_isHeadOf {head bytes : Bytes} (h : Undecided bytes) :
    ¬ IsHeadOf head bytes :=
  fun hhead => h.not_endsBlank head hhead.begins hhead.endsBlank

/-- A head stays the head when more bytes come. -/
theorem IsHeadOf.append {head bytes : Bytes} (h : IsHeadOf head bytes) (more : Bytes) :
    IsHeadOf head (bytes ++ more) := by
  have hbegins : head <+: bytes ++ more := h.begins.trans (List.prefix_append _ _)
  refine ⟨hbegins, h.endsBlank, fun other hother hends => ?_⟩
  obtain hlonger | hshorter := List.prefix_or_prefix_of_prefix hbegins hother
  · exact hlonger.length_le
  · exact h.shortest other (hshorter.trans h.begins) hends

theorem IsHeadOf.self {head bytes : Bytes} (h : IsHeadOf head bytes) : IsHeadOf head head :=
  ⟨List.prefix_refl _, h.endsBlank,
    fun other hother => h.shortest other (hother.trans h.begins)⟩

theorem StartsBlank.append {bytes : Bytes} (h : StartsBlank bytes) (more : Bytes) :
    StartsBlank (bytes ++ more) := by
  obtain ⟨line, hline, hbegins⟩ := h
  exact ⟨line, hline, hbegins.trans (List.prefix_append _ _)⟩

/-- Bytes that end with a blank line are long enough to tell whether their first line is blank. -/
theorem StartsBlank.of_append {bytes more : Bytes} (h : StartsBlank (bytes ++ more))
    (hends : EndsBlank bytes) : StartsBlank bytes := by
  obtain ⟨line, hline, hbegins⟩ := h
  obtain ⟨last, hlast, hsuffix⟩ := hends
  have hshort : ∀ line ∈ blankLines, 1 ≤ line.length ∧ line.length ≤ 2 := by decide
  have hlength := hsuffix.length_le
  rw [List.length_cons] at hlength
  have := hshort line hline
  have := hshort last hlast
  exact ⟨line, hline, List.prefix_of_prefix_length_le hbegins (List.prefix_append _ _) (by omega)⟩

theorem IsHeadOf.startsBlank_iff {head bytes : Bytes} (h : IsHeadOf head bytes) :
    StartsBlank bytes ↔ StartsBlank head := by
  obtain ⟨rest, rfl⟩ := h.begins
  exact ⟨fun hblank => hblank.of_append h.endsBlank, fun hblank => hblank.append rest⟩

theorem Undecided.of_append {bytes more : Bytes} (h : Undecided (bytes ++ more)) :
    Undecided bytes :=
  ⟨fun hblank => h.not_startsBlank (hblank.append more),
    fun other hother => h.not_endsBlank other (hother.trans (List.prefix_append _ _))⟩

theorem undecided_nil : Undecided [] := by
  refine ⟨by decide, fun other hother => ?_⟩
  obtain rfl := List.prefix_nil.1 hother
  decide

/-! ## One more byte -/

theorem suffix_append_singleton {xs ys : Bytes} {a b : UInt8} :
    xs ++ [a] <:+ ys ++ [b] ↔ a = b ∧ xs <:+ ys := by
  rw [List.suffix_concat_iff]
  constructor
  · rintro (hnil | ⟨zs, heq, hzs⟩)
    · simp at hnil
    · obtain ⟨rfl, rfl⟩ := List.append_singleton_inj.1 heq
      exact ⟨rfl, hzs⟩
  · rintro ⟨rfl, h⟩
    exact .inr ⟨xs, rfl, h⟩

theorem append_singleton_mem_blankLines {bytes : Bytes} {b : UInt8} :
    bytes ++ [b] ∈ blankLines ↔ b = 0x0A ∧ (bytes = [] ∨ bytes = [0x0D]) := by
  have hlf := @List.append_singleton_inj _ b 0x0A bytes []
  have hcrlf := @List.append_singleton_inj _ b 0x0A bytes [0x0D]
  simp only [List.cons_append, List.nil_append] at hlf hcrlf
  simp only [blankLines, List.mem_cons, List.not_mem_nil, or_false, hlf, hcrlf]
  rw [← or_and_right, and_comm]

theorem endsBlank_append_singleton {bytes : Bytes} {b : UInt8} :
    EndsBlank (bytes ++ [b]) ↔ b = 0x0A ∧ ([0x0A] <:+ bytes ∨ [0x0A, 0x0D] <:+ bytes) := by
  have hlf := @suffix_append_singleton [0x0A] bytes 0x0A b
  have hcrlf := @suffix_append_singleton [0x0A, 0x0D] bytes 0x0A b
  simp only [List.cons_append, List.nil_append] at hlf hcrlf
  simp only [EndsBlank, blankLines, List.mem_cons, List.not_mem_nil, or_false, exists_eq_or_imp,
    exists_eq_left, hlf, hcrlf, eq_comm (a := b), and_or_left]

theorem startsBlank_append_singleton {bytes : Bytes} {b : UInt8} :
    StartsBlank (bytes ++ [b]) ↔ StartsBlank bytes ∨ bytes ++ [b] ∈ blankLines := by
  constructor
  · rintro ⟨line, hline, hbegins⟩
    obtain rfl | hbegins := List.prefix_concat_iff.1 hbegins
    · exact .inr hline
    · exact .inl ⟨line, hline, hbegins⟩
  · rintro (hblank | hline)
    · exact hblank.append [b]
    · exact ⟨_, hline, List.prefix_refl _⟩

/-- The end of a head stays open unless the byte ends a blank line. -/
theorem Undecided.append_singleton {bytes : Bytes} {b : UInt8} (h : Undecided bytes)
    (hfirst : bytes ++ [b] ∉ blankLines) (hlast : ¬ EndsBlank (bytes ++ [b])) :
    Undecided (bytes ++ [b]) := by
  refine ⟨fun hblank => ?_, fun other hother => ?_⟩
  · exact (startsBlank_append_singleton.1 hblank).elim h.not_startsBlank hfirst
  · obtain rfl | hother := List.prefix_concat_iff.1 hother
    · exact hlast
    · exact h.not_endsBlank other hother

theorem Undecided.isHeadOf_append_singleton {bytes : Bytes} {b : UInt8} (h : Undecided bytes)
    (hlast : EndsBlank (bytes ++ [b])) : IsHeadOf (bytes ++ [b]) (bytes ++ [b]) := by
  refine ⟨List.prefix_refl _, hlast, fun other hother hends => ?_⟩
  obtain rfl | hother := List.prefix_concat_iff.1 hother
  · exact Nat.le_refl _
  · exact absurd hends (h.not_endsBlank other hother)

namespace Scan

/-! ## The bytes behind a scan -/

/-- Where a scan stands after some bytes. -/
def after (bytes : Bytes) : Scan :=
  if bytes = [] then start
  else if bytes = [0x0D] then startReturn
  else if [0x0A] <:+ bytes then lineStart
  else if [0x0A, 0x0D] <:+ bytes then lineReturn
  else line

theorem after_append_singleton (bytes : Bytes) (b : UInt8) :
    after (bytes ++ [b]) =
      if b = 0x0A then lineStart
      else if b = 0x0D then
        if bytes = [] then startReturn else if [0x0A] <:+ bytes then lineReturn else line
      else line := by
  have hlf := @suffix_append_singleton [] bytes 0x0A b
  have hreturn := @suffix_append_singleton [0x0A] bytes 0x0D b
  have hfirst := @List.append_singleton_inj _ b 0x0D bytes []
  simp only [List.cons_append, List.nil_append, List.nil_suffix, and_true] at hlf hreturn hfirst
  have hne : bytes ++ [b] ≠ [] := by simp
  rw [after, if_neg hne]
  simp only [hlf, hreturn, hfirst, eq_comm (b := b)]
  by_cases hb : b = 0x0A
  · simp [hb]
  · by_cases hb' : b = 0x0D <;> by_cases hbytes : bytes = [] <;> simp [hb, hb', hbytes]

/-- What one byte does to a scan. -/
theorem step_after (bytes : Bytes) (b : UInt8) :
    (after bytes).step b =
      if bytes ++ [b] ∈ blankLines then .blank
      else if EndsBlank (bytes ++ [b]) then .complete
      else .more (after (bytes ++ [b])) := by
  simp only [append_singleton_mem_blankLines, endsBlank_append_singleton, after_append_singleton]
  unfold step
  by_cases hlf : b = 0x0A
  · rw [if_pos hlf, after]
    by_cases hnil : bytes = []
    · simp [hlf, hnil]
    by_cases hreturn : bytes = [0x0D]
    · simp [hlf, hreturn]
    by_cases hline : [0x0A] <:+ bytes
    · simp [hlf, hnil, hreturn, hline]
    · by_cases hlineReturn : [0x0A, 0x0D] <:+ bytes <;>
        simp [hlf, hnil, hreturn, hline, hlineReturn]
  · rw [if_neg hlf, after]
    by_cases hcr : b = 0x0D
    · by_cases hnil : bytes = []
      · simp [hcr, hnil]
      -- a second CR begins no blank line, but an ordinary one
      by_cases hreturn : bytes = [0x0D]
      · subst hcr hreturn
        decide
      · by_cases hline : [0x0A] <:+ bytes <;> by_cases hlineReturn : [0x0A, 0x0D] <:+ bytes <;>
          simp [hcr, hnil, hreturn, hline, hlineReturn]
    · simp [hlf, hcr]

/-- What is to be found in bytes when other bytes came before them. -/
inductive Finds (before bytes : Bytes) : Progress × Bytes → Prop
  | more (h : Undecided (before ++ bytes)) :
      Finds before bytes (.more (after (before ++ bytes)), bytes)
  | blank (h : StartsBlank (before ++ bytes)) (taken : Bytes) : Finds before bytes (.blank, taken)
  | complete {taken : Bytes} (h : ¬ StartsBlank (before ++ bytes))
      (hhead : IsHeadOf (before ++ taken) (before ++ bytes)) :
      Finds before bytes (.complete, taken)

theorem Finds.cons {before bytes taken : Bytes} {b : UInt8} {progress : Progress}
    (h : Finds (before ++ [b]) bytes (progress, taken)) :
    Finds before (b :: bytes) (progress, b :: taken) := by
  cases h with
  | more hopen =>
    rw [List.append_assoc, List.singleton_append] at hopen ⊢
    exact .more hopen
  | blank hblank => exact .blank (by simpa using hblank) _
  | complete hnot hhead => exact .complete (by simpa using hnot) (by simpa using hhead)

theorem finds_advance {before : Bytes} (h : Undecided before) (bytes : Bytes) :
    Finds before bytes ((after before).advance bytes) := by
  induction bytes generalizing before with
  | nil =>
    have hopen : Undecided (before ++ []) := by rwa [List.append_nil]
    simpa [advance] using Finds.more hopen
  | cons b bytes ih =>
    -- the byte goes over to those before, in which the induction is general
    have happend : before ++ b :: bytes = before ++ [b] ++ bytes := by simp
    have hstep := step_after before b
    rw [advance]
    split at hstep
    · next hfirst =>
      have hblank : StartsBlank (before ++ [b]) := startsBlank_append_singleton.2 (.inr hfirst)
      simp only [hstep]
      exact .blank (happend ▸ hblank.append bytes) _
    split at hstep
    · next hfirst hlast =>
      have hhead := h.isHeadOf_append_singleton hlast
      have hnot : ¬ StartsBlank (before ++ [b]) := fun hblank =>
        (startsBlank_append_singleton.1 hblank).elim h.not_startsBlank hfirst
      simp only [hstep]
      refine .complete ?_ (happend ▸ hhead.append bytes)
      rwa [happend, (hhead.append bytes).startsBlank_iff]
    · next hfirst hlast =>
      simp only [hstep]
      exact (ih (h.append_singleton hfirst hlast)).cons

end Scan

end FileServer
