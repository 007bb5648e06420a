import FileServer.Closing

/-!
# Closing with patience

What the server discards while it closes a connection, and for how long, depends on the bytes that
arrive and on when the peer closes its side (`EndsInTime`), not on the pieces in which they arrive
and not on the buffer. Only those pieces count that arrive before the time is up (`punctual`).

* `read_spec`: what one read does to the bytes, to the time and to the pieces that are late;
* `exists_drain_eq`: the induction over the reads, for all that follows from it;
* `run_accounts`: what follows for the end of a connection.
-/

namespace FileServer

namespace Arriving

/-- How long it takes until the last of the pieces has arrived. -/
def duration : List Arriving → Nat
  | [] => 0
  | piece :: pieces => piece.milliseconds + duration pieces

theorem duration_append (first second : List Arriving) :
    duration (first ++ second) = duration first + duration second := by
  induction first with
  | nil => exact (Nat.zero_add _).symm
  | cons piece first ih => rw [List.cons_append, duration, duration, ih, Nat.add_assoc]

end Arriving

namespace Closing

open Arriving (total duration)

/-! ## The pieces that are in time -/

/-- The pieces that arrive before the time is up. -/
def punctual (clock : Nat) : List Arriving → List Arriving
  | [] => []
  | piece :: pieces =>
    if patience ≤ clock + piece.milliseconds then []
    else piece :: punctual (clock + piece.milliseconds) pieces

/-- The piece that does not arrive before the time is up, and those behind it. -/
def late (clock : Nat) : List Arriving → List Arriving
  | [] => []
  | piece :: pieces =>
    if patience ≤ clock + piece.milliseconds then piece :: pieces
    else late (clock + piece.milliseconds) pieces

theorem punctual_append_late (clock : Nat) (pieces : List Arriving) :
    punctual clock pieces ++ late clock pieces = pieces := by
  induction pieces generalizing clock with
  | nil => rfl
  | cons piece pieces ih =>
    rw [punctual, late]
    split
    · rfl
    · rw [List.cons_append, ih]

theorem duration_punctual_lt {clock : Nat} (hclock : clock < patience) (pieces : List Arriving) :
    clock + duration (punctual clock pieces) < patience := by
  induction pieces generalizing clock with
  | nil => exact hclock
  | cons piece pieces ih =>
    rw [punctual]
    split
    · exact hclock
    · rename_i hearly
      have := ih (Nat.lt_of_not_le hearly)
      rw [duration]
      omega

theorem le_duration_of_late {clock : Nat} {pieces rest : List Arriving} {piece : Arriving}
    (h : late clock pieces = piece :: rest) :
    patience ≤ clock + duration (punctual clock pieces) + piece.milliseconds := by
  induction pieces generalizing clock with
  | nil => cases h
  | cons first pieces ih =>
    rw [late] at h
    rw [punctual]
    split at h
    · rename_i hlate
      obtain ⟨rfl, rfl⟩ := List.cons.inj h
      rw [if_pos hlate]
      exact hlate
    · rename_i hearly
      have := ih h
      rw [if_neg hearly, duration]
      omega

/-- Nothing is late exactly when all pieces together take less time than there is. -/
theorem late_eq_nil_iff {clock : Nat} (hclock : clock < patience) {pieces : List Arriving} :
    late clock pieces = [] ↔ clock + duration pieces < patience := by
  have happend := punctual_append_late clock pieces
  cases hlate : late clock pieces with
  | nil =>
    rw [hlate, List.append_nil] at happend
    have := duration_punctual_lt hclock pieces
    rw [happend] at this
    exact iff_of_true rfl this
  | cons piece rest =>
    have := le_duration_of_late hlate
    rw [hlate] at happend
    rw [← happend, Arriving.duration_append, duration]
    refine iff_of_false (List.cons_ne_nil piece rest) ?_
    omega

/-! ## A read -/

variable {room clock : Nat} {ending : Ending} {arriving : List Arriving}

/-- A read takes its bytes from the pieces that are in time, and has no influence on which of them
are and on when the last of them comes. It comes back without bytes, or fails, only at the end of
what the peer sends. -/
theorem read_spec (hroom : 0 < room) (hclock : clock < patience) (ending : Ending)
    (arriving : List Arriving) :
    match read room ending clock arriving with
    | .given next bytes left =>
      next < patience ∧ late next left = late clock arriving ∧
        next + duration left = clock + duration arriving ∧
        bytes.length + total (punctual next left) = total (punctual clock arriving) ∧
        (bytes = [] → ending = .closed ∧ left = [])
    | .failed next error left =>
      next < patience ∧ late clock arriving = [] ∧ next = clock + duration arriving ∧
        total (punctual clock arriving) = 0 ∧ ending = .failed error ∧ left = []
    | .late left =>
      left = late clock arriving ∧ total (punctual clock arriving) = 0 ∧
        (left = [] → ending = .silent) := by
  induction arriving generalizing clock with
  | nil => cases ending <;> simp [read, punctual, late, total, duration, hclock]
  | cons piece pieces ih =>
    rw [read, punctual, late]
    by_cases hlate : patience ≤ clock + piece.milliseconds
    · simp [hlate, total]
    · have hnext := Nat.lt_of_not_le hlate
      simp only [if_neg hlate, total, duration, ← Nat.add_assoc]
      by_cases hpause : piece.bytes = []
      · simp only [hpause, List.length_nil, Nat.zero_add]
        exact ih hnext
      · simp only [if_neg hpause, punctual, late, Nat.add_zero, if_neg hlate, total, duration,
          Nat.zero_add]
        refine ⟨hnext, trivial, trivial, ?_, fun hnil => ?_⟩
        · rw [← Nat.add_assoc, ← List.length_append, List.take_append_drop]
        · obtain hzero | hnil := List.take_eq_nil_iff.1 hnil
          · omega
          · exact absurd hnil hpause

/-! ## All reads -/

/-- Whether the end of what the peer sends comes before the time is up. -/
def EndsFrom (clock : Nat) (ending : Ending) (arriving : List Arriving) : Prop :=
  ending ≠ .silent ∧ clock + duration arriving < patience

instance : Decidable (EndsFrom clock ending arriving) := inferInstanceAs (Decidable (_ ∧ _))

theorem endsFrom_iff (hclock : clock < patience) :
    EndsFrom clock ending arriving ↔ ending ≠ .silent ∧ late clock arriving = [] := by
  rw [EndsFrom, late_eq_nil_iff hclock]

/-- By induction over the reads: each takes bytes from the pieces that are in time, and leaves it
open or settles whether the end comes before the time is up. -/
theorem exists_drain_eq (hroom : 0 < room) (hclock : clock < patience) (discarded : Nat) :
    ∃ reads, drain room ending clock discarded arriving =
      { calls := List.replicate reads (.read room)
        milliseconds :=
          if EndsFrom clock ending arriving then clock + duration arriving else patience
        discarded := discarded + total (punctual clock arriving)
        unread := late clock arriving
        events :=
          if EndsFrom clock ending arriving then
            report (discarded + total (punctual clock arriving))
          else [.keptOpen] } := by
  fun_induction drain room ending clock discarded arriving with
  | case1 clock discarded arriving left hread =>
    -- the time is up, or nothing ever comes
    have hspec := read_spec hroom hclock ending arriving
    rw [hread] at hspec
    obtain ⟨rfl, htotal, hsilent⟩ := hspec
    have hends : ¬ EndsFrom clock ending arriving := fun h =>
      h.1 (hsilent ((late_eq_nil_iff hclock).2 h.2))
    refine ⟨1, ?_⟩
    rw [if_neg hends, if_neg hends, htotal]
    rfl
  | case2 clock discarded arriving next b bytes left hread _ closed ih =>
    have hspec := read_spec hroom hclock ending arriving
    rw [hread] at hspec
    obtain ⟨hnext, hlate, hduration, htotal, -⟩ := hspec
    have hends : EndsFrom next ending left ↔ EndsFrom clock ending arriving := by
      rw [EndsFrom, EndsFrom, hduration]
    obtain ⟨reads, hdrain⟩ := ih hnext
    refine ⟨reads + 1, ?_⟩
    simp only [closed, hdrain, hends, hlate, hduration, Nat.add_assoc, htotal, List.replicate_succ]
  | case3 clock discarded arriving next left hread =>
    -- the buffer has room, so a read without bytes is the end
    have hspec := read_spec hroom hclock ending arriving
    rw [hread] at hspec
    obtain ⟨-, hlate, hduration, htotal, hend⟩ := hspec
    obtain ⟨rfl, rfl⟩ := hend rfl
    have hends : EndsFrom clock .closed arriving :=
      (endsFrom_iff hclock).2 ⟨Ending.noConfusion, hlate.symm⟩
    refine ⟨1, ?_⟩
    rw [if_pos hends, if_pos hends, ← hlate, ← hduration, ← htotal]
    rfl
  | case4 clock discarded arriving next error left hread =>
    have hspec := read_spec hroom hclock ending arriving
    rw [hread] at hspec
    obtain ⟨-, hlate, hduration, htotal, rfl, rfl⟩ := hspec
    have hends : EndsFrom clock (.failed error) arriving :=
      (endsFrom_iff hclock).2 ⟨Ending.noConfusion, hlate⟩
    refine ⟨1, ?_⟩
    rw [if_pos hends, if_pos hends, hlate, hduration, htotal]
    rfl

/-! ## The end of a connection -/

variable {closing : Closing}

/-- Whether the peer closes its side, or the side breaks, before the time is up. -/
def EndsInTime (closing : Closing) : Prop :=
  closing.ending ≠ .silent ∧ duration closing.arriving < patience

instance : Decidable closing.EndsInTime := inferInstanceAs (Decidable (_ ∧ _))

theorem runWith_of_error {error : StreamError} (h : closing.shutdownError = some error) :
    closing.runWith room = ⟨[.shutdown], 0, 0, closing.arriving, [.shutdownFailed error]⟩ := by
  rw [runWith, h]

theorem exists_runWith_eq (hroom : 0 < room) (h : closing.shutdownError = none) :
    ∃ reads, closing.runWith room =
      { calls := .shutdown :: List.replicate reads (.read room)
        milliseconds := if closing.EndsInTime then duration closing.arriving else patience
        discarded := total (punctual 0 closing.arriving)
        unread := late 0 closing.arriving
        events :=
          if closing.EndsInTime then report (total (punctual 0 closing.arriving))
          else [.keptOpen] } := by
  have hends : EndsFrom 0 closing.ending closing.arriving ↔ closing.EndsInTime := by
    rw [EndsFrom, EndsInTime, Nat.zero_add]
  obtain ⟨reads, hdrain⟩ :
      ∃ reads, drain room closing.ending 0 0 closing.arriving = _ :=
    exists_drain_eq hroom (by decide) 0
  refine ⟨reads, ?_⟩
  rw [runWith, h]
  simp only [hdrain, hends, Nat.zero_add]

theorem EndsInTime.late_eq_nil (h : closing.EndsInTime) : late 0 closing.arriving = [] :=
  (late_eq_nil_iff (by decide)).2 (by rw [Nat.zero_add]; exact h.2)

theorem EndsInTime.punctual_eq (h : closing.EndsInTime) :
    punctual 0 closing.arriving = closing.arriving := by
  have happend := punctual_append_late 0 closing.arriving
  rwa [h.late_eq_nil, List.append_nil] at happend

theorem discarded_runWith_of_endsInTime (hroom : 0 < room) (h : closing.shutdownError = none)
    (hends : closing.EndsInTime) :
    (closing.runWith room).discarded = total closing.arriving ∧
      (closing.runWith room).events = report (total closing.arriving) := by
  obtain ⟨reads, hrun⟩ := exists_runWith_eq hroom h
  rw [hrun]
  simp only [if_pos hends, hends.punctual_eq, and_self]

theorem exists_calls_runWith (hroom : 0 < room) (closing : Closing) :
    ∃ reads, (closing.runWith room).calls = .shutdown :: List.replicate reads (.read room) := by
  cases hshutdown : closing.shutdownError with
  | none =>
    obtain ⟨reads, hrun⟩ := exists_runWith_eq hroom hshutdown
    exact ⟨reads, by rw [hrun]⟩
  | some error => exact ⟨0, by rw [runWith_of_error hshutdown, List.replicate_zero]⟩

/-- Buffers differ in the reads that they take, and in nothing else. -/
theorem exists_runWith_eq_runWith {room' : Nat} (hroom : 0 < room) (hroom' : 0 < room')
    (closing : Closing) : ∃ calls, closing.runWith room' = { closing.runWith room with calls } := by
  cases hshutdown : closing.shutdownError with
  | none =>
    obtain ⟨reads, hrun⟩ := exists_runWith_eq hroom hshutdown
    obtain ⟨reads', hrun'⟩ := exists_runWith_eq hroom' hshutdown
    exact ⟨_, by rw [hrun, hrun']⟩
  | some error =>
    exact ⟨_, by rw [runWith_of_error hshutdown, runWith_of_error hshutdown]⟩

/-- While a connection is closed, its sending side is closed once, and then there are only reads. If
closing the sending side fails, nothing is read, and only the failure is reported. Otherwise, if the
peer closes its side or the side breaks before the time is up, that is the end, all bytes that came
before it are discarded, and their number is reported unless it is zero. If not, the end comes when
the time is up, however late the last byte came, and what is reported is that the peer kept the
connection open. The size of the buffer has an influence on the reads alone, and how the bytes are
divided has none on what is reported. -/
theorem run_accounts (closing : Closing) :
    let closed := closing.run
    (∃ reads, closed.calls = .shutdown :: List.replicate reads (.read bufferSize)) ∧
    (∀ bytes, .write bytes ∉ closed.calls) ∧
    (∀ error, closing.shutdownError = some error →
      closed = ⟨[.shutdown], 0, 0, closing.arriving, [.shutdownFailed error]⟩) ∧
    (closing.shutdownError = none →
      (closing.EndsInTime →
        closed.milliseconds = duration closing.arriving ∧
        closed.discarded = total closing.arriving ∧ closed.unread = [] ∧
        closed.events = if closed.discarded = 0 then [] else [.discarded closed.discarded]) ∧
      (¬ closing.EndsInTime →
        closed.milliseconds = patience ∧ closed.events = [.keptOpen] ∧
        ∃ before, before ++ closed.unread = closing.arriving ∧ closed.discarded = total before ∧
          duration before < patience ∧
          ∀ piece ∈ closed.unread.head?, patience ≤ duration before + piece.milliseconds)) ∧
    (∀ room, 0 < room → ∃ calls, closing.runWith room = { closed with calls }) ∧
    (∀ other : Closing, other.shutdownError = none → closing.shutdownError = none →
      other.EndsInTime → closing.EndsInTime → total other.arriving = total closing.arriving →
      other.run.discarded = closed.discarded ∧ other.run.events = closed.events) := by
  intro closed
  have hbuffer : 0 < bufferSize := by decide
  obtain ⟨reads, hcalls⟩ := exists_calls_runWith hbuffer closing
  refine ⟨⟨reads, hcalls⟩, fun bytes hwrite => ?_, fun error herror => runWith_of_error herror,
    fun hnone => ⟨fun hends => ?_, fun hends => ?_⟩,
    fun room hroom => exists_runWith_eq_runWith hbuffer hroom closing,
    fun other hother hnone hends' hends htotal => ?_⟩
  · rw [show closed.calls = _ from hcalls] at hwrite
    obtain hwrite | hwrite := List.mem_cons.1 hwrite
    · cases hwrite
    · cases List.eq_of_mem_replicate hwrite
  · obtain ⟨reads, hrun⟩ := exists_runWith_eq hbuffer hnone
    rw [show closed = _ from hrun]
    simp only [if_pos hends, hends.late_eq_nil, hends.punctual_eq, report, and_self]
  · obtain ⟨reads, hrun⟩ := exists_runWith_eq hbuffer hnone
    rw [show closed = _ from hrun]
    simp only [if_neg hends, true_and]
    refine ⟨punctual 0 closing.arriving, punctual_append_late 0 _, rfl, ?_, fun piece hpiece => ?_⟩
    · have := duration_punctual_lt (show 0 < patience by decide) closing.arriving
      rwa [Nat.zero_add] at this
    · obtain ⟨rest, hlate⟩ := List.head?_eq_some_iff.1 hpiece
      have := le_duration_of_late hlate
      rwa [Nat.zero_add] at this
  · obtain ⟨hdiscarded, hevents⟩ := discarded_runWith_of_endsInTime hbuffer hnone hends
    obtain ⟨hdiscarded', hevents'⟩ := discarded_runWith_of_endsInTime hbuffer hother hends'
    rw [htotal] at hdiscarded' hevents'
    exact ⟨hdiscarded'.trans hdiscarded.symm, hevents'.trans hevents.symm⟩

/-- Bytes that need two reads, a pause and a broken connection; the same number of bytes at once; a
peer that always sends a little more in less than half a second; and a side that cannot be
closed. -/
theorem run_accounts_of_pause :
    let bytes := fun n : Nat => List.replicate n (0x78 : UInt8)
    let broken : Closing :=
      ⟨none, [⟨500, bytes 9000⟩, ⟨1000, []⟩, ⟨499, bytes 3⟩], .failed .connectionReset⟩
    let atOnce : Closing := ⟨none, [⟨0, bytes 9003⟩], .closed⟩
    let slow : Closing := ⟨none, List.replicate 5 ⟨490, bytes 3⟩, .closed⟩
    let refused : Closing := { slow with shutdownError := some .notConnected }
    broken.EndsInTime ∧ atOnce.EndsInTime ∧ ¬ slow.EndsInTime ∧
      broken.run.milliseconds = 1999 ∧ broken.run.events = [.discarded 9003] ∧
      atOnce.run.events = broken.run.events ∧
      (∃ calls, broken.runWith 1 = { broken.run with calls }) ∧
      slow.run.milliseconds = 2000 ∧ slow.run.events = [.keptOpen] ∧
      refused.run = ⟨[.shutdown], 0, 0, slow.arriving, [.shutdownFailed .notConnected]⟩ := by
  intro bytes broken atOnce slow refused
  have hbroken : broken.EndsInTime := by decide
  have hatOnce : atOnce.EndsInTime := by decide
  have hslow : ¬ slow.EndsInTime := by decide
  have htotal : total broken.arriving = 9003 := by
    simp only [broken, bytes, total, List.length_replicate, List.length_nil]
  have htotal' : total atOnce.arriving = 9003 := by
    simp only [atOnce, bytes, total, List.length_replicate]
  obtain ⟨-, -, -, hnone, hroom, hother⟩ := run_accounts broken
  obtain ⟨hinTime, -⟩ := hnone rfl
  obtain ⟨htime, hdiscarded, -, hevents⟩ := hinTime hbroken
  obtain ⟨-, -, -, hnoneSlow, -⟩ := run_accounts slow
  obtain ⟨-, hlate⟩ := hnoneSlow rfl
  obtain ⟨htimeSlow, heventsSlow, -⟩ := hlate hslow
  obtain ⟨-, -, hrefused, -⟩ := run_accounts refused
  rw [hdiscarded, htotal] at hevents
  refine ⟨hbroken, hatOnce, hslow, htime, hevents, ?_, hroom 1 (by decide), htimeSlow, heventsSlow,
    hrefused .notConnected rfl⟩
  exact (hother atOnce rfl rfl hatOnce hbroken (htotal'.trans htotal.symm)).2

end Closing

end FileServer
