import Inspection.Entity
import Mathlib.Data.Int.Order.Basic
import Mathlib.Order.MinMax

/-!
# The end of a run, within the calendar

Seconds and nanoseconds make one number, in which the order of instants is the
order of numbers and a span of time is added.  The end of a run is the exact
sum of completion time and duration, held to the bounds of the calendar.  A
span that is too long to be added at all leads out of the calendar from
wherever it starts, so that the sign of the duration tells which bound is meant.
-/

namespace Inspection

namespace Instant

/-- The nanoseconds since the start of 1970, or before it. -/
def nanoseconds (t : Instant) : Int :=
  t.seconds * 1000000000 + t.nanos

theorem le_iff_nanoseconds_le {s t : Instant} : s ≤ t ↔ s.nanoseconds ≤ t.nanoseconds := by
  have hs := s.nanos_lt
  have ht := t.nanos_lt
  simp only [le_iff, nanoseconds]
  omega

theorem seconds_eq_nanoseconds_div (t : Instant) : t.seconds = t.nanoseconds / 1000000000 := by
  have ht := t.nanos_lt
  simp only [nanoseconds]
  omega

theorem nanoseconds_shift (t : Instant) (span : Int) :
    (t.shift span).nanoseconds = t.nanoseconds + span * 1000000000 := by
  simp only [nanoseconds, shift]
  omega

theorem inCalendar_iff_nanoseconds {t : Instant} :
    t.InCalendar ↔ earliest.nanoseconds ≤ t.nanoseconds ∧ t.nanoseconds ≤ latest.nanoseconds := by
  simp only [InCalendar, le_iff_nanoseconds_le]

/-- Between two instants of the calendar there is no span too long to be added. -/
theorem after?_eq_some {t : Instant} {span : Int} (ht : t.InCalendar)
    (hsum : (t.shift span).InCalendar) : t.after? span = some (t.shift span) := by
  have hspan : span.natAbs ≤ longestSpan := by
    have hstart := inCalendar_iff_nanoseconds.mp ht
    have hend := inCalendar_iff_nanoseconds.mp hsum
    rw [nanoseconds_shift] at hend
    have hearliest : earliest.nanoseconds = -8334601228800000000000 := by decide
    have hlatest : latest.nanoseconds = 8210266876799999999999 := by decide
    simp only [longestSpan]
    omega
  exact if_pos ⟨hspan, hsum⟩

theorem after?_eq_none {t : Instant} {span : Int} (hsum : ¬ (t.shift span).InCalendar) :
    t.after? span = none :=
  if_neg fun h => hsum h.2

end Instant

namespace AssessmentRun

open Instant

variable {run : AssessmentRun}

theorem expectedCompletion_of_inCalendar (ht : run.completionTime.InCalendar)
    (hsum : (run.completionTime.shift run.duration).InCalendar) :
    run.expectedCompletion = run.completionTime.shift run.duration := by
  rw [expectedCompletion, after?_eq_some ht hsum, Option.getD_some]

/-- A sum above the calendar has a positive duration. -/
theorem expectedCompletion_of_above (ht : run.completionTime.InCalendar)
    (hsum : latest.nanoseconds < (run.completionTime.shift run.duration).nanoseconds) :
    run.expectedCompletion = latest := by
  have hout : ¬ (run.completionTime.shift run.duration).InCalendar := by
    rw [inCalendar_iff_nanoseconds]
    omega
  have hpositive : ¬ run.duration < 0 := by
    have hstart := (inCalendar_iff_nanoseconds.mp ht).2
    rw [nanoseconds_shift] at hsum
    omega
  rw [expectedCompletion, after?_eq_none hout, Option.getD_none, if_neg hpositive]

theorem expectedCompletion_of_below (ht : run.completionTime.InCalendar)
    (hsum : (run.completionTime.shift run.duration).nanoseconds < earliest.nanoseconds) :
    run.expectedCompletion = earliest := by
  have hout : ¬ (run.completionTime.shift run.duration).InCalendar := by
    rw [inCalendar_iff_nanoseconds]
    omega
  have hnegative : run.duration < 0 := by
    have hstart := (inCalendar_iff_nanoseconds.mp ht).1
    rw [nanoseconds_shift] at hsum
    omega
  rw [expectedCompletion, after?_eq_none hout, Option.getD_none, if_pos hnegative]

/-- The exact end of a run in nanoseconds, held to the bounds of the calendar. -/
theorem nanoseconds_expectedCompletion (ht : run.completionTime.InCalendar) :
    run.expectedCompletion.nanoseconds = max earliest.nanoseconds
      (min latest.nanoseconds (run.completionTime.nanoseconds + run.duration * 1000000000)) := by
  have hbounds : earliest.nanoseconds ≤ latest.nanoseconds := by decide
  rw [← nanoseconds_shift]
  rcases lt_or_ge latest.nanoseconds (run.completionTime.shift run.duration).nanoseconds with
    habove | hlatest
  · rw [expectedCompletion_of_above ht habove, min_eq_left habove.le, max_eq_right hbounds]
  · rw [min_eq_right hlatest]
    rcases lt_or_ge (run.completionTime.shift run.duration).nanoseconds earliest.nanoseconds with
      hbelow | hearliest
    · rw [expectedCompletion_of_below ht hbelow, max_eq_left hbelow.le]
    · rw [expectedCompletion_of_inCalendar ht (inCalendar_iff_nanoseconds.mpr ⟨hearliest, hlatest⟩),
        max_eq_right hearliest]

/-- A run ends its duration after its completion time, to the nanosecond, or at
the bound of the calendar beyond which that would be.  A later completion time
and a longer duration never make it end earlier. -/
theorem ends_within_calendar (run : AssessmentRun) (ht : run.completionTime.InCalendar) :
    let sum := run.completionTime.nanoseconds + run.duration * 1000000000
    run.expectedCompletion.nanoseconds =
        max earliest.nanoseconds (min latest.nanoseconds sum) ∧
      (earliest.nanoseconds ≤ sum → sum ≤ latest.nanoseconds →
        run.expectedCompletion = run.completionTime.shift run.duration) ∧
      (latest.nanoseconds < sum → run.expectedCompletion = latest) ∧
      (sum < earliest.nanoseconds → run.expectedCompletion = earliest) ∧
      ∀ other : AssessmentRun, other.completionTime.InCalendar →
        run.completionTime ≤ other.completionTime → run.duration ≤ other.duration →
          run.expectedCompletion ≤ other.expectedCompletion := by
  intro sum
  have hsum : (run.completionTime.shift run.duration).nanoseconds = sum := nanoseconds_shift _ _
  refine ⟨nanoseconds_expectedCompletion ht, fun hearliest hlatest => ?_, fun habove => ?_,
    fun hbelow => ?_, fun other hother hlater hlonger => ?_⟩
  · apply expectedCompletion_of_inCalendar ht
    rw [inCalendar_iff_nanoseconds, hsum]
    exact ⟨hearliest, hlatest⟩
  · exact expectedCompletion_of_above ht (hsum ▸ habove)
  · exact expectedCompletion_of_below ht (hsum ▸ hbelow)
  · rw [le_iff_nanoseconds_le] at hlater ⊢
    rw [nanoseconds_expectedCompletion ht, nanoseconds_expectedCompletion hother]
    apply max_le_max le_rfl
    apply min_le_min le_rfl
    omega

/-- Half a second before 1970: the last duration that stays in the calendar,
the first one past its end, and the least integer of 64 bits. -/
theorem ends_within_calendar_of_three_runs :
    let now : Instant := ⟨-1, 500000000, by decide⟩
    let run := fun duration : Int =>
      (AssessmentTemplate.create "eu-west-1" "a" now "target" "web" duration [] []).startRun "b"
        now "first"
    now.InCalendar ∧ (run 8210266876800).expectedCompletion = now.shift 8210266876800 ∧
      (run 8210266876801).expectedCompletion = latest ∧
      (run (-9223372036854775808)).expectedCompletion = earliest ∧
      (run (-9223372036854775808)).expectedCompletion ≤
        (run 8210266876800).expectedCompletion := by
  intro now run
  have hnow : now.InCalendar := by decide
  have hlast := ends_within_calendar (run 8210266876800) hnow
  have hpast := ends_within_calendar (run 8210266876801) hnow
  have hleast := ends_within_calendar (run (-9223372036854775808)) hnow
  refine ⟨hnow, hlast.2.1 (by decide) (by decide), hpast.2.2.1 (by decide),
    hleast.2.2.2.1 (by decide), ?_⟩
  apply hleast.2.2.2.2 _ hnow
  · exact le_iff_nanoseconds_le.mpr le_rfl
  · exact (by decide : (-9223372036854775808 : Int) ≤ 8210266876800)

end AssessmentRun

end Inspection
