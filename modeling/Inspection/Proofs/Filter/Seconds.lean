import Inspection.Entity.Wire
import Inspection.Filter.Rules
import Inspection.Proofs.Calendar
import Inspection.Proofs.Filter.Grammar
import Inspection.Proofs.Filter.Verdict

/-!
# Time filters with whole bounds

The bounds of a time filter and the second of an instant are rounded to
binary64 numbers before they are compared.  Bounds of 64 bits may well change
when they are rounded, but never past a second of the calendar: such a filter
asks exactly about the second that the entity is described with.
-/

namespace Inspection

namespace Binary64

theorem ofInt_le_ofInt_seconds_iff {t : Instant} (ht : t.InCalendar) (bound : Int) :
    (ofInt bound).le (ofInt t.seconds) = true ↔ bound ≤ t.seconds := by
  have hvalue : (Json.int bound).value? = some (bound : ℚ) := rfl
  rw [(Json.number?_compares ht.natAbs_seconds_lt hvalue rfl).1, Int.cast_le]

theorem ofInt_seconds_le_ofInt_iff {t : Instant} (ht : t.InCalendar) (bound : Int) :
    (ofInt t.seconds).le (ofInt bound) = true ↔ t.seconds ≤ bound := by
  have hvalue : (Json.int bound).value? = some (bound : ℚ) := rfl
  rw [(Json.number?_compares ht.natAbs_seconds_lt hvalue rfl).2, Int.cast_le]

end Binary64

theorem TimeRange.holds_ofInt {t : Instant} (ht : t.InCalendar) (first last : Int) :
    TimeRange.holds ⟨.ofInt first, .ofInt last⟩ t =
      decide (first ≤ t.seconds ∧ t.seconds ≤ last) := by
  rw [Bool.eq_iff_iff, holds, Bool.and_eq_true, decide_eq_true_eq,
    Binary64.ofInt_le_ofInt_seconds_iff ht, Binary64.ofInt_seconds_le_ofInt_iff ht]

namespace Filter

variable {E : Type} {rules : List (Rule E)} {key : String} {entity : E}

/-- With whole bounds, a key asks whether some second lies between them. -/
def AsksSecond (rules : List (Rule E)) (key : String) (entity : E) (second : Int) : Prop :=
  ∀ (parameter : Json) (first last : Int),
    parameter.GivesBounds "beginDate" "endDate" (.int first) (.int last) →
      accepts rules [(key, parameter)] entity = .ok (decide (first ≤ second ∧ second ≤ last))

theorem asksSecond_of_rule {time : E → Instant} (ht : (time entity).InCalendar)
    (hrule : Rule.find? rules key =
      some ⟨key, .timeRange, fun entity range => range.holds (time entity)⟩) :
    AsksSecond rules key entity ((time entity).nanoseconds / 1000000000) := by
  intro parameter first last hbounds
  have hread : TimeRange.read? parameter = some ⟨.ofInt first, .ofInt last⟩ :=
    TimeRange.read?_eq_some_iff.mpr ⟨_, _, hbounds, rfl, rfl⟩
  rw [accepts_singleton parameter hrule, ← Instant.seconds_eq_nanoseconds_div,
    ← TimeRange.holds_ofInt ht]
  simp only [Rule.judge, Shape.read?, hread]

/-- The time filters of runs and findings with whole bounds, in exact integers:
they ask about the second, rounded down, that the entity is described with, and
the filter of completion times about that of the expected end.  Rounding the
bounds and the second for the comparison never matters. -/
theorem time_filters_ask_seconds :
    (∀ run : AssessmentRun, run.startTime.InCalendar → ∃ second,
      run.toJson.field? "startedAt" = some (.int second) ∧
        second = run.startTime.nanoseconds / 1000000000 ∧
          AsksSecond runRules "startTimeRange" run second) ∧
    (∀ run : AssessmentRun, run.stateChangeTime.InCalendar → ∃ second,
      run.toJson.field? "stateChangedAt" = some (.int second) ∧
        second = run.stateChangeTime.nanoseconds / 1000000000 ∧
          AsksSecond runRules "stateChangeTimeRange" run second) ∧
    (∀ finding : Finding, finding.createdAt.InCalendar → ∃ second,
      finding.toJson.field? "createdAt" = some (.int second) ∧
        second = finding.createdAt.nanoseconds / 1000000000 ∧
          AsksSecond findingRules "creationTimeRange" finding second) ∧
    (∀ run : AssessmentRun, AsksSecond runRules "completionTimeRange" run
      (run.expectedCompletion.nanoseconds / 1000000000)) ∧
    ∀ (t : Instant) (bound : Int), t.InCalendar →
      ((Binary64.ofInt bound).le (Binary64.ofInt t.seconds) = true ↔ bound ≤ t.seconds) ∧
        ((Binary64.ofInt t.seconds).le (Binary64.ofInt bound) = true ↔ t.seconds ≤ bound) := by
  refine ⟨fun run ht => ⟨_, ?_, rfl, ?_⟩, fun run ht => ⟨_, ?_, rfl, ?_⟩,
    fun finding ht => ⟨_, ?_, rfl, ?_⟩, fun run => ?_, fun t bound ht => ⟨?_, ?_⟩⟩
  · rw [← Instant.seconds_eq_nanoseconds_div]
    rfl
  · exact asksSecond_of_rule ht rfl
  · rw [← Instant.seconds_eq_nanoseconds_div]
    rfl
  · exact asksSecond_of_rule ht rfl
  · rw [← Instant.seconds_eq_nanoseconds_div]
    cases hgroup : finding.autoScalingGroup <;> cases harn : finding.rulesPackageArn <;>
      simp [Finding.toJson, Json.field?, Keyed.get?, optionalField, hgroup, harn, Instant.toJson]
  · exact asksSecond_of_rule ht rfl
  · exact asksSecond_of_rule run.expectedCompletion_inCalendar rfl
  · exact Binary64.ofInt_le_ofInt_seconds_iff ht bound
  · exact Binary64.ofInt_seconds_le_ofInt_iff ht bound

/-- Half a second before 1970 belongs to the second before it.  The upper bound
is the largest integer literal, which is rounded up. -/
theorem time_filters_ask_seconds_of_negative_instant :
    let now : Instant := ⟨-1, 500000000, by decide⟩
    let run := (AssessmentTemplate.create "eu-west-1" "a" now "target" "web" 900 [] []).startRun
      "b" now "first"
    let finding := run.report "c" "d" now "rule" "title" .low
    let since := fun first : Int => Json.arr [.int first, .int 18446744073709551615]
    now.InCalendar ∧ run.toJson.field? "startedAt" = some (.int (-1)) ∧
      accepts runRules [("startTimeRange", since (-1))] run = .ok true ∧
      accepts runRules [("startTimeRange", since 0)] run = .ok false ∧
      accepts runRules [("stateChangeTimeRange", since 0)] run = .ok false ∧
      accepts runRules [("completionTimeRange", since 899)] run = .ok true ∧
      accepts findingRules [("creationTimeRange", since (-1))] finding = .ok true ∧
      (Binary64.ofInt (-1)).le (Binary64.ofInt 18446744073709551615) = true := by
  intro now run finding since
  have hnow : now.InCalendar := by decide
  obtain ⟨hstarted, hchanged, hcreated, hcompleted, hrounded⟩ := time_filters_ask_seconds
  obtain ⟨_, hfield, rfl, hstart⟩ := hstarted run hnow
  obtain ⟨_, -, rfl, hchange⟩ := hchanged run hnow
  obtain ⟨_, -, rfl, hcreate⟩ := hcreated finding hnow
  have hend : run.expectedCompletion = now.shift 900 :=
    AssessmentRun.expectedCompletion_of_inCalendar hnow (by decide)
  have hsecond : (now.shift 900).nanoseconds / 1000000000 = 899 := by decide
  have hcomplete := hcompleted run
  rw [hend, hsecond] at hcomplete
  refine ⟨hnow, hfield, hstart _ _ _ (.items _ _), hstart _ _ _ (.items _ _),
    hchange _ _ _ (.items _ _), hcomplete _ _ _ (.items _ _), hcreate _ _ _ (.items _ _), ?_⟩
  exact (hrounded now 18446744073709551615 hnow).2.mpr (by decide)

end Filter

end Inspection
