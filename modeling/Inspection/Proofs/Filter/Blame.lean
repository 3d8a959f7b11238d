import Inspection.Ascending
import Inspection.Filter.Rules
import Inspection.Proofs.Filter.Grammar
import Inspection.Proofs.Filter.Verdict

/-!
# Which parameter is blamed

A filter is refused for its parameters alone, whatever entity it is asked of,
and even when another key rejects the entity.  The error names the first key
whose parameter is malformed, which is the least one since the keys of a filter
ascend.
-/

namespace Inspection

/-- What the parameter of a filter key has to be.  A key has the same grammar
in every table that has it. -/
def Shape.ofKey (key : String) : Shape :=
  if key = "namePattern" then .text
  else if key = "durationRange" then .durationRange
  else if key ∈ ["startTimeRange", "completionTimeRange", "stateChangeTimeRange",
      "creationTimeRange"] then .timeRange
  else .textList

namespace Filter

variable {E : Type} {rules : List (Rule E)} {filter : Filter} {error : ServiceError}

/-- The first key with a rule whose parameter cannot be read. -/
def Refuses (rules : List (Rule E)) (filter : Filter) (error : ServiceError) : Prop :=
  ∃ before found after, recognised rules filter = before ++ found :: after ∧
    (∀ earlier ∈ before, ∃ value, earlier.1.shape.read? earlier.2 = some value) ∧
    found.1.shape.read? found.2 = none ∧ error = .malformedFilter found.1.key found.1.shape

/-- A refusal says nothing about the entity. -/
theorem accepts_eq_error_iff {entity : E} :
    accepts rules filter entity = .error error ↔ Refuses rules filter error := by
  simp only [accepts, Outcome.bind_eq_error_iff, Outcome.mapM_eq_error_iff, pure, Except.pure,
    reduceCtorEq, and_false, exists_false, or_false, Rule.exists_judge_eq_ok_iff,
    Rule.judge_eq_error_iff, Refuses]

theorem accepts_eq_error_of_eq_error {entity : E} (h : accepts rules filter entity = .error error)
    (other : E) : accepts rules filter other = .error error :=
  accepts_eq_error_iff.mpr (accepts_eq_error_iff.mp h)

theorem exists_accepts_eq_ok_of_eq_ok {entity : E} {verdict : Bool}
    (h : accepts rules filter entity = .ok verdict) (other : E) :
    ∃ v, accepts rules filter other = .ok v := by
  cases hother : accepts rules filter other with
  | ok v => exact ⟨v, rfl⟩
  | error error =>
      have herror := accepts_eq_error_of_eq_error hother entity
      exact absurd (h.symm.trans herror) (by simp)

/-- A key of the filter has a rule, and a parameter outside its grammar. -/
def Malformed (rules : List (Rule E)) (filter : Filter) (key : String) : Prop :=
  (∃ rule ∈ rules, rule.key = key) ∧
    ∃ parameter, (key, parameter) ∈ filter ∧ ¬ (Shape.ofKey key).Admits parameter

/-- All entities get a verdict or all get the same error; it is an error
exactly when some key is malformed, and blames the least such key. -/
structure RefusesAlike (rules : List (Rule E)) (filter : Filter) : Prop where
  alike : ∀ entity other : E,
    (∃ v w, accepts rules filter entity = .ok v ∧ accepts rules filter other = .ok w) ∨
      ∃ error, error.code = .invalidFilterValue ∧
        accepts rules filter entity = .error error ∧ accepts rules filter other = .error error
  refused_iff : ∀ entity : E,
    (∃ error, accepts rules filter entity = .error error) ↔ ∃ key, Malformed rules filter key
  blamed : ∀ (entity : E) (error : ServiceError), accepts rules filter entity = .error error →
    ∃ key, Malformed rules filter key ∧ (∀ other, Malformed rules filter other → key ≤ other) ∧
      error = .malformedFilter key (Shape.ofKey key)

section Tables

variable (hkeys : (rules.map Rule.key).Nodup)
  (hshapes : ∀ rule ∈ rules, rule.shape = Shape.ofKey rule.key)

include hkeys hshapes

theorem malformed_iff {key : String} :
    Malformed rules filter key ↔ ∃ found ∈ recognised rules filter, found.1.key = key ∧
      found.1.shape.read? found.2 = none := by
  have hread : ∀ rule ∈ rules, ∀ parameter, rule.shape.read? parameter = none ↔
      ¬ (Shape.ofKey rule.key).Admits parameter := by
    intro rule hrule parameter
    rw [← hshapes rule hrule, ← Shape.exists_read?_iff_admits]
    cases rule.shape.read? parameter <;> simp
  constructor
  · rintro ⟨⟨rule, hrule, rfl⟩, parameter, hentry, hadmits⟩
    refine ⟨(rule, parameter), (mem_recognised_iff hkeys).mpr ⟨hrule, hentry⟩, rfl, ?_⟩
    exact (hread rule hrule parameter).mpr hadmits
  · rintro ⟨⟨rule, parameter⟩, hfound, rfl, hnone⟩
    obtain ⟨hrule, hentry⟩ := (mem_recognised_iff hkeys).mp hfound
    exact ⟨⟨rule, hrule, rfl⟩, parameter, hentry, (hread rule hrule parameter).mp hnone⟩

omit hshapes in
theorem recognised_ascend (hsorted : Ascending.Sorted filter) :
    (recognised rules filter).Pairwise fun x y => x.1.key < y.1.key := by
  refine List.Pairwise.filterMap _ ?_ hsorted
  intro x y hlt found hfound other hother
  obtain ⟨rule, hrule, rfl⟩ := Option.map_eq_some_iff.mp hfound
  obtain ⟨rule', hrule', rfl⟩ := Option.map_eq_some_iff.mp hother
  rw [((Rule.find?_eq_some_iff hkeys).mp hrule).2, ((Rule.find?_eq_some_iff hkeys).mp hrule').2]
  exact hlt

theorem Refuses.blames_least (hsorted : Ascending.Sorted filter)
    (h : Refuses rules filter error) :
    ∃ key, Malformed rules filter key ∧ (∀ other, Malformed rules filter other → key ≤ other) ∧
      error = .malformedFilter key (Shape.ofKey key) := by
  obtain ⟨before, found, after, hsplit, hbefore, hnone, rfl⟩ := h
  have hfound : found ∈ recognised rules filter := by simp [hsplit]
  have hrule : found.1 ∈ rules := ((mem_recognised_iff hkeys).mp hfound).1
  refine ⟨found.1.key, ?_, ?_, by rw [hshapes _ hrule]⟩
  · exact (malformed_iff hkeys hshapes).mpr ⟨found, hfound, rfl, hnone⟩
  · intro other hother
    obtain ⟨witness, hwitness, rfl, hunread⟩ := (malformed_iff hkeys hshapes).mp hother
    rw [hsplit, List.mem_append, List.mem_cons] at hwitness
    rcases hwitness with hearlier | rfl | hlater
    · -- what comes before the blamed key can be read
      obtain ⟨value, hvalue⟩ := hbefore witness hearlier
      exact absurd (hunread.symm.trans hvalue) (by simp)
    · exact String.le_refl _
    · have hascend := recognised_ascend hkeys hsorted
      rw [hsplit] at hascend
      have htail := (List.pairwise_append.mp hascend).2.1
      have hlt : found.1.key < witness.1.key := (List.pairwise_cons.mp htail).1 witness hlater
      exact String.not_lt.mp (String.lt_asymm hlt)

theorem refusesAlike (hsorted : Ascending.Sorted filter) : RefusesAlike rules filter where
  alike := by
    intro entity other
    cases h : accepts rules filter entity with
    | ok v =>
        obtain ⟨w, hw⟩ := exists_accepts_eq_ok_of_eq_ok h other
        exact .inl ⟨v, w, rfl, hw⟩
    | error error =>
        obtain ⟨key, -, -, rfl⟩ :=
          (accepts_eq_error_iff.mp h).blames_least hkeys hshapes hsorted
        exact .inr ⟨_, rfl, rfl, accepts_eq_error_of_eq_error h other⟩
  refused_iff := by
    intro entity
    constructor
    · rintro ⟨error, herror⟩
      obtain ⟨key, hkey, -⟩ :=
        (accepts_eq_error_iff.mp herror).blames_least hkeys hshapes hsorted
      exact ⟨key, hkey⟩
    · rintro ⟨key, hkey⟩
      obtain ⟨found, hfound, -, hnone⟩ := (malformed_iff hkeys hshapes).mp hkey
      cases h : accepts rules filter entity with
      | error error => exact ⟨error, rfl⟩
      | ok verdict =>
          have hjudged := exists_accepts_eq_ok_iff.mp ⟨verdict, h⟩ found hfound
          obtain ⟨value, hvalue⟩ := Rule.exists_judge_eq_ok_iff.mp hjudged
          exact absurd (hnone.symm.trans hvalue) (by simp)
  blamed := by
    intro entity error herror
    exact (accepts_eq_error_iff.mp herror).blames_least hkeys hshapes hsorted

end Tables

/-- For a filter whose keys ascend, templates, runs and findings are all
refused alike, with the least malformed key to blame. -/
theorem refusesAlike_of_each_kind {filter : Filter} (hsorted : Ascending.Sorted filter) :
    RefusesAlike templateRules filter ∧ RefusesAlike runRules filter ∧
      RefusesAlike findingRules filter := by
  refine ⟨?_, ?_, ?_⟩
  · exact refusesAlike (by decide) (by decide) hsorted
  · exact refusesAlike (by decide) (by decide) hsorted
  · exact refusesAlike (by decide) (by decide) hsorted

/-- Two malformed parameters around a well-formed one: the first is named, for
any template. -/
theorem refusesAlike_of_three_keys :
    let filter : Filter := [("durationRange", .arr [.int 1]), ("namePattern", .str "web"),
      ("rulesPackageArns", .str "package")]
    Ascending.Sorted filter ∧ RefusesAlike templateRules filter ∧
      ∀ template, accepts templateRules filter template =
        .error (.malformedFilter "durationRange" .durationRange) := by
  intro filter
  have hsorted : Ascending.Sorted filter := by
    have hkeys : (filter.map Prod.fst).Pairwise (· < ·) := by decide
    exact List.pairwise_map.mp hkeys
  refine ⟨hsorted, (refusesAlike_of_each_kind hsorted).1, fun template => ?_⟩
  exact accepts_eq_error_iff.mpr ⟨[], _, _, rfl, by simp, rfl, rfl⟩

end Filter

end Inspection
