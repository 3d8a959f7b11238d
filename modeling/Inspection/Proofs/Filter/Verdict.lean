import Inspection.Filter
import Inspection.Proofs.Outcome

/-!
# Verdicts of a filter

When a filter accepts an entity, said by the rules that its keys have: some key
has a rule, and every such rule judges its parameter to be satisfied.  There is
a verdict at all exactly when every such rule can read its parameter.
-/

namespace Inspection

namespace Rule

variable {E F : Type}

theorem find?_eq_none_iff {rules : List (Rule E)} {key : String} :
    find? rules key = none ↔ key ∉ rules.map Rule.key := by
  simp [find?]

theorem find?_eq_some_iff {rules : List (Rule E)} (hkeys : (rules.map Rule.key).Nodup)
    {key : String} {rule : Rule E} :
    find? rules key = some rule ↔ rule ∈ rules ∧ rule.key = key := by
  constructor
  · intro h
    exact ⟨List.mem_of_find?_eq_some h, by simpa using List.find?_some h⟩
  · rintro ⟨hmem, rfl⟩
    induction rules with
    | nil => simp at hmem
    | cons head rest ih =>
        obtain ⟨hhead, hrest⟩ := List.nodup_cons.mp hkeys
        rcases List.mem_cons.mp hmem with rfl | hmem
        · simp [find?]
        · have hne : head.key ≠ rule.key := fun heq =>
            hhead (heq ▸ List.mem_map_of_mem hmem)
          simpa [find?, hne] using ih hrest hmem

theorem judge_eq_ok_iff {rule : Rule E} {entity : E} {parameter : Json} {verdict : Bool} :
    rule.judge entity parameter = .ok verdict ↔
      ∃ value, rule.shape.read? parameter = some value ∧ rule.accepts entity value = verdict := by
  unfold judge
  cases rule.shape.read? parameter <;> simp

theorem exists_judge_eq_ok_iff {rule : Rule E} {entity : E} {parameter : Json} :
    (∃ verdict, rule.judge entity parameter = .ok verdict) ↔
      ∃ value, rule.shape.read? parameter = some value := by
  simp only [judge_eq_ok_iff]
  constructor
  · rintro ⟨_, value, hread, _⟩
    exact ⟨value, hread⟩
  · rintro ⟨value, hread⟩
    exact ⟨_, value, hread, rfl⟩

theorem judge_eq_error_iff {rule : Rule E} {entity : E} {parameter : Json} {error : ServiceError} :
    rule.judge entity parameter = .error error ↔
      rule.shape.read? parameter = none ∧ error = .malformedFilter rule.key rule.shape := by
  unfold judge
  cases rule.shape.read? parameter <;> simp [eq_comm]

/-- Two rules of one key and shape that say the same about two entities. -/
theorem judge_eq_judge (key : String) (shape : Shape) (parameter : Json)
    {accepts : E → shape.Value → Bool} {accepts' : F → shape.Value → Bool} {entity : E} {other : F}
    (h : ∀ value, accepts entity value = accepts' other value) :
    judge ⟨key, shape, accepts⟩ entity parameter =
      judge ⟨key, shape, accepts'⟩ other parameter := by
  unfold judge
  cases shape.read? parameter with
  | none => rfl
  | some value => exact congrArg Except.ok (h value)

end Rule

namespace Filter

variable {E F : Type} {rules : List (Rule E)} {others : List (Rule F)} {filter : Filter}
  {entity : E}

theorem mem_recognised_iff (hkeys : (rules.map Rule.key).Nodup) {rule : Rule E}
    {parameter : Json} :
    (rule, parameter) ∈ recognised rules filter ↔
      rule ∈ rules ∧ (rule.key, parameter) ∈ filter := by
  simp only [recognised, List.mem_filterMap, Option.map_eq_some_iff, Prod.exists, Prod.mk.injEq,
    Rule.find?_eq_some_iff hkeys]
  constructor
  · rintro ⟨key, _, hmem, _, ⟨hrule, rfl⟩, rfl, rfl⟩
    exact ⟨hrule, hmem⟩
  · rintro ⟨hrule, hmem⟩
    exact ⟨rule.key, parameter, hmem, rule, ⟨hrule, rfl⟩, rfl, rfl⟩

/-- What a rule under a key says about an entity, if there is one. -/
def verdict? (rules : List (Rule E)) (entity : E) (entry : String × Json) :
    Option (Except ServiceError Bool) :=
  (Rule.find? rules entry.1).map fun rule => rule.judge entity entry.2

theorem accepts_eq_verdicts (rules : List (Rule E)) (filter : Filter) (entity : E) :
    accepts rules filter entity =
      (filter.filterMap (verdict? rules entity)).mapM id >>= fun verdicts =>
        .ok (!verdicts.isEmpty && verdicts.all id) := by
  have hverdicts : filter.filterMap (verdict? rules entity) =
      (recognised rules filter).map fun found => found.1.judge entity found.2 := by
    rw [recognised, List.map_filterMap]
    refine List.filterMap_congr fun entry _ => ?_
    rw [Option.map_map]
    rfl
  rw [hverdicts, List.mapM_map]
  rfl

theorem accepts_singleton {key : String} {rule : Rule E} (parameter : Json)
    (hrule : Rule.find? rules key = some rule) :
    accepts rules [(key, parameter)] entity = rule.judge entity parameter := by
  rw [accepts_eq_verdicts, List.filterMap_cons_some (b := rule.judge entity parameter)]
  · cases rule.judge entity parameter with
    | error error => rfl
    | ok verdict => cases verdict <;> rfl
  · rw [verdict?, hrule, Option.map_some]

/-- Two entities, each under its own rules, get one verdict from a filter of
which every entry says the same about both. -/
theorem accepts_eq_accepts {other : F} (h : ∀ entry ∈ filter,
    verdict? rules entity entry = verdict? others other entry) :
    accepts rules filter entity = accepts others filter other := by
  have hverdicts : filter.filterMap (verdict? rules entity) =
      filter.filterMap (verdict? others other) := List.filterMap_congr h
  rw [accepts_eq_verdicts, accepts_eq_verdicts, hverdicts]

/-- Entities that every rule treats alike get one verdict. -/
theorem accepts_congr {other : E}
    (h : ∀ rule ∈ rules, ∀ value, rule.accepts entity value = rule.accepts other value)
    (filter : Filter) : accepts rules filter entity = accepts rules filter other := by
  refine accepts_eq_accepts fun entry _ => ?_
  unfold verdict?
  cases hrule : Rule.find? rules entry.1 with
  | none => rfl
  | some rule =>
      have hmem := List.mem_of_find?_eq_some hrule
      exact congrArg some (Rule.judge_eq_judge rule.key rule.shape entry.2 (h rule hmem))

theorem accepts_eq_ok_iff {verdict : Bool} :
    accepts rules filter entity = .ok verdict ↔
      ∃ verdicts, List.Forall₂ (fun found v => found.1.judge entity found.2 = .ok v)
        (recognised rules filter) verdicts ∧ (!verdicts.isEmpty && verdicts.all id) = verdict := by
  simp only [accepts, Outcome.bind_eq_ok_iff, Outcome.mapM_eq_ok_iff, pure, Except.pure,
    Except.ok.injEq]

theorem exists_accepts_eq_ok_iff :
    (∃ verdict, accepts rules filter entity = .ok verdict) ↔
      ∀ found ∈ recognised rules filter, ∃ v, found.1.judge entity found.2 = .ok v := by
  rw [← Outcome.exists_mapM_eq_ok_iff]
  simp only [accepts_eq_ok_iff, Outcome.mapM_eq_ok_iff]
  constructor
  · rintro ⟨_, verdicts, hverdicts, _⟩
    exact ⟨verdicts, hverdicts⟩
  · rintro ⟨verdicts, hverdicts⟩
    exact ⟨_, verdicts, hverdicts, rfl⟩

theorem accepts_eq_ok_true_iff :
    accepts rules filter entity = .ok true ↔
      recognised rules filter ≠ [] ∧
        ∀ found ∈ recognised rules filter, found.1.judge entity found.2 = .ok true := by
  rw [accepts_eq_ok_iff]
  generalize recognised rules filter = found
  constructor
  · rintro ⟨verdicts, hverdicts, htrue⟩
    simp only [Bool.and_eq_true, Bool.not_eq_true', List.isEmpty_eq_false_iff, List.all_eq_true,
      id_eq] at htrue
    refine ⟨?_, ?_⟩
    · rintro rfl
      exact htrue.1 (List.forall₂_nil_left_iff.mp hverdicts)
    · have hall := htrue.2
      clear htrue
      induction hverdicts with
      | nil => simp
      | cons hjudge _ ih =>
          rw [List.forall_mem_cons] at hall ⊢
          exact ⟨hall.1 ▸ hjudge, ih hall.2⟩
  · rintro ⟨hne, hall⟩
    refine ⟨found.map fun _ => true, ?_, by simpa using hne⟩
    rw [List.forall₂_map_right_iff]
    exact List.forall₂_same.mpr hall

theorem accepts_eq_ok_false_iff :
    accepts rules filter entity = .ok false ↔
      (∃ verdict, accepts rules filter entity = .ok verdict) ∧
        ¬ accepts rules filter entity = .ok true := by
  cases accepts rules filter entity with
  | error e => simp
  | ok verdict => cases verdict <;> simp

theorem exists_mem_of_accepts_eq_error {error : ServiceError}
    (h : accepts rules filter entity = .error error) :
    ∃ found ∈ recognised rules filter, found.1.judge entity found.2 = .error error := by
  rcases Outcome.bind_eq_error_iff.mp h with hverdicts | ⟨_, _, hpure⟩
  · exact Outcome.exists_mem_of_mapM_eq_error hverdicts
  · simp [pure, Except.pure] at hpure

end Filter

end Inspection
