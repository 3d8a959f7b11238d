import Inspection.Filter.Rules
import Inspection.Proofs.Filter.Grammar
import Inspection.Proofs.Filter.Verdict

/-!
# What filters ask of entities

The keys of each kind of entity with the grammar of their parameters and the
condition on the entity, said on JSON values and exact numbers and apart from
the rules that are evaluated.  A filter accepts an entity exactly when it has
a key of that kind and all those it has are well formed and hold; it rejects
when all are well formed and this fails, and otherwise there is no verdict.
-/

namespace Inspection

/-- What a filter key asks for: a parameter of a shape, and a condition that
the entity satisfies with it. -/
structure Criterion (E : Type) where
  key : String
  shape : Shape
  Holds : E → Json → Prop

namespace Criterion

/-- The parameter is a text that occurs in the given one. -/
def OccursIn (text : String) (parameter : Json) : Prop :=
  ∃ pattern, parameter = .str pattern ∧ pattern.toList <:+: text.toList

/-- The parameter is a list with the given text among its items. -/
def Lists (parameter : Json) (text : String) : Prop :=
  ∃ items, parameter = .arr items ∧ .str text ∈ items

/-- The parameter is a range with the given duration in it. -/
def CoversDuration (duration : Int) (parameter : Json) : Prop :=
  ∃ least most, DurationRange.Gives parameter least most ∧ least ≤ duration ∧ duration ≤ most

/-- The parameter is a range with the whole second of the instant in it. -/
def CoversSecond (t : Instant) (parameter : Json) : Prop :=
  ∃ first last, TimeRange.Gives parameter first last ∧ first ≤ t.seconds ∧ t.seconds ≤ last

def ofTemplates : List (Criterion AssessmentTemplate) :=
  [⟨"namePattern", .text, fun template => OccursIn template.name⟩,
    ⟨"durationRange", .durationRange, fun template => CoversDuration template.duration⟩,
    ⟨"rulesPackageArns", .textList, fun template parameter =>
      ∀ arn ∈ template.rulesPackageArns, Lists parameter arn⟩]

def ofRuns : List (Criterion AssessmentRun) :=
  [⟨"namePattern", .text, fun run => OccursIn run.name⟩,
    ⟨"states", .textList, fun run parameter => Lists parameter run.state.text⟩,
    ⟨"durationRange", .durationRange, fun run => CoversDuration run.duration⟩,
    ⟨"rulesPackageArns", .textList, fun run parameter =>
      ∀ arn ∈ run.rulesPackageArns, Lists parameter arn⟩,
    ⟨"startTimeRange", .timeRange, fun run => CoversSecond run.startTime⟩,
    ⟨"completionTimeRange", .timeRange, fun run => CoversSecond run.expectedCompletion⟩,
    ⟨"stateChangeTimeRange", .timeRange, fun run => CoversSecond run.stateChangeTime⟩]

def ofFindings : List (Criterion Finding) :=
  [⟨"agentIds", .textList, fun finding parameter => Lists parameter finding.agentId⟩,
    ⟨"autoScalingGroups", .textList, fun finding parameter =>
      ∃ group, finding.autoScalingGroup = some group ∧ Lists parameter group⟩,
    ⟨"ruleNames", .textList, fun finding parameter => Lists parameter finding.ruleName⟩,
    ⟨"severities", .textList, fun finding parameter => Lists parameter finding.severity.text⟩,
    ⟨"creationTimeRange", .timeRange, fun finding => CoversSecond finding.createdAt⟩,
    ⟨"rulesPackageArns", .textList, fun finding parameter =>
      ∃ arn, finding.rulesPackageArn = some arn ∧ Lists parameter arn⟩]

variable {E : Type}

/-- Some key of the filter has a criterion. -/
def Asked (criteria : List (Criterion E)) (filter : Filter) : Prop :=
  ∃ entry ∈ filter, ∃ criterion ∈ criteria, criterion.key = entry.1

/-- Every key with a criterion has a parameter of its shape. -/
def WellFormed (criteria : List (Criterion E)) (filter : Filter) : Prop :=
  ∀ entry ∈ filter, ∀ criterion ∈ criteria, criterion.key = entry.1 →
    criterion.shape.Admits entry.2

/-- Some key has a criterion, and every key that has one is well formed and
holds of the entity. -/
def Satisfied (criteria : List (Criterion E)) (filter : Filter) (entity : E) : Prop :=
  Asked criteria filter ∧ ∀ entry ∈ filter, ∀ criterion ∈ criteria, criterion.key = entry.1 →
    criterion.shape.Admits entry.2 ∧ criterion.Holds entity entry.2

/-- A verdict on an entity is the one that the criteria give, and a refusal
names a key whose parameter is malformed. -/
structure Decides (criteria : List (Criterion E)) (filter : Filter) (entity : E)
    (verdict : Except ServiceError Bool) : Prop where
  accepted_iff : verdict = .ok true ↔ Satisfied criteria filter entity
  rejected_iff : verdict = .ok false ↔
    WellFormed criteria filter ∧ ¬ Satisfied criteria filter entity
  refused_iff : (∃ error, verdict = .error error) ↔ ¬ WellFormed criteria filter
  blamed : ∀ error, verdict = .error error → ∃ entry ∈ filter, ∃ criterion ∈ criteria,
    criterion.key = entry.1 ∧ ¬ criterion.shape.Admits entry.2 ∧
      error = .malformedFilter criterion.key criterion.shape
  unasked : ¬ Asked criteria filter → verdict = .ok false

/-! ## Single criteria -/

theorem lists_texts_iff {listed : List String} {text : String} :
    Lists (.texts listed) text ↔ text ∈ listed := by
  simp [Lists, Json.texts]

theorem exists_text?_iff {text : String} {parameter : Json} :
    (∃ pattern, parameter.text? = some pattern ∧ Text.contains text pattern = true) ↔
      Shape.text.Admits parameter ∧ OccursIn text parameter := by
  simp only [Json.text?_eq_some_iff, Text.contains, Text.occursIn_eq_true_iff, Shape.Admits,
    OccursIn]
  constructor
  · rintro ⟨pattern, hpattern, hoccurs⟩
    exact ⟨⟨pattern, hpattern⟩, pattern, hpattern, hoccurs⟩
  · exact fun h => h.2

theorem exists_duration_iff {duration : Int} {parameter : Json} :
    (∃ range, DurationRange.read? parameter = some range ∧ range.holds duration = true) ↔
      Shape.durationRange.Admits parameter ∧ CoversDuration duration parameter := by
  simp only [DurationRange.read?_eq_some_iff, DurationRange.holds, Bool.and_eq_true,
    decide_eq_true_eq, Shape.Admits, CoversDuration]
  constructor
  · rintro ⟨range, hgives, hholds⟩
    exact ⟨⟨_, _, hgives⟩, _, _, hgives, hholds⟩
  · rintro ⟨_, least, most, hgives, hholds⟩
    exact ⟨⟨least, most⟩, hgives, hholds⟩

theorem exists_time_iff {t : Instant} (ht : t.InCalendar) {parameter : Json} :
    (∃ range, TimeRange.read? parameter = some range ∧ range.holds t = true) ↔
      Shape.timeRange.Admits parameter ∧ CoversSecond t parameter := by
  rw [TimeRange.exists_read?_holds_iff ht]
  constructor
  · rintro ⟨first, last, hgives, hholds⟩
    exact ⟨⟨first, last, hgives⟩, first, last, hgives, hholds⟩
  · exact fun h => h.2

theorem exists_texts_iff {test : List String → Bool} {condition : Json → Prop}
    (h : ∀ listed, test listed = true ↔ condition (.texts listed)) {parameter : Json} :
    (∃ listed, Shape.texts? parameter = some listed ∧ test listed = true) ↔
      Shape.textList.Admits parameter ∧ condition parameter := by
  simp only [Shape.texts?_eq_some_iff, Shape.Admits]
  constructor
  · rintro ⟨listed, rfl, htest⟩
    exact ⟨⟨listed, rfl⟩, (h listed).mp htest⟩
  · rintro ⟨⟨listed, rfl⟩, hcondition⟩
    exact ⟨listed, rfl, (h listed).mpr hcondition⟩

theorem contains_iff_lists (text : String) (listed : List String) :
    listed.contains text = true ↔ Lists (.texts listed) text := by
  rw [List.contains_iff_mem, lists_texts_iff]

theorem allListed_iff_lists (own listed : List String) :
    Filter.allListed own listed = true ↔ ∀ text ∈ own, Lists (.texts listed) text := by
  simp only [Filter.allListed, List.all_eq_true, contains_iff_lists]

theorem someListed_iff_lists (own : Option String) (listed : List String) :
    Filter.someListed own listed = true ↔
      ∃ text, own = some text ∧ Lists (.texts listed) text := by
  cases own <;> simp [Filter.someListed, lists_texts_iff]

/-! ## Rules and criteria -/

/-- A rule evaluates a criterion on an entity: they have the same key and
shape, and the rule accepts the parameters with which the criterion holds. -/
structure Evaluates (entity : E) (rule : Rule E) (criterion : Criterion E) : Prop where
  key_eq : rule.key = criterion.key
  shape_eq : rule.shape = criterion.shape
  accepts_iff : ∀ parameter,
    (∃ value, rule.shape.read? parameter = some value ∧ rule.accepts entity value = true) ↔
      criterion.shape.Admits parameter ∧ criterion.Holds entity parameter

section Tables

variable {rules : List (Rule E)} {criteria : List (Criterion E)} {entity : E}

theorem forall_recognised_iff (filter : Filter) (hkeys : (rules.map Rule.key).Nodup)
    (htable : List.Forall₂ (Evaluates entity) rules criteria)
    {P : Rule E → Json → Prop} {Q : Criterion E → Json → Prop}
    (hPQ : ∀ rule criterion parameter, Evaluates entity rule criterion →
      (P rule parameter ↔ Q criterion parameter)) :
    (∀ found ∈ Filter.recognised rules filter, P found.1 found.2) ↔
      ∀ entry ∈ filter, ∀ criterion ∈ criteria, criterion.key = entry.1 → Q criterion entry.2 := by
  constructor
  · rintro h ⟨key, parameter⟩ hentry criterion hcriterion rfl
    obtain ⟨rule, hrule, heval⟩ := Outcome.exists_mem_of_forall₂ htable.flip hcriterion
    rw [← heval.key_eq] at hentry
    exact (hPQ rule criterion parameter heval).mp
      (h (rule, parameter) ((Filter.mem_recognised_iff hkeys).mpr ⟨hrule, hentry⟩))
  · rintro h ⟨rule, parameter⟩ hfound
    obtain ⟨hrule, hentry⟩ := (Filter.mem_recognised_iff hkeys).mp hfound
    obtain ⟨criterion, hcriterion, heval⟩ := Outcome.exists_mem_of_forall₂ htable hrule
    exact (hPQ rule criterion parameter heval).mpr
      (h (rule.key, parameter) hentry criterion hcriterion heval.key_eq.symm)

theorem recognised_ne_nil_iff (filter : Filter) (hkeys : (rules.map Rule.key).Nodup)
    (htable : List.Forall₂ (Evaluates entity) rules criteria) :
    Filter.recognised rules filter ≠ [] ↔ Asked criteria filter := by
  have hnone := forall_recognised_iff filter hkeys htable
    (P := fun _ _ => False) (Q := fun _ _ => False) fun _ _ _ _ => Iff.rfl
  rw [← List.eq_nil_iff_forall_not_mem] at hnone
  simp only [ne_eq, hnone, Asked]
  push Not
  simp

/-- Rules that evaluate the criteria one by one give the verdict of the
criteria. -/
theorem decides_accepts (hkeys : (rules.map Rule.key).Nodup)
    (htable : List.Forall₂ (Evaluates entity) rules criteria) (filter : Filter) :
    Decides criteria filter entity (filter.accepts rules entity) := by
  have hwell : (∃ verdict, filter.accepts rules entity = .ok verdict) ↔
      WellFormed criteria filter := by
    rw [Filter.exists_accepts_eq_ok_iff]
    refine forall_recognised_iff filter hkeys htable
      (P := fun rule parameter => ∃ v, rule.judge entity parameter = .ok v) ?_
    intro rule criterion parameter heval
    rw [Rule.exists_judge_eq_ok_iff, Shape.exists_read?_iff_admits, heval.shape_eq]
  have htrue : filter.accepts rules entity = .ok true ↔ Satisfied criteria filter entity := by
    rw [Filter.accepts_eq_ok_true_iff, recognised_ne_nil_iff filter hkeys htable]
    refine and_congr_right fun _ => forall_recognised_iff filter hkeys htable
      (P := fun rule parameter => rule.judge entity parameter = .ok true)
      (Q := fun criterion parameter =>
        criterion.shape.Admits parameter ∧ criterion.Holds entity parameter) ?_
    intro rule criterion parameter heval
    rw [Rule.judge_eq_ok_iff, heval.accepts_iff]
  have hfalse : filter.accepts rules entity = .ok false ↔
      WellFormed criteria filter ∧ ¬ Satisfied criteria filter entity := by
    rw [Filter.accepts_eq_ok_false_iff, hwell, htrue]
  refine ⟨htrue, hfalse, ?_, ?_, fun hunasked => hfalse.mpr ⟨?_, fun h => hunasked h.1⟩⟩
  · rw [← hwell]
    cases filter.accepts rules entity <;> simp
  · intro error herror
    obtain ⟨⟨rule, parameter⟩, hfound, hjudge⟩ := Filter.exists_mem_of_accepts_eq_error herror
    obtain ⟨hread, rfl⟩ := Rule.judge_eq_error_iff.mp hjudge
    obtain ⟨hrule, hentry⟩ := (Filter.mem_recognised_iff hkeys).mp hfound
    obtain ⟨criterion, hcriterion, heval⟩ := Outcome.exists_mem_of_forall₂ htable hrule
    refine ⟨_, hentry, criterion, hcriterion, heval.key_eq.symm, ?_, ?_⟩
    · rw [← heval.shape_eq, ← Shape.exists_read?_iff_admits, hread]
      simp
    · rw [heval.key_eq, heval.shape_eq]
  · intro entry hentry criterion hcriterion hkey
    exact absurd ⟨entry, hentry, criterion, hcriterion, hkey⟩ hunasked

end Tables

theorem templateRules_evaluate (template : AssessmentTemplate) :
    List.Forall₂ (Evaluates template) Filter.templateRules ofTemplates := by
  refine .cons ⟨rfl, rfl, fun _ => exists_text?_iff⟩ ?_
  refine .cons ⟨rfl, rfl, fun _ => exists_duration_iff⟩ ?_
  exact .cons ⟨rfl, rfl, fun _ => exists_texts_iff (allListed_iff_lists _)⟩ .nil

theorem runRules_evaluate {run : AssessmentRun} (hstart : run.startTime.InCalendar)
    (hchange : run.stateChangeTime.InCalendar) :
    List.Forall₂ (Evaluates run) Filter.runRules ofRuns := by
  refine .cons ⟨rfl, rfl, fun _ => exists_text?_iff⟩ ?_
  refine .cons ⟨rfl, rfl, fun _ => exists_texts_iff (contains_iff_lists _)⟩ ?_
  refine .cons ⟨rfl, rfl, fun _ => exists_duration_iff⟩ ?_
  refine .cons ⟨rfl, rfl, fun _ => exists_texts_iff (allListed_iff_lists _)⟩ ?_
  refine .cons ⟨rfl, rfl, fun _ => exists_time_iff hstart⟩ ?_
  refine .cons ⟨rfl, rfl, fun _ => exists_time_iff run.expectedCompletion_inCalendar⟩ ?_
  exact .cons ⟨rfl, rfl, fun _ => exists_time_iff hchange⟩ .nil

theorem findingRules_evaluate {finding : Finding} (hcreated : finding.createdAt.InCalendar) :
    List.Forall₂ (Evaluates finding) Filter.findingRules ofFindings := by
  refine .cons ⟨rfl, rfl, fun _ => exists_texts_iff (contains_iff_lists _)⟩ ?_
  refine .cons ⟨rfl, rfl, fun _ => exists_texts_iff (someListed_iff_lists _)⟩ ?_
  refine .cons ⟨rfl, rfl, fun _ => exists_texts_iff (contains_iff_lists _)⟩ ?_
  refine .cons ⟨rfl, rfl, fun _ => exists_texts_iff (contains_iff_lists _)⟩ ?_
  refine .cons ⟨rfl, rfl, fun _ => exists_time_iff hcreated⟩ ?_
  exact .cons ⟨rfl, rfl, fun _ => exists_texts_iff (someListed_iff_lists _)⟩ .nil

/-! ## The three kinds of entities -/

/-- For every filter and every entity with times in the calendar, the verdict
is the one that the criteria of its kind give. -/
theorem decides_accepts_of_each_kind :
    (∀ (filter : Filter) (template : AssessmentTemplate),
      Decides ofTemplates filter template (filter.accepts Filter.templateRules template)) ∧
    (∀ (filter : Filter) (run : AssessmentRun),
      run.startTime.InCalendar → run.stateChangeTime.InCalendar →
        Decides ofRuns filter run (filter.accepts Filter.runRules run)) ∧
    ∀ (filter : Filter) (finding : Finding), finding.createdAt.InCalendar →
      Decides ofFindings filter finding (filter.accepts Filter.findingRules finding) := by
  refine ⟨fun filter template => ?_, fun filter run hstart hchange => ?_,
    fun filter finding hcreated => ?_⟩
  · exact decides_accepts (by decide) (templateRules_evaluate template) filter
  · exact decides_accepts (by decide) (runRules_evaluate hstart hchange) filter
  · exact decides_accepts (by decide) (findingRules_evaluate hcreated) filter

/-- A run that starts in the second that both bounds name, and whose state is
listed in its wire form, is accepted, and so is its finding by its severity; a
filter without keys rejects it. -/
theorem decides_accepts_of_started_run :
    let now := Instant.ofSeconds 1700000000
    let run := (AssessmentTemplate.create "eu-west-1" "a" now "target" "web" 900 [] []).startRun
      "b" now "first"
    let finding := run.report "c" "d" now "rule" "title" .informational
    let bounds : Json := .arr [.int 1700000000, .int 1700000000]
    let states : Json := .arr [.str "COMPLETED", .str "START_DATA_COLLECTION_PENDING"]
    let severities : Json := .arr [.str "Informational"]
    run.startTime.InCalendar ∧ run.stateChangeTime.InCalendar ∧ finding.createdAt.InCalendar ∧
      Filter.accepts Filter.runRules [("startTimeRange", bounds), ("states", states)] run =
        .ok true ∧
      Filter.accepts Filter.findingRules [("severities", severities)] finding = .ok true ∧
      Filter.accepts Filter.findingRules [] finding = .ok false := by
  intro now run finding bounds states severities
  have hnow : now.InCalendar := by decide
  have hgives : TimeRange.Gives bounds 1700000000 1700000000 :=
    ⟨_, _, .items _ _, rfl, rfl⟩
  refine ⟨hnow, hnow, hnow, ?_, ?_, ?_⟩
  · refine (decides_accepts_of_each_kind.2.1 _ run hnow hnow).accepted_iff.mpr ⟨?_, ?_⟩
    · exact ⟨_, List.mem_cons_self,
        ⟨"startTimeRange", .timeRange, fun run => CoversSecond run.startTime⟩,
        by simp [ofRuns], rfl⟩
    · intro entry hentry criterion hcriterion hkey
      simp only [ofRuns, List.mem_cons, List.not_mem_nil, or_false] at hentry hcriterion
      -- of the criteria, only those of the two keys are left
      rcases hentry with rfl | rfl <;>
        rcases hcriterion with rfl | rfl | rfl | rfl | rfl | rfl | rfl <;>
          try exact absurd hkey (by decide)
      · exact ⟨⟨_, _, hgives⟩, _, _, hgives, by decide, by decide⟩
      · exact ⟨⟨["COMPLETED", "START_DATA_COLLECTION_PENDING"], rfl⟩, _, rfl,
          List.mem_cons_of_mem _ List.mem_cons_self⟩
  · refine (decides_accepts_of_each_kind.2.2 _ finding hnow).accepted_iff.mpr ⟨?_, ?_⟩
    · exact ⟨_, List.mem_cons_self,
        ⟨"severities", .textList, fun finding parameter => Lists parameter finding.severity.text⟩,
        by simp [ofFindings], rfl⟩
    · intro entry hentry criterion hcriterion hkey
      obtain rfl := List.mem_singleton.mp hentry
      simp only [ofFindings, List.mem_cons, List.not_mem_nil, or_false] at hcriterion
      rcases hcriterion with rfl | rfl | rfl | rfl | rfl | rfl <;>
        try exact absurd hkey (by decide)
      exact ⟨⟨["Informational"], rfl⟩, _, rfl, List.mem_singleton_self _⟩
  · exact (decides_accepts_of_each_kind.2.2 [] finding hnow).unasked (by simp [Asked])

end Criterion

end Inspection
