import Inspection.Proofs.Session.Coherence
import Inspection.Proofs.Store.Selection

/-!
# Filtering runs as their templates

A run is filtered by its own name, state and times, and by what it has copied
from its template.  A filter that asks for the copies alone gives a run the
verdict of its template, which has them still.
-/

namespace Inspection

/-- The keys by which a run is filtered otherwise than its template. -/
def Filter.ownRunKeys : List String :=
  ["namePattern", "states", "startTimeRange", "completionTimeRange", "stateChangeTimeRange"]

namespace AssessmentRun

variable {run : AssessmentRun} {template : AssessmentTemplate}

theorem Copies.verdict?_eq (h : run.Copies template) {entry : String × Json}
    (hkey : entry.1 ∉ Filter.ownRunKeys) :
    Filter.verdict? Filter.runRules run entry =
      Filter.verdict? Filter.templateRules template entry := by
  obtain ⟨key, parameter⟩ := entry
  by_cases hduration : key = "durationRange"
  · subst hduration
    have hholds : ∀ range : DurationRange,
        range.holds run.duration = range.holds template.duration := by
      intro range
      rw [h.duration_eq]
    exact congrArg some (Rule.judge_eq_judge "durationRange" .durationRange parameter hholds)
  by_cases hpackages : key = "rulesPackageArns"
  · subst hpackages
    have hlisted : ∀ listed, Filter.allListed run.rulesPackageArns listed =
        Filter.allListed template.rulesPackageArns listed := by
      intro listed
      rw [h.rulesPackageArns_eq]
    exact congrArg some (Rule.judge_eq_judge "rulesPackageArns" .textList parameter hlisted)
  -- any other key has no rule at all, or one that only a run's own keys have
  have hrun : key ∉ Filter.runRules.map Rule.key := by
    simp_all [Filter.ownRunKeys, Filter.runRules]
  have htemplate : key ∉ Filter.templateRules.map Rule.key := by
    simp_all [Filter.ownRunKeys, Filter.templateRules]
  simp only [Filter.verdict?, Rule.find?_eq_none_iff.mpr hrun,
    Rule.find?_eq_none_iff.mpr htemplate, Option.map_none]

theorem Copies.accepts_eq (h : run.Copies template) {filter : Filter}
    (hkeys : ∀ entry ∈ filter, entry.1 ∉ Filter.ownRunKeys) :
    filter.accepts Filter.runRules run = filter.accepts Filter.templateRules template :=
  Filter.accepts_eq_accepts fun entry hentry => h.verdict?_eq (hkeys entry hentry)

end AssessmentRun

namespace Store

/-- A filter gives runs the verdicts of their templates, and lists the runs of
the templates that it lists. -/
structure RunsFollow (store : Store) (filter : Filter) : Prop where
  verdict_eq : ∀ run ∈ store.runs.values, ∃ template,
    store.templates.get? run.templateArn = some template ∧
      filter.accepts Filter.runRules run = filter.accepts Filter.templateRules template
  listed : ∀ templates, store.listTemplates none (some filter) = .ok templates →
    ∃ runs, store.listRuns none (some filter) = .ok runs ∧
      store.listRuns (some templates) none = .ok runs

theorem runsFollow {store : Store} {filter : Filter}
    (hverdict : ∀ run ∈ store.runs.values, ∃ template,
      store.templates.get? run.templateArn = some template ∧
        filter.accepts Filter.runRules run = filter.accepts Filter.templateRules template) :
    store.RunsFollow filter where
  verdict_eq := hverdict
  listed := by
    intro templates htemplates
    have hfiltered : store.listRuns none (some filter) =
        .ok (selected Filter.runRules (·.templateArn) store.runs none (some filter)) := by
      refine select_eq_ok fun given error hgiven hrefuses run hrun _ => ?_
      obtain rfl := Option.some.inj hgiven
      obtain ⟨template, hstored, hsame⟩ := hverdict run hrun
      -- the templates would be refused as well
      have hrefused := Filter.accepts_eq_error_of_eq_error (hsame.symm.trans (hrefuses run))
      have hlisted : store.listTemplates none (some filter) = .error error :=
        select_eq_error hrefused
          ⟨template, Table.mem_values_of_get?_eq_some hstored, fun _ hnone => nomatch hnone⟩
      exact absurd (htemplates.symm.trans hlisted) (by simp)
    have hparents : store.listRuns (some templates) none =
        .ok (selected Filter.runRules (·.templateArn) store.runs (some templates) none) :=
      select_eq_ok fun _ _ hnone => nomatch hnone
    refine ⟨_, hfiltered, hparents.trans (congrArg Except.ok ?_)⟩
    have hchooses : ∀ entry ∈ store.runs.entries,
        chooses Filter.runRules (·.templateArn) none (some filter) entry.2 =
          chooses Filter.runRules (·.templateArn) (some templates) none entry.2 := by
      intro entry hentry
      obtain ⟨template, hstored, hsame⟩ := hverdict entry.2 (List.mem_map_of_mem hentry)
      have hmem := mem_select_iff htemplates hstored
      rw [Bool.eq_iff_iff, chooses_eq_true_iff, chooses_eq_true_iff]
      simp [Admits, hmem, hsame]
    exact congrArg (List.map Prod.fst) (List.filter_congr hchooses).symm

end Store

namespace Session

/-- Whatever was done to a new store, a filter with none of a run's own keys
treats runs as it treats their templates now. -/
theorem runs_follow_templates {ids : Nat → String} (supply : IdSupply ids)
    (region account : String) (steps : List Step) (filter : Filter)
    (hkeys : ∀ entry ∈ filter, entry.1 ∉ Filter.ownRunKeys) :
    ((start region account).run ids steps).store.RunsFollow filter := by
  apply Store.runsFollow
  intro run hrun
  obtain ⟨template, hstored, hcopies⟩ := (coherent_run supply region account steps).copied run hrun
  exact ⟨template, hstored, hcopies.accepts_eq hkeys⟩

/-- Of two templates with a run each, a range of durations lists one, and its
run. -/
theorem runs_follow_templates_of_short_template :
    let now := Instant.ofSeconds 1700000000
    let template := fun n => Arn.template "target" (IdSupply.counted n)
    let steps := [.command now (.createAssessmentTemplate "target" "short" 900 ["package"] []),
      .command now (.createAssessmentTemplate "target" "long" 3600 [] []),
      .command now (.startAssessmentRun (template 1) none),
      .command now (.startAssessmentRun (template 0) none),
      .command now (.subscribeToEvent (template 0) "started" "topic")]
    let filter : Filter := [("durationRange", .arr [.int 180, .int 1000])]
    let store := ((start "eu-west-1" "123456789012").run IdSupply.counted steps).store
    let run := Arn.run (template 0) (IdSupply.counted 5)
    IdSupply IdSupply.counted ∧ (∀ entry ∈ filter, entry.1 ∉ Filter.ownRunKeys) ∧
      store.listTemplates none (some filter) = .ok [template 0] ∧
      store.listRuns none (some filter) = .ok [run] ∧
      store.listRuns (some [template 0]) none = .ok [run] := by
  intro now template steps filter store run
  have hkeys : ∀ entry ∈ filter, entry.1 ∉ Filter.ownRunKeys := by
    intro entry hentry
    obtain rfl := List.mem_singleton.mp hentry
    decide
  have hfollow : store.RunsFollow filter :=
    runs_follow_templates IdSupply.counted_isSupply "eu-west-1" "123456789012" steps filter hkeys
  have htemplates : store.listTemplates none (some filter) = .ok [template 0] := by
    decide +kernel
  obtain ⟨runs, hfiltered, hparents⟩ := hfollow.listed _ htemplates
  have hruns : store.listRuns none (some filter) = .ok [run] := by
    decide +kernel
  obtain rfl := Except.ok.inj (hfiltered.symm.trans hruns)
  exact ⟨IdSupply.counted_isSupply, hkeys, htemplates, hfiltered, hparents⟩

end Session

end Inspection
