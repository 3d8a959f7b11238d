import Inspection.Proofs.Filed
import Inspection.Proofs.Session.Effect
import Mathlib.Data.List.Forall2

/-!
# Coherence of a session

What holds of the tables of a store together, after any commands and resets:
entities stand under their own names, runs have the values of stored
templates, and the findings report the runs one by one.  A subscription
changes a stored template in place, and keeps this because it leaves alone
what a run has copied.
-/

namespace Inspection

namespace AssessmentRun

structure Copies (run : AssessmentRun) (template : AssessmentTemplate) : Prop where
  duration_eq : run.duration = template.duration
  rulesPackageArns_eq : run.rulesPackageArns = template.rulesPackageArns
  attributes_eq : run.attributes = template.attributes

end AssessmentRun

namespace Finding

/-- A finding is that of a run, by its name and its fields. -/
structure Reports (finding : Finding) (run : AssessmentRun) : Prop where
  runArn_eq : finding.runArn = run.arn
  arn_extends : ∃ id, finding.arn = Arn.finding run.arn id
  rulesPackageArn_eq : finding.rulesPackageArn = run.rulesPackageArns.head?

end Finding

namespace Store

/-- What a command adds to a store when it succeeds: entries at the end of the
tables it is about, under new keys, of which the answer names the first.  A
subscription adds none, and changes only the template that it names. -/
def Grows (before after : Store) (answer : Json) : Command → Prop
  | .createResourceGroup _ =>
    ∃ group, answer = Session.named "resourceGroupArn" group.arn ∧
      before.groups.Gains group.arn group after.groups ∧
      after = { before with groups := after.groups }
  | .createAssessmentTarget _ _ =>
    ∃ target, answer = Session.named "assessmentTargetArn" target.arn ∧
      before.targets.Gains target.arn target after.targets ∧
      after = { before with targets := after.targets }
  | .createAssessmentTemplate _ _ _ _ _ =>
    ∃ template, answer = Session.named "assessmentTemplateArn" template.arn ∧
      before.templates.Gains template.arn template after.templates ∧
      after = { before with templates := after.templates }
  | .subscribeToEvent templateArn _ _ =>
    after.templates.keys = before.templates.keys ∧
      (∀ arn, arn ≠ templateArn → after.templates.get? arn = before.templates.get? arn) ∧
      after = { before with templates := after.templates }
  | .startAssessmentRun _ _ =>
    ∃ run finding, answer = Session.named "assessmentRunArn" run.arn ∧
      before.runs.Gains run.arn run after.runs ∧
      before.findings.Gains finding.arn finding after.findings ∧
      after = { before with runs := after.runs, findings := after.findings }

end Store

namespace Session

/-- The tables of a session agree with each other and with the ids drawn. -/
structure Coherent (ids : Nat → String) (region : String) (session : Session) : Prop where
  region_eq : session.store.region = region
  groups : session.store.groups.Filed ids region (·.arn) (·.region) session.drawn
  targets : session.store.targets.Filed ids region (·.arn) (·.region) session.drawn
  templates : session.store.templates.Filed ids region (·.arn) (·.region) session.drawn
  runs : session.store.runs.Filed ids region (·.arn) (·.region) session.drawn
  findings : session.store.findings.Filed ids region (·.arn) (·.region) session.drawn
  copied : ∀ run ∈ session.store.runs.values, ∃ template,
    session.store.templates.get? run.templateArn = some template ∧ run.Copies template
  reported : List.Forall₂ (fun run finding => finding.Reports run)
    session.store.runs.values session.store.findings.values

namespace Coherent

variable {ids : Nat → String} {region : String} {session : Session}

theorem empty (ids : Nat → String) (region account : String) (drawn : Nat) :
    Coherent ids region ⟨.empty region account, drawn⟩ where
  region_eq := rfl
  groups := .empty
  targets := .empty
  templates := .empty
  runs := .empty
  findings := .empty
  copied := by simp [Store.empty, Table.empty, Table.values]
  reported := .nil

theorem reset (h : Coherent ids region session) : Coherent ids region session.reset := by
  rw [Session.reset, Store.reset, h.region_eq]
  exact empty ids region _ _

theorem later (h : Coherent ids region session) {drawn : Nat} (hdrawn : session.drawn ≤ drawn) :
    Coherent ids region ⟨session.store, drawn⟩ where
  region_eq := h.region_eq
  groups := h.groups.mono hdrawn
  targets := h.targets.mono hdrawn
  templates := h.templates.mono hdrawn
  runs := h.runs.mono hdrawn
  findings := h.findings.mono hdrawn
  copied := h.copied
  reported := h.reported

theorem addGroup (h : Coherent ids region session) (supply : IdSupply ids)
    {group : ResourceGroup} (hends : Arn.EndsIn (ids session.drawn) group.arn)
    (hregion : group.region = region) :
    Coherent ids region ⟨session.store.addGroup group, session.drawn + 1⟩ :=
  { h.later (Nat.le_succ _) with
    groups := h.groups.insert supply (Nat.le_refl _) hends hregion (Nat.lt_succ_self _) }

theorem addTarget (h : Coherent ids region session) (supply : IdSupply ids)
    {target : AssessmentTarget} (hends : Arn.EndsIn (ids session.drawn) target.arn)
    (hregion : target.region = region) :
    Coherent ids region ⟨session.store.addTarget target, session.drawn + 1⟩ :=
  { h.later (Nat.le_succ _) with
    targets := h.targets.insert supply (Nat.le_refl _) hends hregion (Nat.lt_succ_self _) }

theorem addTemplate (h : Coherent ids region session) (supply : IdSupply ids)
    {template : AssessmentTemplate} (hends : Arn.EndsIn (ids session.drawn) template.arn)
    (hregion : template.region = region) :
    Coherent ids region ⟨session.store.addTemplate template, session.drawn + 1⟩ := by
  have hnew := h.templates.notMem_keys supply (Nat.le_refl _) hends
  refine { h.later (Nat.le_succ _) with templates := ?_, copied := ?_ }
  · exact h.templates.insert supply (Nat.le_refl _) hends hregion (Nat.lt_succ_self _)
  · intro run hrun
    obtain ⟨found, hfound, hcopies⟩ := h.copied run hrun
    exact ⟨found, Table.get?_insert_of_get?_eq_some template hnew hfound, hcopies⟩

theorem subscribe (h : Coherent ids region session) (now : Instant)
    (templateArn event topicArn : String) :
    Coherent ids region
      ⟨session.store.subscribe now templateArn event topicArn, session.drawn⟩ := by
  refine { h with templates := h.templates.update (fun _ => rfl) fun _ => rfl, copied := ?_ }
  intro run hrun
  obtain ⟨template, htemplate, hcopies⟩ := h.copied run hrun
  by_cases harn : run.templateArn = templateArn
  · -- the template itself has changed, but in its subscriptions only
    refine ⟨template.subscribe now event topicArn, ?_, ?_⟩
    · rw [harn] at htemplate ⊢
      rw [Store.subscribe, Table.get?_update_self, htemplate, Option.map_some]
    · exact ⟨hcopies.duration_eq, hcopies.rulesPackageArns_eq, hcopies.attributes_eq⟩
  · refine ⟨template, ?_, hcopies⟩
    rw [Store.subscribe, Table.get?_update_ne harn, htemplate]

theorem addRun (h : Coherent ids region session) (supply : IdSupply ids)
    {template : AssessmentTemplate} {run : AssessmentRun} {finding : Finding}
    (hstored : session.store.templates.get? run.templateArn = some template)
    (hcopies : run.Copies template) (hreports : finding.Reports run)
    (hrunEnds : Arn.EndsIn (ids session.drawn) run.arn)
    (hfindingEnds : Arn.EndsIn (ids (session.drawn + 1)) finding.arn)
    (hrunRegion : run.region = region) (hfindingRegion : finding.region = region) :
    Coherent ids region ⟨session.store.addRun run finding, session.drawn + 3⟩ := by
  have hrunNew := h.runs.notMem_keys supply (Nat.le_refl _) hrunEnds
  have hfindingNew := h.findings.notMem_keys supply (Nat.le_succ _) hfindingEnds
  have hruns := Table.values_insert_of_notMem run hrunNew
  have hfindings := Table.values_insert_of_notMem finding hfindingNew
  have hrunLater : session.drawn < session.drawn + 3 := by omega
  have hfindingLater : session.drawn + 1 < session.drawn + 3 := by omega
  refine { h.later (Nat.le_add_right _ 3) with
    runs := ?_, findings := ?_, copied := ?_, reported := ?_ }
  · exact h.runs.insert supply (Nat.le_refl _) hrunEnds hrunRegion hrunLater
  · exact h.findings.insert supply (Nat.le_succ _) hfindingEnds hfindingRegion hfindingLater
  · simp only [Store.addRun, hruns, List.forall_mem_append, List.forall_mem_singleton]
    exact ⟨h.copied, template, hstored, hcopies⟩
  · simp only [Store.addRun, hruns, hfindings]
    exact List.rel_append h.reported (.cons hreports .nil)

theorem of_effect (h : Coherent ids region session) (supply : IdSupply ids) {now : Instant}
    {command : Command} {answer : Except ServiceError Json} {next : Session}
    (heffect : Effect ⟨ids, now⟩ session command answer next) : Coherent ids region next := by
  cases heffect with
  | groupRefused | subscriptionRefused | runRefused => exact h
  | groupAdded _ hgroup =>
      subst hgroup
      exact h.addGroup supply (Arn.endsIn_resourceGroup _ _ _) h.region_eq
  | targetAdded htarget =>
      subst htarget
      exact h.addTarget supply (Arn.endsIn_target _ _ _) h.region_eq
  | templateAdded htemplate =>
      subst htemplate
      exact h.addTemplate supply (Arn.endsIn_template _ _) h.region_eq
  | subscribed => exact h.subscribe now _ _ _
  | @runAdded templateArn name template _ _ hstored hrun hfinding =>
      subst hrun hfinding
      obtain ⟨harn, hregion, -⟩ := h.templates.placed_of_get?_eq_some hstored
      have hown : session.store.templates.get? template.arn = some template := by
        rw [harn, hstored]
      refine h.addRun supply hown ⟨rfl, rfl, rfl⟩ ⟨rfl, ⟨_, rfl⟩, rfl⟩ ?_ ?_ hregion hregion
      · exact Arn.endsIn_run _ _
      · exact Arn.endsIn_finding _ _

/-- A command that succeeds in a coherent session adds entries at the end, and
replaces none. -/
theorem grows_of_effect (h : Coherent ids region session) (supply : IdSupply ids) {now : Instant}
    {command : Command} {answer : Json} {next : Session}
    (heffect : Effect ⟨ids, now⟩ session command (.ok answer) next) :
    session.store.Grows next.store answer command := by
  cases heffect with
  | groupAdded _ hgroup =>
      subst hgroup
      refine ⟨_, rfl, Table.gains_insert _ ?_, rfl⟩
      exact h.groups.notMem_keys supply (Nat.le_refl _) (Arn.endsIn_resourceGroup _ _ _)
  | targetAdded htarget =>
      subst htarget
      refine ⟨_, rfl, Table.gains_insert _ ?_, rfl⟩
      exact h.targets.notMem_keys supply (Nat.le_refl _) (Arn.endsIn_target _ _ _)
  | templateAdded htemplate =>
      subst htemplate
      refine ⟨_, rfl, Table.gains_insert _ ?_, rfl⟩
      exact h.templates.notMem_keys supply (Nat.le_refl _) (Arn.endsIn_template _ _)
  | subscribed =>
      exact ⟨Table.keys_update _ _ _, fun _ harn => Table.get?_update_ne harn _ _, rfl⟩
  | runAdded _ hrun hfinding =>
      subst hrun hfinding
      refine ⟨_, _, rfl, Table.gains_insert _ ?_, Table.gains_insert _ ?_, rfl⟩
      · exact h.runs.notMem_keys supply (Nat.le_refl _) (Arn.endsIn_run _ _)
      · exact h.findings.notMem_keys supply (Nat.le_succ _) (Arn.endsIn_finding _ _)

end Coherent

theorem coherent_run {ids : Nat → String} (supply : IdSupply ids) (region account : String)
    (steps : List Step) : Coherent ids region ((start region account).run ids steps) := by
  apply run_preserves
  · intro now session command answer next h heffect
    exact h.of_effect supply heffect
  · intro session h
    exact h.reset
  · exact .empty ids region account 0

/-- Whatever was done to a new store, its tables are coherent, and what a next
command creates comes last and replaces nothing. -/
theorem run_coherent_and_grows {ids : Nat → String} (supply : IdSupply ids)
    (region account : String) (steps : List Step) :
    let session := (start region account).run ids steps
    Coherent ids region session ∧
      ∀ now command answer, (session.execute ⟨ids, now⟩ command).1 = .ok answer →
        session.store.Grows (session.execute ⟨ids, now⟩ command).2.store answer command := by
  intro session
  have hcoherent : Coherent ids region session := coherent_run supply region account steps
  refine ⟨hcoherent, fun now command answer hanswer => ?_⟩
  have heffect := effect_execute ⟨ids, now⟩ command session
  rw [hanswer] at heffect
  exact hcoherent.grows_of_effect supply heffect

/-- With ids that are counted, a template is made and a run of it started. -/
theorem run_coherent_and_grows_of_started_run :
    let now := Instant.ofSeconds 1700000000
    let made := Step.command now (.createAssessmentTemplate "target" "web" 900 [] [])
    let begin := Command.startAssessmentRun (Arn.template "target" (IdSupply.counted 0)) none
    let session := (start "eu-west-1" "123456789012").run IdSupply.counted [made]
    IdSupply IdSupply.counted ∧
      Coherent IdSupply.counted "eu-west-1"
        (session.run IdSupply.counted [.command now begin, .reset, made]) ∧
      ∃ answer, session.store.Grows
        (session.execute ⟨IdSupply.counted, now⟩ begin).2.store answer begin := by
  intro now made begin session
  obtain ⟨template, htemplate⟩ : ∃ template, session.store.templates.get?
      (Arn.template "target" (IdSupply.counted 0)) = some template :=
    ⟨_, if_pos rfl⟩
  obtain ⟨answer, hanswer⟩ :
      ∃ answer, (session.execute ⟨IdSupply.counted, now⟩ begin).1 = .ok answer := by
    simp [begin, execute, startRun, Store.template, htemplate, Except.map]
  refine ⟨IdSupply.counted_isSupply, ?_, ?_⟩
  · exact (run_coherent_and_grows IdSupply.counted_isSupply "eu-west-1" "123456789012"
      [made, .command now begin, .reset, made]).1
  · exact ⟨answer, (run_coherent_and_grows IdSupply.counted_isSupply "eu-west-1" "123456789012"
      [made]).2 now begin answer hanswer⟩

end Session

end Inspection
