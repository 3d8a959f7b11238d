import Inspection.Proofs.Request
import Inspection.Proofs.Session.Journal

/-!
# Durations of templates and runs

The duration of a template is checked where the parameters of a call are read,
and only there: the session itself takes any.  What comes in through calls is
therefore in range, and so is what a run copies.  A run that starts early
enough for the longest duration then ends exactly its own duration later.
-/

namespace Inspection

theorem Request.duration_of_read {action : Action} {parameters : Json} {targetArn name : String}
    {duration : Int} {packages : List String} {attributes : List Attribute}
    (h : read action parameters =
      .ok (.command (.createAssessmentTemplate targetArn name duration packages attributes))) :
    (shortestDuration : Int) ≤ duration ∧ duration ≤ longestDuration := by
  obtain rfl := action_of_read_command h
  simp only [Command.action, read, Outcome.bind_eq_ok_iff, pure, Except.pure, Except.ok.injEq,
    Request.command.injEq, Command.createAssessmentTemplate.injEq] at h
  obtain ⟨_, -, _, -, seconds, hseconds, _, -, _, -, -, -, rfl, -, -⟩ := h
  exact (Parameters.duration_eq_ok_iff.mp hseconds).2

namespace AssessmentRun

/-- A run that starts early enough ends its duration after its completion
time. -/
theorem expectedCompletion_eq_shift {run : AssessmentRun} (hshort : 0 ≤ run.duration)
    (hlong : run.duration ≤ longestDuration) (hearliest : Instant.earliest ≤ run.completionTime)
    (hlatest : run.completionTime.shift longestDuration ≤ Instant.latest) :
    run.completionTime.after? run.duration = some run.expectedCompletion ∧
      run.expectedCompletion = run.completionTime.shift run.duration := by
  have hafter : run.completionTime.after? run.duration =
      some (run.completionTime.shift run.duration) :=
    Instant.after?_eq_some_of_le hearliest hlatest hshort hlong (by decide)
  have hend : run.expectedCompletion = run.completionTime.shift run.duration := by
    rw [expectedCompletion, hafter, Option.getD_some]
  exact ⟨hend ▸ hafter, hend⟩

end AssessmentRun

namespace Session

/-- An exchange is the one that started a run, at the time of the call. -/
structure Exchange.Starts (exchange : Exchange) (run : AssessmentRun) : Prop where
  name_eq : exchange.call.name = "StartAssessmentRun"
  answer_eq : exchange.answer = .ok (.obj [("assessmentRunArn", .str run.arn)])
  startTime_eq : run.startTime = exchange.call.now
  completionTime_eq : run.completionTime = exchange.call.now

namespace Journal

structure DurationsInRange (journal : Journal) : Prop where
  templates : ∀ template ∈ journal.session.store.templates.values,
    (shortestDuration : Int) ≤ template.duration ∧ template.duration ≤ longestDuration
  runs : ∀ run ∈ journal.session.store.runs.values,
    (shortestDuration : Int) ≤ run.duration ∧ run.duration ≤ longestDuration
  started : ∀ run ∈ journal.session.store.runs.values,
    ∃ exchange ∈ journal.history, exchange.Starts run

namespace DurationsInRange

variable {ids : Nat → String} {journal : Journal} {call : Call} {answer : Except ServiceError Json}

theorem empty (region account : String) (drawn : Nat) :
    DurationsInRange ⟨⟨.empty region account, drawn⟩, []⟩ where
  templates := fun _ hmem => absurd hmem List.not_mem_nil
  runs := fun _ hmem => absurd hmem List.not_mem_nil
  started := fun _ hmem => absurd hmem List.not_mem_nil

/-- One more exchange with a session that keeps its templates and runs. -/
theorem later (h : DurationsInRange journal) {next : Session} (exchange : Exchange)
    (htemplates : next.store.templates = journal.session.store.templates)
    (hruns : next.store.runs = journal.session.store.runs) :
    DurationsInRange ⟨next, journal.history ++ [exchange]⟩ where
  templates := htemplates ▸ h.templates
  runs := hruns ▸ h.runs
  started := by
    rw [hruns]
    intro run hrun
    obtain ⟨former, hformer, hstarts⟩ := h.started run hrun
    exact ⟨former, List.mem_append_left _ hformer, hstarts⟩

theorem of_effect (h : DurationsInRange journal) {action : Action} {command : Command}
    {next : Session} (hname : action.name = call.name)
    (hread : Request.read action call.parameters = .ok (.command command))
    (heffect : Effect ⟨ids, call.now⟩ journal.session command answer next) :
    DurationsInRange ⟨next, journal.history ++ [⟨call, answer⟩]⟩ := by
  have hnoted : DurationsInRange ⟨journal.session, journal.history ++ [⟨call, answer⟩]⟩ :=
    h.later _ rfl rfl
  cases heffect with
  | groupRefused | subscriptionRefused | runRefused | groupAdded | targetAdded =>
      exact h.later _ rfl rfl
  | templateAdded htemplate =>
      have hchecked := Request.duration_of_read hread
      refine { hnoted with templates := Table.forall_mem_values_insert h.templates ?_ _ }
      subst htemplate
      exact hchecked
  | subscribed =>
      refine { hnoted with templates := Table.forall_mem_values_update h.templates ?_ _ }
      -- a subscription leaves the duration alone
      exact fun _ hformer => hformer
  | runAdded hstored hrun =>
      have hcopied := h.templates _ (Table.mem_values_of_get?_eq_some hstored)
      have hmade := Request.action_of_read_command hread
      refine { hnoted with
        runs := Table.forall_mem_values_insert h.runs ?_ _
        started := Table.forall_mem_values_insert hnoted.started ?_ _ }
      · subst hrun
        exact hcopied
      · subst hrun
        refine ⟨_, List.mem_append_right _ (List.mem_singleton_self _), ?_, rfl, rfl, rfl⟩
        rw [← hname, ← hmade]
        rfl

end DurationsInRange

/-- Whatever is called on a new session, durations are in range, and a run that
was started one longest duration before the end of the calendar, or earlier,
ends exactly its duration after its completion time. -/
theorem durations_in_range (ids : Nat → String) (region account : String) (moves : List Move) :
    let journal := (start region account).play ids moves
    (∀ template ∈ journal.session.store.templates.values,
      180 ≤ template.duration ∧ template.duration ≤ 86400) ∧
    ∀ run ∈ journal.session.store.runs.values,
      (180 ≤ run.duration ∧ run.duration ≤ 86400) ∧
      ∃ exchange ∈ journal.history, exchange.Starts run ∧
        (Instant.earliest ≤ exchange.call.now →
          exchange.call.now.shift 86400 ≤ Instant.latest →
            run.completionTime.after? run.duration = some run.expectedCompletion ∧
              run.expectedCompletion = run.completionTime.shift run.duration) := by
  intro journal
  have h : DurationsInRange journal := by
    apply play_preserves
    · intro journal call answer h _
      exact h.later ⟨call, answer⟩ rfl rfl
    · intro journal call action command answer next h hname hread heffect
      exact h.of_effect hname hread heffect
    · intro journal _
      exact .empty _ _ _
    · exact .empty region account 0
  refine ⟨h.templates, fun run hrun => ⟨h.runs run hrun, ?_⟩⟩
  obtain ⟨exchange, hexchange, hstarts⟩ := h.started run hrun
  refine ⟨exchange, hexchange, hstarts, fun hearliest hlatest => ?_⟩
  obtain ⟨hshort, hlong⟩ := h.runs run hrun
  rw [← hstarts.completionTime_eq] at hearliest hlatest
  exact AssessmentRun.expectedCompletion_eq_shift (by omega) hlong hearliest hlatest

/-- A run of the longest duration that is started at the last moment for it
ends with the calendar. -/
theorem durations_in_range_of_last_run :
    let now : Instant := ⟨8210266790399, 999999999, by decide⟩
    let create : Call := ⟨now, "CreateAssessmentTemplate",
      .obj [("assessmentTargetArn", .str "target"), ("assessmentTemplateName", .str "web"),
        ("durationInSeconds", .int 86400)]⟩
    let begin : Call := ⟨now, "StartAssessmentRun",
      .obj [("assessmentRunName", .str "last"),
        ("assessmentTemplateArn", .str (Arn.template "target" "a"))]⟩
    let journal := (start "eu-west-1" "123456789012").play (fun _ => "a")
      [.call create, .call begin]
    Instant.earliest ≤ now ∧ now.shift 86400 ≤ Instant.latest ∧
      ∃ run ∈ journal.session.store.runs.values, run.duration = 86400 ∧
        run.completionTime.after? 86400 = some run.expectedCompletion ∧
        run.expectedCompletion = Instant.latest := by
  intro now create begin journal
  have hearliest : Instant.earliest ≤ now := by decide
  have hlatest : now.shift 86400 ≤ Instant.latest := by decide
  obtain ⟨run, hruns, hduration, hnow⟩ : ∃ run, journal.session.store.runs.values = [run] ∧
      run.duration = 86400 ∧ run.completionTime = now := ⟨_, rfl, rfl, rfl⟩
  have hrun : run ∈ journal.session.store.runs.values := by simp [hruns]
  have hinrange := durations_in_range (fun _ => "a") "eu-west-1" "123456789012"
    [.call create, .call begin]
  obtain ⟨exchange, -, hstarts, hends⟩ := (hinrange.2 run hrun).2
  have hcall : exchange.call.now = now := hstarts.completionTime_eq.symm.trans hnow
  obtain ⟨hafter, hend⟩ := hends (hcall ▸ hearliest) (hcall ▸ hlatest)
  refine ⟨hearliest, hlatest, run, hrun, hduration, hduration ▸ hafter, ?_⟩
  rw [hend, hnow, hduration]
  decide

end Journal

end Session

end Inspection
