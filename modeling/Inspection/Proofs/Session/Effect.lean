import Inspection.Session

/-!
# What a command does

The effects of a command on a session, one for each of the writes that it can
make and one for each reason to refuse it, with the answers.  Nothing else ever
happens to a session but a reset, so that what all of them keep is kept by every
sequence of steps.
-/

namespace Inspection

namespace Session

/-- What a command does to a session, and what it answers. -/
inductive Effect (on : Occasion) (session : Session) :
    Command → Except ServiceError Json → Session → Prop
  | groupRefused {entries : List TagEntry} (htags : entries.mapM TagEntry.complete? = none) :
      Effect on session (.createResourceGroup entries) (.error .incompleteTag) session
  | groupAdded {entries : List TagEntry} {tags : List Tag} {group : ResourceGroup}
      (htags : entries.mapM TagEntry.complete? = some tags)
      (hgroup : group = .create session.store.region session.store.account
        (on.ids session.drawn) on.now tags) :
      Effect on session (.createResourceGroup entries)
        (.ok (named "resourceGroupArn" group.arn))
        ⟨session.store.addGroup group, session.drawn + 1⟩
  | targetAdded {name : String} {resourceGroupArn : Option String} {target : AssessmentTarget}
      (htarget : target = .create session.store.region session.store.account
        (on.ids session.drawn) on.now name resourceGroupArn) :
      Effect on session (.createAssessmentTarget name resourceGroupArn)
        (.ok (named "assessmentTargetArn" target.arn))
        ⟨session.store.addTarget target, session.drawn + 1⟩
  | templateAdded {targetArn name : String} {duration : Int} {rulesPackageArns : List String}
      {attributes : List Attribute} {template : AssessmentTemplate}
      (htemplate : template = .create session.store.region (on.ids session.drawn) on.now
        targetArn name duration rulesPackageArns attributes) :
      Effect on session
        (.createAssessmentTemplate targetArn name duration rulesPackageArns attributes)
        (.ok (named "assessmentTemplateArn" template.arn))
        ⟨session.store.addTemplate template, session.drawn + 1⟩
  | subscriptionRefused {templateArn event topicArn : String}
      (hstored : session.store.templates.get? templateArn = none) :
      Effect on session (.subscribeToEvent templateArn event topicArn)
        (.error (.noSuchTemplate templateArn)) session
  | subscribed {templateArn event topicArn : String} {template : AssessmentTemplate}
      (hstored : session.store.templates.get? templateArn = some template) :
      Effect on session (.subscribeToEvent templateArn event topicArn) (.ok (.obj []))
        ⟨session.store.subscribe on.now templateArn event topicArn, session.drawn⟩
  | runRefused {templateArn : String} {name : Option String}
      (hstored : session.store.templates.get? templateArn = none) :
      Effect on session (.startAssessmentRun templateArn name)
        (.error (.noSuchTemplate templateArn)) session
  | runAdded {templateArn : String} {name : Option String} {template : AssessmentTemplate}
      {run : AssessmentRun} {finding : Finding}
      (hstored : session.store.templates.get? templateArn = some template)
      (hrun : run = template.startRun (on.ids session.drawn) on.now
        (name.getD (template.defaultRunName on.now)))
      (hfinding : finding = Catalog.reportedFinding run (on.ids (session.drawn + 1))
        (on.ids (session.drawn + 2)) on.now) :
      Effect on session (.startAssessmentRun templateArn name)
        (.ok (named "assessmentRunArn" run.arn))
        ⟨session.store.addRun run finding, session.drawn + 3⟩

theorem effect_execute (on : Occasion) (command : Command) (session : Session) :
    Effect on session command (session.execute on command).1 (session.execute on command).2 := by
  cases command with
  | createResourceGroup entries =>
      simp only [execute, createGroup]
      cases htags : entries.mapM TagEntry.complete? with
      | none => exact .groupRefused htags
      | some tags => exact .groupAdded htags rfl
  | createAssessmentTarget name resourceGroupArn => exact .targetAdded rfl
  | createAssessmentTemplate targetArn name duration rulesPackageArns attributes =>
      exact .templateAdded rfl
  | subscribeToEvent templateArn event topicArn =>
      simp only [execute, subscribe, Store.template]
      cases hstored : session.store.templates.get? templateArn with
      | none => exact .subscriptionRefused hstored
      | some template => exact .subscribed hstored
  | startAssessmentRun templateArn name =>
      simp only [execute, startRun, Store.template]
      cases hstored : session.store.templates.get? templateArn with
      | none => exact .runRefused hstored
      | some template => exact .runAdded hstored rfl rfl

/-- A command has one effect only. -/
theorem execute_of_effect {on : Occasion} {session next : Session} {command : Command}
    {answer : Except ServiceError Json} (h : Effect on session command answer next) :
    session.execute on command = (answer, next) := by
  cases h with
  | groupRefused htags =>
      simp only [execute, createGroup, htags]
      rfl
  | groupAdded htags hgroup =>
      subst hgroup
      simp only [execute, createGroup, htags]
      rfl
  | targetAdded htarget =>
      subst htarget
      rfl
  | templateAdded htemplate =>
      subst htemplate
      rfl
  | subscriptionRefused hstored | subscribed hstored =>
      simp only [execute, subscribe, Store.template, hstored]
      rfl
  | runRefused hstored =>
      simp only [execute, startRun, Store.template, hstored]
      rfl
  | runAdded hstored hrun hfinding =>
      subst hrun hfinding
      simp only [execute, startRun, Store.template, hstored]
      rfl

theorem execute_eq_self_of_error {on : Occasion} {command : Command} {session : Session}
    {error : ServiceError} (h : (session.execute on command).1 = .error error) :
    (session.execute on command).2 = session := by
  have heffect := effect_execute on command session
  rw [h] at heffect
  generalize (session.execute on command).2 = next at heffect
  cases heffect with
  | groupRefused | subscriptionRefused | runRefused => rfl

theorem Effect.home_eq {on : Occasion} {session next : Session} {command : Command}
    {answer : Except ServiceError Json} (h : Effect on session command answer next) :
    next.store.region = session.store.region ∧ next.store.account = session.store.account := by
  cases h <;> exact ⟨rfl, rfl⟩

/-! ## Sequences of steps -/

/-- What can be done to a session: a command at some time, or a reset. -/
inductive Step where
  | command (now : Instant) (command : Command)
  | reset

def step (ids : Nat → String) (session : Session) : Step → Session
  | .command now command => (session.execute ⟨ids, now⟩ command).2
  | .reset => session.reset

def run (ids : Nat → String) (session : Session) (steps : List Step) : Session :=
  steps.foldl (step ids) session

/-- What every effect and the reset keep is kept by every sequence of steps. -/
theorem run_preserves {ids : Nat → String} {P : Session → Prop}
    (heffect : ∀ now session command answer next, P session →
      Effect ⟨ids, now⟩ session command answer next → P next)
    (hreset : ∀ session, P session → P session.reset)
    {session : Session} (h : P session) (steps : List Step) : P (session.run ids steps) := by
  induction steps generalizing session with
  | nil => exact h
  | cons step rest ih =>
      apply ih
      cases step with
      | command now command => exact heffect now session command _ _ h (effect_execute _ _ _)
      | reset => exact hreset session h

end Session

end Inspection
