import Inspection.Proofs.Outcome
import Inspection.Proofs.Session.Effect

/-!
# Invoking actions by name

An invocation either carries out the command that its parameters read as, or
leaves the session alone: when the name is unknown, when a parameter is
refused, and when the action only asks.
-/

namespace Inspection

theorem Action.ofName?_name (action : Action) : ofName? action.name = some action := by
  cases action <;> decide

theorem Action.name_of_ofName?_eq_some {name : String} {action : Action}
    (h : ofName? name = some action) : action.name = name := by
  simpa using List.find?_some h

/-- A name as the actions have it that list or describe. -/
def Action.NamesQuestion (name : String) : Prop :=
  "List".toList <+: name.toList ∨ "Describe".toList <+: name.toList

instance (name : String) : Decidable (Action.NamesQuestion name) :=
  inferInstanceAs (Decidable (_ ∨ _))

/-- The action that a command carries out. -/
def Command.action : Command → Action
  | .createResourceGroup _ => .createResourceGroup
  | .createAssessmentTarget _ _ => .createAssessmentTarget
  | .createAssessmentTemplate _ _ _ _ _ => .createAssessmentTemplate
  | .subscribeToEvent _ _ _ => .subscribeToEvent
  | .startAssessmentRun _ _ => .startAssessmentRun

theorem Request.action_of_read_command {action : Action} {parameters : Json} {command : Command}
    (h : read action parameters = .ok (.command command)) : command.action = action := by
  cases action
  case createResourceGroup | createAssessmentTarget | createAssessmentTemplate | subscribeToEvent |
      startAssessmentRun =>
    simp only [read, Outcome.bind_eq_ok_iff, pure, Except.pure, Except.ok.injEq,
      Request.command.injEq] at h
    first
      | obtain ⟨_, -, rfl⟩ := h
        rfl
      | obtain ⟨_, -, _, -, _, -, rfl⟩ := h
        rfl
      | obtain ⟨_, -, _, -, _, -, _, -, _, -, rfl⟩ := h
        rfl
  all_goals simp [read, Outcome.bind_eq_ok_iff, pure, Except.pure] at h

theorem Request.not_namesQuestion_of_read_command {action : Action} {parameters : Json}
    {command : Command} (h : read action parameters = .ok (.command command)) :
    ¬ Action.NamesQuestion action.name := by
  rw [← action_of_read_command h]
  cases command <;> (rw [Command.action]; decide)

/-- What is read as a question is none of the actions that carry out a command. -/
theorem Request.namesQuestion_of_read_query {action : Action} {parameters : Json} {query : Query}
    (h : read action parameters = .ok (.query query)) : Action.NamesQuestion action.name := by
  cases action
  case createResourceGroup | createAssessmentTarget | createAssessmentTemplate | subscribeToEvent |
      startAssessmentRun =>
    simp [read, Outcome.bind_eq_ok_iff, pure, Except.pure] at h
  all_goals decide

namespace Session

variable {on : Occasion} {name : String} {parameters : Json} {session : Session}

theorem invoke_of_read {action : Action} {request : Request}
    (hread : Request.read action parameters = .ok request) :
    session.invoke on action.name parameters = session.perform on request := by
  simp only [invoke, Action.ofName?_name, hread]

theorem invoke_of_read_error {action : Action} {error : ServiceError}
    (hread : Request.read action parameters = .error error) :
    session.invoke on action.name parameters = (.error error, session) := by
  simp only [invoke, Action.ofName?_name, hread]

/-- The answer to an action is that to what its parameters read as. -/
theorem invoke_fst (on : Occasion) (action : Action) (parameters : Json) (session : Session) :
    (session.invoke on action.name parameters).1 =
      Request.read action parameters >>= fun request => (session.perform on request).1 := by
  cases hread : Request.read action parameters with
  | error error => rw [invoke_of_read_error hread]; rfl
  | ok request => rw [invoke_of_read hread]; rfl

/-- An invocation is refused before anything is done, or carries out what its
parameters read as. -/
theorem invoke_outcomes (on : Occasion) (name : String) (parameters : Json) (session : Session) :
    (∃ error, session.invoke on name parameters = (.error error, session)) ∨
      ∃ action request, Action.ofName? name = some action ∧
        Request.read action parameters = .ok request ∧
        session.invoke on name parameters = session.perform on request := by
  cases haction : Action.ofName? name with
  | none => exact .inl ⟨.unknownOperation name, by simp only [invoke, haction]⟩
  | some action =>
      obtain rfl := Action.name_of_ofName?_eq_some haction
      cases hread : Request.read action parameters with
      | error error => exact .inl ⟨error, invoke_of_read_error hread⟩
      | ok request => exact .inr ⟨action, request, rfl, hread, invoke_of_read hread⟩

theorem invoke_cases (on : Occasion) (name : String) (parameters : Json) (session : Session) :
    (session.invoke on name parameters).2 = session ∨
      ∃ action command, Action.ofName? name = some action ∧
        Request.read action parameters = .ok (.command command) ∧
        session.invoke on name parameters = session.execute on command := by
  rcases invoke_outcomes on name parameters session with
    ⟨error, hrefused⟩ | ⟨action, request, haction, hread, hperform⟩
  · exact .inl (congrArg Prod.snd hrefused)
  · cases request with
    | query query => exact .inl (congrArg Prod.snd hperform)
    | command command => exact .inr ⟨action, command, haction, hread, hperform⟩

theorem invoke_eq_self_of_error {error : ServiceError}
    (h : (session.invoke on name parameters).1 = .error error) :
    (session.invoke on name parameters).2 = session := by
  rcases invoke_cases on name parameters session with hself | ⟨_, _, _, _, hexecute⟩
  · exact hself
  · rw [hexecute] at h ⊢
    exact execute_eq_self_of_error h

theorem invoke_home_eq (on : Occasion) (name : String) (parameters : Json) (session : Session) :
    (session.invoke on name parameters).2.store.region = session.store.region ∧
      (session.invoke on name parameters).2.store.account = session.store.account := by
  rcases invoke_cases on name parameters session with hself | ⟨_, command, _, _, hexecute⟩
  · rw [hself]
    exact ⟨rfl, rfl⟩
  · rw [hexecute]
    exact (effect_execute on command session).home_eq

/-- Listing and describing change nothing, whatever they answer. -/
theorem invoke_eq_self_of_namesQuestion (h : Action.NamesQuestion name) :
    (session.invoke on name parameters).2 = session := by
  rcases invoke_cases on name parameters session with hself | ⟨action, _, haction, hread, _⟩
  · exact hself
  · obtain rfl := Action.name_of_ofName?_eq_some haction
    exact absurd h (Request.not_namesQuestion_of_read_command hread)

end Session

end Inspection
