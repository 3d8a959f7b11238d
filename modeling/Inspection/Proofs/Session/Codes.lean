import Inspection.Proofs.Session.Invocation
import Inspection.Proofs.Store.Selection

/-!
# Codes of refusals

An action is refused for its name, its parameters, or an entity that is not
there.  Which codes that gives is said stage by stage: reading the parameters,
looking into the store, and executing a command.
-/

namespace Inspection

/-- A computation that is refused only with some codes. -/
def RefusedWith {α : Type} (codes : List ErrorCode) (x : Except ServiceError α) : Prop :=
  ∀ error, x = .error error → error.code ∈ codes

namespace RefusedWith

variable {α β : Type} {codes wider : List ErrorCode} {x : Except ServiceError α}

theorem ok (value : α) : RefusedWith codes (.ok value) :=
  fun _ h => nomatch h

theorem error {error : ServiceError} (h : error.code ∈ codes) :
    RefusedWith codes (.error error : Except ServiceError α) := by
  intro other hother
  obtain rfl := Except.error.inj hother
  exact h

theorem mono (h : RefusedWith codes x) (hcodes : codes ⊆ wider) : RefusedWith wider x :=
  fun error herror => hcodes (h error herror)

theorem bind {f : α → Except ServiceError β} (h : RefusedWith codes x)
    (hf : ∀ value, RefusedWith codes (f value)) : RefusedWith codes (x >>= f) := by
  intro error herror
  rcases Outcome.bind_eq_error_iff.mp herror with hx | ⟨value, -, hvalue⟩
  · exact h error hx
  · exact hf value error hvalue

theorem map {f : α → β} (h : RefusedWith codes x) : RefusedWith codes (x.map f) := by
  cases x with
  | ok value => exact ok (f value)
  | error reason => exact error (h reason rfl)

end RefusedWith

namespace Parameters

variable {α : Type} (decode : Decoder α) (parameters : Json) (name : String)

theorem text_refusedWith : RefusedWith [.invalidInput] (text parameters name) := by
  unfold text
  split
  · exact .ok _
  · exact .error (List.mem_singleton_self _)

theorem integer_refusedWith : RefusedWith [.invalidInput] (integer parameters name) := by
  unfold integer
  split
  · exact .error (List.mem_singleton_self _)
  · split
    · exact .ok _
    · exact .error (List.mem_singleton_self _)

theorem duration_refusedWith : RefusedWith [.invalidInput] (duration parameters name) := by
  refine (integer_refusedWith parameters name).bind fun seconds => ?_
  split
  · exact .ok _
  · exact .error (List.mem_singleton_self _)

theorem items?_refusedWith : RefusedWith [.invalidInput] (items? decode parameters name) := by
  unfold items?
  split
  · exact .ok _
  · split
    · exact .ok _
    · exact .error (List.mem_singleton_self _)

theorem items_refusedWith : RefusedWith [.invalidInput] (items decode parameters name) := by
  refine (items?_refusedWith decode parameters name).bind fun found => ?_
  split
  · exact .ok _
  · exact .error (List.mem_singleton_self _)

theorem filter_refusedWith : RefusedWith [.invalidFilterValue] (filter parameters) := by
  unfold filter
  split
  · exact .ok _
  · exact .ok _
  · exact .error (List.mem_singleton_self _)

end Parameters

namespace Request

open Parameters

/-- Parents and filter are read before a listing is made. -/
theorem listing_refusedWith {α : Type} (parameters : Json) (name : String)
    (f : Option (List String) → Option Filter → α) :
    RefusedWith [.invalidInput, .invalidFilterValue] (do
      let parents ← texts? parameters name
      let filter ← filter parameters
      return f parents filter) := by
  refine ((items?_refusedWith _ parameters name).mono (by simp)).bind fun parents => ?_
  exact ((filter_refusedWith parameters).mono (by simp)).bind fun filter => .ok _

/-- The parameters of a command have no filter. -/
theorem read_refusedWith_of_command {action : Action} (parameters : Json)
    (h : ¬ Action.NamesQuestion action.name) :
    RefusedWith [.invalidInput] (read action parameters) := by
  cases action
  case createResourceGroup =>
    exact (items_refusedWith _ parameters _).bind fun _ => .ok _
  case createAssessmentTarget | startAssessmentRun =>
    exact (text_refusedWith parameters _).bind fun _ => .ok _
  case createAssessmentTemplate =>
    refine (text_refusedWith parameters _).bind fun targetArn => ?_
    refine (text_refusedWith parameters _).bind fun name => ?_
    refine (duration_refusedWith parameters _).bind fun duration => ?_
    refine (items?_refusedWith _ parameters _).bind fun packages => ?_
    exact (items?_refusedWith _ parameters _).bind fun attributes => .ok _
  case subscribeToEvent =>
    refine (text_refusedWith parameters _).bind fun templateArn => ?_
    refine (text_refusedWith parameters _).bind fun event => ?_
    exact (text_refusedWith parameters _).bind fun topicArn => .ok _
  all_goals exact absurd (by decide) h

/-- Parameters are refused as faulty input, or because of the filter. -/
theorem read_refusedWith (action : Action) (parameters : Json) :
    RefusedWith [.invalidInput, .invalidFilterValue] (read action parameters) := by
  have hinput : [ErrorCode.invalidInput] ⊆ [.invalidInput, .invalidFilterValue] := by simp
  cases action with
  | createResourceGroup | createAssessmentTarget | createAssessmentTemplate | subscribeToEvent
  | startAssessmentRun =>
      exact (read_refusedWith_of_command parameters (by decide)).mono hinput
  | describeResourceGroups | describeAssessmentTargets | describeAssessmentTemplates
  | describeAssessmentRuns | describeFindings | describeRulesPackages =>
      exact ((items_refusedWith _ parameters _).bind fun _ => .ok _).mono hinput
  | listAssessmentTargets =>
      exact ((filter_refusedWith parameters).mono (by simp)).bind fun filter => .ok _
  | listAssessmentTemplates | listAssessmentRuns | listFindings =>
      exact listing_refusedWith parameters _ _
  | listEventSubscriptions | listRulesPackages => exact .ok _

end Request

namespace Store

theorem select_refusedWith {E : Type} (rules : List (Rule E)) (parent : E → String)
    (table : Table E) (parents : Option (List String)) (filter : Option Filter) :
    RefusedWith [.invalidFilterValue] (select rules parent table parents filter) := by
  intro error herror
  obtain ⟨given, -, hrefuses, entity, -, -⟩ := select_eq_error_iff.mp herror
  obtain ⟨_, found, _, -, -, -, rfl⟩ := Filter.accepts_eq_error_iff.mp (hrefuses entity)
  exact List.mem_singleton_self _

theorem listTargets_refusedWith (store : Store) (filter : Option Filter) :
    RefusedWith [.invalidFilterValue] (store.listTargets filter) := by
  cases filter with
  | none => exact .ok _
  | some filter =>
      refine RefusedWith.bind ?_ fun pattern => .ok _
      unfold Filter.targetPattern
      split
      · split
        · split
          · exact .ok _
          · exact .error (List.mem_singleton_self _)
        · exact .error (List.mem_singleton_self _)
      · exact .error (List.mem_singleton_self _)

theorem template_refusedWith (store : Store) (arn : String) :
    RefusedWith [.noSuchEntity] (store.template arn) := by
  unfold template
  split
  · exact .ok _
  · exact .error (List.mem_singleton_self _)

theorem window_refusedWith (paging : Paging) : RefusedWith [.invalidInput] paging.window := by
  refine RefusedWith.bind ?_ fun size => RefusedWith.bind ?_ fun offset => .ok _
  · unfold Paging.size
    split
    · exact .ok _
    · split
      · exact .ok _
      · exact .error (List.mem_singleton_self _)
  · unfold Paging.offset
    split
    · exact .ok _
    · split
      · exact .ok _
      · exact .error (List.mem_singleton_self _)

theorem listed_refusedWith (name : String) (paging : Paging)
    {listing : Except ServiceError (List String)}
    (h : RefusedWith [.invalidFilterValue] listing) :
    RefusedWith [.invalidInput, .invalidFilterValue, .noSuchEntity]
      (listed name paging listing) := by
  refine (h.mono (by simp)).bind fun results => ?_
  exact ((window_refusedWith paging).mono (by simp)).bind fun window => .ok _

theorem answer_refusedWith (store : Store) (query : Query) :
    RefusedWith [.invalidInput, .invalidFilterValue, .noSuchEntity] (store.answer query) := by
  cases query with
  | describeResourceGroups | describeAssessmentTargets | describeAssessmentTemplates
  | describeAssessmentRuns | describeFindings | describeRulesPackages => exact .ok _
  | listAssessmentTargets filter paging =>
      exact listed_refusedWith _ paging (store.listTargets_refusedWith filter)
  | listAssessmentTemplates parents filter paging | listAssessmentRuns parents filter paging
  | listFindings parents filter paging =>
      exact listed_refusedWith _ paging (select_refusedWith _ _ _ parents filter)
  | listRulesPackages paging => exact listed_refusedWith _ paging (.ok _)
  | listEventSubscriptions templateArn =>
      refine RefusedWith.map ?_
      cases templateArn with
      | none => exact .ok _
      | some arn => exact ((store.template_refusedWith arn).map).mono (by simp)

end Store

namespace Session

theorem Effect.refusedWith {on : Occasion} {session next : Session} {command : Command}
    {answer : Except ServiceError Json} (h : Effect on session command answer next) :
    RefusedWith [.invalidFilterKey, .noSuchEntity] answer := by
  cases h with
  | groupAdded | targetAdded | templateAdded | subscribed | runAdded => exact .ok _
  | groupRefused => exact .error (by simp [ServiceError.code])
  | subscriptionRefused | runRefused => exact .error (by simp [ServiceError.code])

/-- The codes with which actions are refused: none of them is about the region
or the body of a request. -/
theorem invoke_refusedWith (on : Occasion) (name : String) (parameters : Json)
    (session : Session) :
    RefusedWith [.unknownOperation, .invalidInput, .invalidFilterValue, .invalidFilterKey,
      .noSuchEntity] (session.invoke on name parameters).1 := by
  cases haction : Action.ofName? name with
  | none =>
      simp only [invoke, haction]
      exact .error List.mem_cons_self
  | some action =>
      obtain rfl := Action.name_of_ofName?_eq_some haction
      rw [invoke_fst]
      refine ((Request.read_refusedWith action parameters).mono (by simp)).bind fun request => ?_
      cases request with
      | query query => exact (session.store.answer_refusedWith query).mono (by simp)
      | command command => exact (effect_execute on command session).refusedWith.mono (by simp)

end Session

end Inspection
