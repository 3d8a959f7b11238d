import Inspection.Proofs.Session.Mistyped

/-!
# What an action depends on

An action reads some of its parameters, and nothing else that is given with them
makes a difference to it.  The parameters that it reads are exactly those that
can make one: for each there is a session in which the action then does or
answers something else.
-/

namespace Inspection

namespace Json

/-- Parameters agree on some names, where a null counts as absent. -/
def AgreeOn (names : List String) (parameters others : Json) : Prop :=
  ∀ name ∈ names, parameters.given? name = others.given? name

/-- Sets a field.  What is not an object has no other fields. -/
def put (parameters : Json) (name : String) (value : Json) : Json :=
  match parameters.without name with
  | .obj fields => .obj ((name, value) :: fields)
  | _ => .obj [(name, value)]

variable {parameters value : Json} {name other : String}

theorem given?_put_self (hvalue : value ≠ .null) :
    (parameters.put name value).given? name = some value := by
  have hfield : (parameters.put name value).field? name = some value := by
    cases parameters <;> simp [put, without, field?, Keyed.get?]
  rw [given?, hfield]
  cases value with
  | null => exact absurd rfl hvalue
  | bool | int | float | str | arr | obj => rfl

theorem given?_put_null : (parameters.put name .null).given? name = none := by
  cases parameters <;> simp [put, without, given?, field?, Keyed.get?]

theorem given?_put_ne (hne : other ≠ name) :
    (parameters.put name value).given? other = parameters.given? other := by
  have hwithout : (parameters.without name).given? other = parameters.given? other :=
    given?_without_ne hne
  rw [← hwithout]
  cases parameters <;> simp [put, without, given?, field?, Keyed.get?, hne.symm]

theorem mistyped_put_bool {kind : ParameterKind} :
    (parameters.put name (.bool true)).Mistyped name kind :=
  ⟨.bool true, given?_put_self (by simp), by simp [kind?]⟩

theorem given?_eq_none_of_not_obj (h : ∀ fields, parameters ≠ .obj fields) (name : String) :
    parameters.given? name = none := by
  cases parameters with
  | obj fields => exact absurd rfl (h fields)
  | null | bool | int | float | str | arr => rfl

end Json

namespace Action

/-- The parameters that an action reads. -/
def reads (action : Action) : List String :=
  action.checked.map Prod.fst ++ action.unchecked

/-- The parameters that are read under a name; an unknown name reads none. -/
def readBy (name : String) : List String :=
  ((ofName? name).map reads).getD []

theorem readBy_name (action : Action) : readBy action.name = action.reads := by
  rw [readBy, ofName?_name]
  rfl

/-- Somewhere it makes a difference to an action how a parameter is given. -/
def DependsOn (action : Action) (key : String) : Prop :=
  ∃ (on : Occasion) (session : Session) (parameters value : Json),
    session.invoke on action.name (parameters.put key value) ≠
      session.invoke on action.name parameters

end Action

namespace Session

variable {on : Occasion} {name key : String} {parameters others value : Json} {session : Session}

theorem invoke_eq_of_agreeOn (h : parameters.AgreeOn (Action.readBy name) others) :
    session.invoke on name parameters = session.invoke on name others := by
  cases haction : Action.ofName? name with
  | none => simp only [invoke, haction]
  | some action =>
      obtain rfl := Action.name_of_ofName?_eq_some haction
      rw [Action.readBy_name] at h
      apply invoke_congr
      · intro entry hentry
        exact h entry.1 (List.mem_append_left _ (List.mem_map_of_mem hentry))
      · intro text htext
        rw [Parameters.text?, Parameters.text?, h text (List.mem_append_right _ htext)]

theorem invoke_put_of_notMem (hkey : key ∉ Action.readBy name) :
    session.invoke on name (parameters.put key value) = session.invoke on name parameters := by
  apply invoke_eq_of_agreeOn
  intro other hother
  apply Json.given?_put_ne
  rintro rfl
  exact hkey hother

theorem invoke_put_null (habsent : parameters.given? key = none) :
    session.invoke on name (parameters.put key .null) = session.invoke on name parameters := by
  apply invoke_eq_of_agreeOn
  intro other _
  by_cases hother : other = key
  · rw [hother, Json.given?_put_null, habsent]
  · exact Json.given?_put_ne hother

theorem invoke_of_not_obj (h : ∀ fields, parameters ≠ .obj fields) :
    session.invoke on name parameters = session.invoke on name (.obj []) := by
  apply invoke_eq_of_agreeOn
  intro other _
  rw [Json.given?_eq_none_of_not_obj h]
  rfl

/-! ## Every parameter that is read matters -/

/-- A time, with ids that are all the same. -/
def quiet : Occasion :=
  ⟨fun _ => "a", .ofSeconds 1700000000⟩

/-- A session with one template. -/
def withTemplate : Session :=
  ((start "us-east-1" "123456789012").execute quiet
    (.createAssessmentTemplate "target" "web" 900 [] [])).2

/-- Parameters with which an action succeeds there. -/
def accepted : Action → Json
  | .createResourceGroup => .obj [("resourceGroupTags", .arr [])]
  | .describeResourceGroups => .obj [("resourceGroupArns", .arr [])]
  | .createAssessmentTarget => .obj [("assessmentTargetName", .str "web")]
  | .describeAssessmentTargets => .obj [("assessmentTargetArns", .arr [])]
  | .createAssessmentTemplate =>
    .obj [("assessmentTargetArn", .str "target"), ("assessmentTemplateName", .str "web"),
      ("durationInSeconds", .int 900)]
  | .describeAssessmentTemplates => .obj [("assessmentTemplateArns", .arr [])]
  | .subscribeToEvent =>
    .obj [("resourceArn", .str "target/template/0-a"), ("event", .str "FINDING_REPORTED"),
      ("topicArn", .str "topic")]
  | .startAssessmentRun => .obj [("assessmentTemplateArn", .str "target/template/0-a")]
  | .describeAssessmentRuns => .obj [("assessmentRunArns", .arr [])]
  | .describeFindings => .obj [("findingArns", .arr [])]
  | .describeRulesPackages => .obj [("rulesPackageArns", .arr [])]
  | .listAssessmentTargets | .listAssessmentTemplates | .listEventSubscriptions
  | .listAssessmentRuns | .listFindings | .listRulesPackages => .obj []

theorem exists_answer_accepted (action : Action) :
    ∃ document, (withTemplate.invoke quiet action.name (accepted action)).1 = .ok document := by
  cases action <;> exact ⟨_, rfl⟩

/-- A truth value is of no kind that is checked. -/
theorem invoke_put_checked {action : Action} {entry : String × ParameterKind}
    (hentry : entry ∈ action.checked) :
    withTemplate.invoke quiet action.name ((accepted action).put entry.1 (.bool true)) ≠
      withTemplate.invoke quiet action.name (accepted action) := by
  intro heq
  obtain ⟨document, hdocument⟩ := exists_answer_accepted action
  rw [← heq] at hdocument
  exact typed_of_ok hdocument entry hentry Json.mistyped_put_bool

theorem invoke_put_unchecked {action : Action} (hkey : key ∈ action.unchecked) :
    withTemplate.invoke quiet action.name ((accepted action).put key (.str "other")) ≠
      withTemplate.invoke quiet action.name (accepted action) := by
  intro heq
  cases action with
  | createAssessmentTarget =>
      obtain rfl := List.mem_singleton.mp hkey
      have hgroups := congrArg
        (fun outcome => outcome.2.store.targets.values.map (·.resourceGroupArn)) heq
      exact absurd hgroups (by decide)
  | startAssessmentRun =>
      obtain rfl := List.mem_singleton.mp hkey
      have hnames := congrArg (fun outcome => outcome.2.store.runs.values.map (·.name)) heq
      exact absurd hnames (by decide)
  | listEventSubscriptions | listAssessmentTargets | listAssessmentTemplates | listAssessmentRuns
  | listFindings | listRulesPackages =>
      obtain rfl := List.mem_singleton.mp hkey
      cases congrArg Prod.fst heq
  | _ => cases hkey

theorem dependsOn_iff {action : Action} : action.DependsOn key ↔ key ∈ action.reads := by
  constructor
  · rintro ⟨on, session, parameters, value, hne⟩
    by_contra hkey
    rw [← Action.readBy_name] at hkey
    exact hne (invoke_put_of_notMem hkey)
  · intro hkey
    rcases List.mem_append.mp hkey with hchecked | hunchecked
    · obtain ⟨entry, hentry, rfl⟩ := List.mem_map.mp hchecked
      exact ⟨quiet, withTemplate, accepted action, .bool true, invoke_put_checked hentry⟩
    · exact ⟨quiet, withTemplate, accepted action, .str "other", invoke_put_unchecked hunchecked⟩

/-- Parameters that agree on what an action reads have the same answer, and lead
to the same session, with the same ids drawn.  So a parameter that is not read,
or a null for one that is not given, changes nothing, and what is not an object
is as an empty one.  No fewer parameters would do: each that is read makes a
difference somewhere. -/
theorem actions_act_on_what_they_read (on : Occasion) (session : Session) (name : String)
    (parameters : Json) :
    (∀ others, parameters.AgreeOn (Action.readBy name) others →
      session.invoke on name parameters = session.invoke on name others) ∧
    (∀ key value, key ∉ Action.readBy name →
      session.invoke on name (parameters.put key value) = session.invoke on name parameters) ∧
    (∀ key, parameters.given? key = none →
      session.invoke on name (parameters.put key .null) = session.invoke on name parameters) ∧
    ((∀ fields, parameters ≠ .obj fields) →
      session.invoke on name parameters = session.invoke on name (.obj [])) ∧
    (∀ action : Action, ∀ key, action.DependsOn key ↔ key ∈ Action.readBy action.name) := by
  refine ⟨fun others => invoke_eq_of_agreeOn, fun key value => invoke_put_of_notMem,
    fun key => invoke_put_null, invoke_of_not_obj, fun action key => ?_⟩
  rw [Action.readBy_name]
  exact dependsOn_iff

/-- Two pages of runs that differ in a null and in a parameter of another
action, and parameters that are a list. -/
theorem actions_act_on_what_they_read_of_listed_runs :
    let page : Json := .obj [("maxResults", .int 1)]
    let others : Json :=
      .obj [("findingArns", .arr []), ("maxResults", .int 1), ("filter", .null)]
    withTemplate.invoke quiet "ListAssessmentRuns" page =
      withTemplate.invoke quiet "ListAssessmentRuns" others ∧
    withTemplate.invoke quiet "ListAssessmentRuns" (page.put "findingArns" (.arr [])) =
      withTemplate.invoke quiet "ListAssessmentRuns" page ∧
    withTemplate.invoke quiet "ListAssessmentRuns" (page.put "nextToken" .null) =
      withTemplate.invoke quiet "ListAssessmentRuns" page ∧
    withTemplate.invoke quiet "ListAssessmentRuns" (.arr [page]) =
      withTemplate.invoke quiet "ListAssessmentRuns" (.obj []) ∧
    Action.listAssessmentRuns.DependsOn "nextToken" := by
  intro page others
  have hpage := actions_act_on_what_they_read quiet withTemplate "ListAssessmentRuns" page
  have hlist := actions_act_on_what_they_read quiet withTemplate "ListAssessmentRuns" (.arr [page])
  refine ⟨hpage.1 others ?_, hpage.2.1 "findingArns" _ (by decide),
    hpage.2.2.1 "nextToken" (by rfl), hlist.2.2.2.1 (fun _ h => nomatch h),
    (hpage.2.2.2.2 .listAssessmentRuns "nextToken").mpr (by decide)⟩
  intro key hkey
  have hkeys : key ∈ ["assessmentTemplateArns", "filter", "maxResults", "nextToken"] := hkey
  simp only [List.mem_cons, List.not_mem_nil, or_false] at hkeys
  rcases hkeys with rfl | rfl | rfl | rfl <;> rfl

end Session

end Inspection
