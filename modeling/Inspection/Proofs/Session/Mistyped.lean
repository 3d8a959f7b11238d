import Inspection.Proofs.Request
import Inspection.Proofs.Session.Browsing

/-!
# Parameters of another kind

Every parameter that an action reads has a kind.  Most are refused when they
are given and are of another one.  Four texts that may be left out are not:
the action is then carried out as if they had been.
-/

namespace Inspection

inductive ParameterKind where
  | text
  | integer
  | list
  | object
deriving DecidableEq, Repr

namespace Json

def kind? : Json → Option ParameterKind
  | .str _ => some .text
  | .int _ => some .integer
  | .arr _ => some .list
  | .obj _ => some .object
  | .null | .bool _ | .float _ => none

/-- A parameter is given, and is not of a kind. -/
def Mistyped (parameters : Json) (name : String) (kind : ParameterKind) : Prop :=
  ∃ value, parameters.given? name = some value ∧ value.kind? ≠ some kind

def without (name : String) : Json → Json
  | .obj fields => .obj (fields.filter fun field => field.1 != name)
  | value => value

variable {parameters value : Json} {name other : String} {kind : ParameterKind}

theorem not_mistyped (h : parameters.given? name = some value) (hkind : value.kind? = some kind) :
    ¬ parameters.Mistyped name kind := by
  rintro ⟨found, hfound, hother⟩
  obtain rfl : value = found := Option.some.inj (h.symm.trans hfound)
  exact hother hkind

theorem not_mistyped_of_none (h : parameters.given? name = none) :
    ¬ parameters.Mistyped name kind := by
  rintro ⟨found, hfound, -⟩
  exact absurd (h.symm.trans hfound) (by simp)

theorem given?_without_self : (parameters.without name).given? name = none := by
  cases parameters with
  | obj fields =>
      have hnone : Keyed.get? name (fields.filter fun field => field.1 != name) = none := by
        rw [Keyed.get?_eq_none_iff]
        simp
      simp only [without, given?, field?, hnone]
  | null | bool | int | float | str | arr => rfl

theorem given?_without_ne (hne : other ≠ name) :
    (parameters.without name).given? other = parameters.given? other := by
  cases parameters with
  | obj fields =>
      simp only [without, given?, field?, Keyed.get?_filter_ne hne]
  | null | bool | int | float | str | arr => rfl

end Json

namespace Action

/-- The parameters of an action that are refused when they are of another kind. -/
def checked : Action → List (String × ParameterKind)
  | createResourceGroup => [("resourceGroupTags", .list)]
  | describeResourceGroups => [("resourceGroupArns", .list)]
  | createAssessmentTarget => [("assessmentTargetName", .text)]
  | listAssessmentTargets => [("filter", .object), ("maxResults", .integer)]
  | describeAssessmentTargets => [("assessmentTargetArns", .list)]
  | createAssessmentTemplate =>
    [("assessmentTargetArn", .text), ("assessmentTemplateName", .text),
      ("durationInSeconds", .integer), ("rulesPackageArns", .list),
      ("userAttributesForFindings", .list)]
  | listAssessmentTemplates =>
    [("assessmentTargetArns", .list), ("filter", .object), ("maxResults", .integer)]
  | describeAssessmentTemplates => [("assessmentTemplateArns", .list)]
  | subscribeToEvent => [("resourceArn", .text), ("event", .text), ("topicArn", .text)]
  | listEventSubscriptions => []
  | startAssessmentRun => [("assessmentTemplateArn", .text)]
  | listAssessmentRuns =>
    [("assessmentTemplateArns", .list), ("filter", .object), ("maxResults", .integer)]
  | describeAssessmentRuns => [("assessmentRunArns", .list)]
  | listFindings => [("assessmentRunArns", .list), ("filter", .object), ("maxResults", .integer)]
  | describeFindings => [("findingArns", .list)]
  | listRulesPackages => [("maxResults", .integer)]
  | describeRulesPackages => [("rulesPackageArns", .list)]

/-- The texts that an action reads and does not check. -/
def unchecked : Action → List String
  | createAssessmentTarget => ["resourceGroupArn"]
  | startAssessmentRun => ["assessmentRunName"]
  | listEventSubscriptions => ["resourceArn"]
  | listAssessmentTargets | listAssessmentTemplates | listAssessmentRuns | listFindings
  | listRulesPackages => ["nextToken"]
  | _ => []

theorem ne_of_mem_unchecked (action : Action) :
    ∀ name ∈ action.unchecked, ∀ entry ∈ action.checked, entry.1 ≠ name := by
  cases action <;> decide

end Action

/-! ## What is read is of its kind -/

namespace Parameters

variable {α : Type} {parameters others : Json} {name : String}

theorem text_typed {read : String} (h : text parameters name = .ok read) :
    ¬ parameters.Mistyped name .text :=
  Json.not_mistyped (text_eq_ok_iff.mp h) rfl

theorem duration_typed {read : Int} (h : duration parameters name = .ok read) :
    ¬ parameters.Mistyped name .integer :=
  Json.not_mistyped (duration_eq_ok_iff.mp h).1 rfl

theorem items?_typed {decode : Decoder α} {read : Option (List α)}
    (h : items? decode parameters name = .ok read) : ¬ parameters.Mistyped name .list := by
  rcases items?_eq_ok_iff.mp h with ⟨hnone, -⟩ | ⟨value, values, hgiven, -, hlist⟩
  · exact Json.not_mistyped_of_none hnone
  · obtain ⟨entries, rfl, -⟩ := Decoder.list_eq_ok_iff.mp hlist
    exact Json.not_mistyped hgiven rfl

theorem items_typed {decode : Decoder α} {read : List α}
    (h : items decode parameters name = .ok read) : ¬ parameters.Mistyped name .list := by
  obtain ⟨entries, hgiven, -⟩ := items_eq_ok_iff.mp h
  exact Json.not_mistyped hgiven rfl

theorem filter_typed {read : Option Filter} (h : filter parameters = .ok read) :
    ¬ parameters.Mistyped "filter" .object := by
  unfold filter at h
  split at h
  · exact Json.not_mistyped_of_none ‹_›
  · exact Json.not_mistyped ‹_› rfl
  · cases h

theorem maxResults_typed {window : Window} (h : (paging parameters).window = .ok window) :
    ¬ parameters.Mistyped "maxResults" .integer := by
  obtain ⟨size, hsize, -⟩ := Outcome.bind_eq_ok_iff.mp h
  rw [paging] at hsize
  cases hgiven : parameters.given? "maxResults" with
  | none => exact Json.not_mistyped_of_none hgiven
  | some value =>
      rw [hgiven] at hsize
      cases value with
      | int => exact Json.not_mistyped hgiven rfl
      | null | bool | float | str | arr | obj => cases hsize

theorem text?_eq_none_of_mistyped (h : parameters.Mistyped name .text) :
    text? parameters name = none := by
  obtain ⟨value, hgiven, hkind⟩ := h
  rw [text?, hgiven, Option.bind_some]
  cases value with
  | str => exact absurd rfl hkind
  | null | bool | int | float | arr | obj => rfl

end Parameters

namespace Session

open Parameters

variable {on : Occasion} {action : Action} {parameters others : Json} {session : Session}
  {name : String}

/-- What an action succeeds with is of the kinds that it checks. -/
theorem typed_of_ok {document : Json}
    (h : (session.invoke on action.name parameters).1 = .ok document) :
    ∀ entry ∈ action.checked, ¬ parameters.Mistyped entry.1 entry.2 := by
  -- all is checked in reading the request, but for the size of a page
  rw [invoke_fst] at h
  obtain ⟨request, hread, hanswer⟩ := Outcome.bind_eq_ok_iff.mp h
  cases action with
  | createResourceGroup | describeResourceGroups | describeAssessmentTargets
  | describeAssessmentTemplates | describeAssessmentRuns | describeFindings
  | describeRulesPackages =>
      obtain ⟨_, hitems, -⟩ := Outcome.bind_eq_ok_iff.mp hread
      rw [Action.checked, List.forall_mem_singleton]
      exact items_typed hitems
  | createAssessmentTarget | startAssessmentRun =>
      obtain ⟨_, htext, -⟩ := Outcome.bind_eq_ok_iff.mp hread
      rw [Action.checked, List.forall_mem_singleton]
      exact text_typed htext
  | createAssessmentTemplate =>
      obtain ⟨_, htarget, hread⟩ := Outcome.bind_eq_ok_iff.mp hread
      obtain ⟨_, hname, hread⟩ := Outcome.bind_eq_ok_iff.mp hread
      obtain ⟨_, hduration, hread⟩ := Outcome.bind_eq_ok_iff.mp hread
      obtain ⟨_, hpackages, hread⟩ := Outcome.bind_eq_ok_iff.mp hread
      obtain ⟨_, hattributes, -⟩ := Outcome.bind_eq_ok_iff.mp hread
      simp only [Action.checked, List.forall_mem_cons, List.not_mem_nil, false_imp_iff,
        implies_true, and_true]
      exact ⟨text_typed htarget, text_typed hname, duration_typed hduration,
        items?_typed hpackages, items?_typed hattributes⟩
  | subscribeToEvent =>
      obtain ⟨_, htemplate, hread⟩ := Outcome.bind_eq_ok_iff.mp hread
      obtain ⟨_, hevent, hread⟩ := Outcome.bind_eq_ok_iff.mp hread
      obtain ⟨_, htopic, -⟩ := Outcome.bind_eq_ok_iff.mp hread
      rw [Action.checked, List.forall_mem_cons, List.forall_mem_cons, List.forall_mem_singleton]
      exact ⟨text_typed htemplate, text_typed hevent, text_typed htopic⟩
  | listEventSubscriptions =>
      rw [Action.checked]
      exact List.forall_mem_nil _
  | listAssessmentTargets =>
      obtain ⟨_, hfilter, hread⟩ := Outcome.bind_eq_ok_iff.mp hread
      obtain rfl := Except.ok.inj hread
      obtain ⟨_, _, -, hwindow, -⟩ := Store.listed_eq_ok_iff.mp hanswer
      rw [Action.checked, List.forall_mem_cons, List.forall_mem_singleton]
      exact ⟨filter_typed hfilter, maxResults_typed hwindow⟩
  | listAssessmentTemplates | listAssessmentRuns | listFindings =>
      obtain ⟨_, hparents, hread⟩ := Outcome.bind_eq_ok_iff.mp hread
      obtain ⟨_, hfilter, hread⟩ := Outcome.bind_eq_ok_iff.mp hread
      obtain rfl := Except.ok.inj hread
      obtain ⟨_, _, -, hwindow, -⟩ := Store.listed_eq_ok_iff.mp hanswer
      rw [Action.checked, List.forall_mem_cons, List.forall_mem_cons, List.forall_mem_singleton]
      exact ⟨items?_typed hparents, filter_typed hfilter, maxResults_typed hwindow⟩
  | listRulesPackages =>
      obtain rfl := Except.ok.inj hread
      obtain ⟨_, _, -, hwindow, -⟩ := Store.listed_eq_ok_iff.mp hanswer
      rw [Action.checked, List.forall_mem_singleton]
      exact maxResults_typed hwindow

/-- An action depends on nothing but the parameters that it checks, and the
texts that it does not. -/
theorem invoke_congr
    (hchecked : ∀ entry ∈ action.checked, parameters.given? entry.1 = others.given? entry.1)
    (hunchecked : ∀ name ∈ action.unchecked, text? parameters name = text? others name) :
    session.invoke on action.name parameters = session.invoke on action.name others := by
  have hread : Request.read action parameters = Request.read action others := by
    cases action
    all_goals
      simp only [Action.checked, Action.unchecked, List.forall_mem_cons, List.not_mem_nil,
        false_imp_iff, implies_true, and_true] at hchecked hunchecked
      simp only [Request.read, texts, texts?, items, items?, text, duration, integer, filter,
        paging, hchecked, hunchecked]
  simp only [invoke, Action.ofName?_name, hread]

/-- Leaving out a parameter that an action does not check makes no difference,
if the action does not read it, or it is no text. -/
theorem invoke_without (hchecked : ∀ entry ∈ action.checked, entry.1 ≠ name)
    (hunchecked : name ∈ action.unchecked → parameters.Mistyped name .text) :
    session.invoke on action.name parameters =
      session.invoke on action.name (parameters.without name) := by
  apply invoke_congr
  · intro entry hentry
    exact (Json.given?_without_ne (hchecked entry hentry)).symm
  · intro other hother
    by_cases hname : other = name
    · subst hname
      rw [text?_eq_none_of_mistyped (hunchecked hother), text?, Json.given?_without_self]
      rfl
    · rw [text?, text?, Json.given?_without_ne hname]

/-- A parameter that an action checks is refused when it is of another kind.
An unchecked text that is of another kind has no effect at all, like a
parameter that the action does not read. -/
theorem mistyped_refused_when_checked (on : Occasion) (action : Action) (parameters : Json)
    (session : Session) (name : String) :
    (∀ kind, (name, kind) ∈ action.checked → parameters.Mistyped name kind →
      ∃ error, session.invoke on action.name parameters = (.error error, session)) ∧
    (name ∈ action.unchecked → parameters.Mistyped name .text →
      session.invoke on action.name parameters =
        session.invoke on action.name (parameters.without name)) ∧
    (name ∉ action.checked.map Prod.fst → name ∉ action.unchecked →
      session.invoke on action.name parameters =
        session.invoke on action.name (parameters.without name)) := by
  refine ⟨fun kind hchecked hmistyped => ?_, fun hunchecked hmistyped => ?_,
    fun hchecked hunchecked => ?_⟩
  · cases hanswer : (session.invoke on action.name parameters).1 with
    | ok document => exact absurd hmistyped (typed_of_ok hanswer _ hchecked)
    | error error =>
        exact ⟨error, Prod.ext hanswer (invoke_eq_self_of_error hanswer)⟩
  · exact invoke_without (action.ne_of_mem_unchecked name hunchecked) fun _ => hmistyped
  · apply invoke_without
    · rintro entry hentry rfl
      exact hchecked (List.mem_map_of_mem hentry)
    · exact fun hmem => absurd hmem hunchecked

/-- A number of results that is a text, a token that is a number, and a
parameter that is not read. -/
theorem mistyped_refused_when_checked_of_three_parameters :
    let on : Occasion := ⟨Decimal.ofNat, .ofSeconds 1700000000⟩
    let session := Session.start "us-east-1" "123456789012"
    (∃ error, session.invoke on "ListRulesPackages" (.obj [("maxResults", .str "2")]) =
      (.error error, session)) ∧
    session.invoke on "ListRulesPackages" (.obj [("nextToken", .int 2)]) =
      session.invoke on "ListRulesPackages" (.obj []) ∧
    session.invoke on "ListRulesPackages" (.obj [("pages", .int 2)]) =
      session.invoke on "ListRulesPackages" (.obj []) := by
  intro on session
  refine ⟨?_, ?_, ?_⟩
  · have hmistyped : (Json.obj [("maxResults", .str "2")]).Mistyped "maxResults" .integer :=
      ⟨.str "2", rfl, by decide⟩
    exact (mistyped_refused_when_checked on .listRulesPackages _ session "maxResults").1 .integer
      (by decide) hmistyped
  · have hmistyped : (Json.obj [("nextToken", .int 2)]).Mistyped "nextToken" .text :=
      ⟨.int 2, rfl, by decide⟩
    exact (mistyped_refused_when_checked on .listRulesPackages _ session "nextToken").2.1
      (by decide) hmistyped
  · exact (mistyped_refused_when_checked on .listRulesPackages (.obj [("pages", .int 2)]) session
      "pages").2.2 (by decide) (by decide)

/-- Each of the unchecked texts is a number here, and nothing is refused. -/
theorem mistyped_texts_pass :
    let on : Occasion := ⟨fun n => String.ofList (List.replicate (n + 1) 'a'),
      .ofSeconds 1700000000⟩
    let session := ((start "us-east-1" "123456789012").invoke on "CreateAssessmentTemplate"
      (.obj [("assessmentTargetArn", .str "target"), ("assessmentTemplateName", .str "weekly"),
        ("durationInSeconds", .int 900)])).2
    let group : Json := .obj [("assessmentTargetName", .str "web"), ("resourceGroupArn", .int 5)]
    let run : Json :=
      .obj [("assessmentTemplateArn", .str "target/template/0-a"), ("assessmentRunName", .int 5)]
    let topics : Json := .obj [("resourceArn", .int 5)]
    let page : Json := .obj [("nextToken", .int 2)]
    (group.Mistyped "resourceGroupArn" .text ∧
      (session.invoke on "CreateAssessmentTarget" group).1 = .ok (named "assessmentTargetArn"
        "arn:aws:inspector:us-east-1:123456789012:target/0-aa")) ∧
    (run.Mistyped "assessmentRunName" .text ∧
      (session.invoke on "StartAssessmentRun" run).1 =
        .ok (named "assessmentRunArn" "target/template/0-a/run/0-aa")) ∧
    (topics.Mistyped "resourceArn" .text ∧
      (session.invoke on "ListEventSubscriptions" topics).1 =
        .ok (.obj [("subscriptions", .arr [])])) ∧
    (page.Mistyped "nextToken" .text ∧
      (session.invoke on "ListAssessmentTemplates" page).1 =
        .ok (.obj [("assessmentTemplateArns", .texts ["target/template/0-a"])])) := by
  intro on session group run topics page
  refine ⟨⟨?_, ?_⟩, ⟨?_, ?_⟩, ⟨?_, ?_⟩, ⟨?_, ?_⟩⟩
  · exact ⟨.int 5, rfl, by decide⟩
  · rfl
  · exact ⟨.int 5, rfl, by decide⟩
  · rfl
  · exact ⟨.int 5, rfl, by decide⟩
  · rfl
  · exact ⟨.int 2, rfl, by decide⟩
  · rfl

end Session

end Inspection
