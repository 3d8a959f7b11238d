import Inspection.Action
import Inspection.Filter
import Inspection.Paging

/-!
# Requests

What a client asks for: an action with its parameters, read from a JSON object.
A parameter that is null counts as absent.  The parameters of an action are
read in a fixed order, and the first fault is the answer.
-/

namespace Inspection

/-- A request that only asks. -/
inductive Query where
  | describeResourceGroups (arns : List String)
  | listAssessmentTargets (filter : Option Filter) (paging : Paging)
  | describeAssessmentTargets (arns : List String)
  | listAssessmentTemplates (targets : Option (List String)) (filter : Option Filter)
      (paging : Paging)
  | describeAssessmentTemplates (arns : List String)
  | listEventSubscriptions (templateArn : Option String)
  | listAssessmentRuns (templates : Option (List String)) (filter : Option Filter)
      (paging : Paging)
  | describeAssessmentRuns (arns : List String)
  | listFindings (runs : Option (List String)) (filter : Option Filter) (paging : Paging)
  | describeFindings (arns : List String)
  | listRulesPackages (paging : Paging)
  | describeRulesPackages (arns : List String)

/-- A request that adds to the store. -/
inductive Command where
  | createResourceGroup (tags : List TagEntry)
  | createAssessmentTarget (name : String) (resourceGroupArn : Option String)
  | createAssessmentTemplate (targetArn name : String) (duration : Int)
      (rulesPackageArns : List String) (attributes : List Attribute)
  | subscribeToEvent (templateArn event topicArn : String)
  | startAssessmentRun (templateArn : String) (name : Option String)

inductive Request where
  | query (query : Query)
  | command (command : Command)

namespace Parameters

def text (parameters : Json) (name : String) : Except ServiceError String :=
  match parameters.given? name with
  | some (.str value) => .ok value
  | _ => .error (.missingParameter name)

/-- A text that may be given; a value of another kind counts as absent. -/
def text? (parameters : Json) (name : String) : Option String :=
  (parameters.given? name).bind Json.text?

/-- An integer literal of 64 bits that must be given. -/
def integer (parameters : Json) (name : String) : Except ServiceError Int :=
  match parameters.given? name with
  | none => .error (.missingParameter name)
  | some value =>
    match value.signed? with
    | some n => .ok n
    | none => .error (.notAnInteger name)

def items? {α : Type} (decode : Decoder α) (parameters : Json) (name : String) :
    Except ServiceError (Option (List α)) :=
  match parameters.given? name with
  | none => .ok none
  | some value =>
    match Decoder.list decode value with
    | .ok items => .ok (some items)
    | .error fault => .error (.malformedParameter name fault)

def items {α : Type} (decode : Decoder α) (parameters : Json) (name : String) :
    Except ServiceError (List α) := do
  match ← items? decode parameters name with
  | some items => return items
  | none => .error (.missingParameter name)

def texts? (parameters : Json) (name : String) : Except ServiceError (Option (List String)) :=
  items? Decoder.text parameters name

def texts (parameters : Json) (name : String) : Except ServiceError (List String) :=
  items Decoder.text parameters name

/-- The filter, which may be given and is an object. -/
def filter (parameters : Json) : Except ServiceError (Option Filter) :=
  match parameters.given? "filter" with
  | none => .ok none
  | some (.obj fields) => .ok (some fields)
  | some _ => .error .filterNotObject

/-- What is said about paging; it is judged when the listing is at hand. -/
def paging (parameters : Json) : Paging :=
  ⟨parameters.given? "maxResults", text? parameters "nextToken"⟩

def duration (parameters : Json) (name : String) : Except ServiceError Int := do
  let seconds ← integer parameters name
  if (shortestDuration : Int) ≤ seconds ∧ seconds ≤ longestDuration then
    return seconds
  else
    .error .durationOutOfRange

end Parameters

namespace Request

open Parameters

def read (action : Action) (parameters : Json) : Except ServiceError Request :=
  match action with
  | .createResourceGroup => do
    let tags ← items TagEntry.decode parameters "resourceGroupTags"
    return .command (.createResourceGroup tags)
  | .describeResourceGroups => do
    let arns ← texts parameters "resourceGroupArns"
    return .query (.describeResourceGroups arns)
  | .createAssessmentTarget => do
    let name ← text parameters "assessmentTargetName"
    return .command (.createAssessmentTarget name (text? parameters "resourceGroupArn"))
  | .listAssessmentTargets => do
    let filter ← filter parameters
    return .query (.listAssessmentTargets filter (paging parameters))
  | .describeAssessmentTargets => do
    let arns ← texts parameters "assessmentTargetArns"
    return .query (.describeAssessmentTargets arns)
  | .createAssessmentTemplate => do
    let targetArn ← text parameters "assessmentTargetArn"
    let name ← text parameters "assessmentTemplateName"
    let duration ← duration parameters "durationInSeconds"
    let packages ← texts? parameters "rulesPackageArns"
    let attributes ← items? Attribute.decode parameters "userAttributesForFindings"
    return .command (.createAssessmentTemplate targetArn name duration (packages.getD [])
      (attributes.getD []))
  | .listAssessmentTemplates => do
    let targets ← texts? parameters "assessmentTargetArns"
    let filter ← filter parameters
    return .query (.listAssessmentTemplates targets filter (paging parameters))
  | .describeAssessmentTemplates => do
    let arns ← texts parameters "assessmentTemplateArns"
    return .query (.describeAssessmentTemplates arns)
  | .subscribeToEvent => do
    let templateArn ← text parameters "resourceArn"
    let event ← text parameters "event"
    let topicArn ← text parameters "topicArn"
    return .command (.subscribeToEvent templateArn event topicArn)
  | .listEventSubscriptions =>
    return .query (.listEventSubscriptions (text? parameters "resourceArn"))
  | .startAssessmentRun => do
    let templateArn ← text parameters "assessmentTemplateArn"
    return .command (.startAssessmentRun templateArn (text? parameters "assessmentRunName"))
  | .listAssessmentRuns => do
    let templates ← texts? parameters "assessmentTemplateArns"
    let filter ← filter parameters
    return .query (.listAssessmentRuns templates filter (paging parameters))
  | .describeAssessmentRuns => do
    let arns ← texts parameters "assessmentRunArns"
    return .query (.describeAssessmentRuns arns)
  | .listFindings => do
    let runs ← texts? parameters "assessmentRunArns"
    let filter ← filter parameters
    return .query (.listFindings runs filter (paging parameters))
  | .describeFindings => do
    let arns ← texts parameters "findingArns"
    return .query (.describeFindings arns)
  | .listRulesPackages =>
    return .query (.listRulesPackages (paging parameters))
  | .describeRulesPackages => do
    let arns ← texts parameters "rulesPackageArns"
    return .query (.describeRulesPackages arns)

end Request

end Inspection
