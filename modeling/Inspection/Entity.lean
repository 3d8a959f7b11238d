import Inspection.Arn
import Inspection.Instant

/-!
# Entities

What a region's store holds: resource groups, assessment targets, templates
with their event subscriptions, runs, and findings.  An entity is made once,
with an ARN from its parent and a fresh id; afterwards only the subscriptions
of a template and the state of a run change.
-/

namespace Inspection

structure Tag where
  key : String
  value : String
deriving DecidableEq, Repr

/-- An attribute that a template attaches to its findings. -/
structure Attribute where
  key : String
  value : Option String
deriving DecidableEq, Repr

structure ResourceGroup where
  arn : String
  region : String
  tags : List Tag
  createdAt : Instant
deriving DecidableEq, Repr

/-- What is scanned: a named scope, for a resource group if one is given. -/
structure AssessmentTarget where
  arn : String
  region : String
  name : String
  resourceGroupArn : Option String
  createdAt : Instant
  updatedAt : Instant
deriving DecidableEq, Repr

/-- An event of a template that a topic is told of. -/
structure EventSubscription where
  event : String
  topicArn : String
  subscribedAt : Instant
deriving DecidableEq, Repr

/-- The events of one resource that one topic is told of. -/
structure TopicSubscriptions where
  resourceArn : String
  topicArn : String
  events : List EventSubscription
deriving DecidableEq, Repr

/-- How a target is scanned. -/
structure AssessmentTemplate where
  arn : String
  region : String
  targetArn : String
  name : String
  duration : Int
  rulesPackageArns : List String
  attributes : List Attribute
  subscriptions : List EventSubscription
  createdAt : Instant
deriving DecidableEq, Repr

inductive RunState where
  | created
  | startDataCollectionPending
  | startDataCollectionInProgress
  | collectingData
  | stopDataCollectionPending
  | dataCollected
  | startEvaluatingRulesPending
  | evaluatingRules
  | failed
  | error
  | completed
  | completedWithErrors
  | canceled
deriving DecidableEq, Repr

/-- One scan, with the values its template had when it was started. -/
structure AssessmentRun where
  arn : String
  region : String
  templateArn : String
  name : String
  state : RunState
  duration : Int
  rulesPackageArns : List String
  attributes : List Attribute
  createdAt : Instant
  startTime : Instant
  completionTime : Instant
  stateChangeTime : Instant
deriving DecidableEq, Repr

inductive Severity where
  | low
  | medium
  | high
  | informational
  | undefined
deriving DecidableEq, Repr

/-- What a run reports about an agent. -/
structure Finding where
  arn : String
  region : String
  runArn : String
  agentId : String
  autoScalingGroup : Option String
  ruleName : String
  rulesPackageArn : Option String
  severity : Severity
  title : String
  createdAt : Instant
deriving DecidableEq, Repr

namespace RunState

/-- All states, in the order in which they are listed in messages. -/
def all : List RunState :=
  [created, startDataCollectionPending, startDataCollectionInProgress, collectingData,
    stopDataCollectionPending, dataCollected, startEvaluatingRulesPending, evaluatingRules,
    failed, error, completed, completedWithErrors, canceled]

/-- The name of a state in requests and answers. -/
def text : RunState → String
  | created => "CREATED"
  | startDataCollectionPending => "START_DATA_COLLECTION_PENDING"
  | startDataCollectionInProgress => "START_DATA_COLLECTION_IN_PROGRESS"
  | collectingData => "COLLECTING_DATA"
  | stopDataCollectionPending => "STOP_DATA_COLLECTION_PENDING"
  | dataCollected => "DATA_COLLECTED"
  | startEvaluatingRulesPending => "START_EVALUATING_RULES_PENDING"
  | evaluatingRules => "EVALUATING_RULES"
  | failed => "FAILED"
  | error => "ERROR"
  | completed => "COMPLETED"
  | completedWithErrors => "COMPLETED_WITH_ERRORS"
  | canceled => "CANCELED"

end RunState

namespace Severity

/-- All severities, in the order in which they are listed in messages. -/
def all : List Severity :=
  [low, medium, high, informational, undefined]

/-- The name of a severity in requests and answers. -/
def text : Severity → String
  | low => "Low"
  | medium => "Medium"
  | high => "High"
  | informational => "Informational"
  | undefined => "Undefined"

end Severity

namespace ResourceGroup

def create (region account id : String) (now : Instant) (tags : List Tag) : ResourceGroup where
  arn := Arn.resourceGroup region account id
  region := region
  tags := tags
  createdAt := now

end ResourceGroup

namespace AssessmentTarget

/-- A new target of a region; the group's ARN is taken as given. -/
def create (region account id : String) (now : Instant) (name : String)
    (resourceGroupArn : Option String) : AssessmentTarget where
  arn := Arn.target region account id
  region := region
  name := name
  resourceGroupArn := resourceGroupArn
  createdAt := now
  updatedAt := now

end AssessmentTarget

namespace TopicSubscriptions

/-- Files a subscription under its topic; a new topic comes last. -/
def file (resourceArn : String) (subscription : EventSubscription) :
    List TopicSubscriptions → List TopicSubscriptions
  | [] => [⟨resourceArn, subscription.topicArn, [subscription]⟩]
  | topic :: rest =>
    if topic.topicArn = subscription.topicArn then
      { topic with events := topic.events ++ [subscription] } :: rest
    else
      topic :: file resourceArn subscription rest

end TopicSubscriptions

namespace AssessmentTemplate

/-- A new template of a region; the target's ARN is taken as given. -/
def create (region id : String) (now : Instant) (targetArn name : String) (duration : Int)
    (rulesPackageArns : List String) (attributes : List Attribute) : AssessmentTemplate where
  arn := Arn.template targetArn id
  region := region
  targetArn := targetArn
  name := name
  duration := duration
  rulesPackageArns := rulesPackageArns
  attributes := attributes
  subscriptions := []
  createdAt := now

/-- Adds a subscription after those the template has. -/
def subscribe (template : AssessmentTemplate) (now : Instant) (event topicArn : String) :
    AssessmentTemplate :=
  { template with subscriptions := template.subscriptions ++ [⟨event, topicArn, now⟩] }

/-- The subscriptions by topic, in the order in which the topics came. -/
def topics (template : AssessmentTemplate) : List TopicSubscriptions :=
  template.subscriptions.foldl
    (fun filed subscription => TopicSubscriptions.file template.arn subscription filed) []

/-- The name of a run that was started without one. -/
def defaultRunName (template : AssessmentTemplate) (now : Instant) : String :=
  "Run - " ++ template.name ++ " - " ++ now.text

def startRun (template : AssessmentTemplate) (id : String) (now : Instant) (name : String) :
    AssessmentRun where
  arn := Arn.run template.arn id
  region := template.region
  templateArn := template.arn
  name := name
  state := .startDataCollectionPending
  duration := template.duration
  rulesPackageArns := template.rulesPackageArns
  attributes := template.attributes
  createdAt := now
  startTime := now
  completionTime := now
  stateChangeTime := now

end AssessmentTemplate

namespace AssessmentRun

/-- When a run should end: its completion time plus its duration, or the end
of the calendar on that side when the calendar does not reach so far. -/
def expectedCompletion (run : AssessmentRun) : Instant :=
  (run.completionTime.after? run.duration).getD
    (if run.duration < 0 then Instant.earliest else Instant.latest)

/-- The end of a run never leaves the calendar, whatever its completion time
and its duration. -/
theorem expectedCompletion_inCalendar (run : AssessmentRun) :
    run.expectedCompletion.InCalendar := by
  unfold expectedCompletion
  cases h : run.completionTime.after? run.duration with
  | some t => exact Instant.inCalendar_of_after?_eq_some h
  | none => split <;> decide

def setState (run : AssessmentRun) (now : Instant) (state : RunState) : AssessmentRun :=
  { run with state := state, stateChangeTime := now }

def agentId (id : String) : String :=
  String.ofList ('i' :: '-' :: id.toList.map Char.toLower)

/-- A new finding of a run, about the agent of a further id. -/
def report (run : AssessmentRun) (id agent : String) (now : Instant) (ruleName title : String)
    (severity : Severity) : Finding where
  arn := Arn.finding run.arn id
  region := run.region
  runArn := run.arn
  agentId := agentId agent
  autoScalingGroup := none
  ruleName := ruleName
  rulesPackageArn := run.rulesPackageArns.head?
  severity := severity
  title := title
  createdAt := now

end AssessmentRun

end Inspection
