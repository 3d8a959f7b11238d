/-!
# Actions

The actions of the service and their names.
-/

namespace Inspection

inductive Action where
  | createResourceGroup
  | describeResourceGroups
  | createAssessmentTarget
  | listAssessmentTargets
  | describeAssessmentTargets
  | createAssessmentTemplate
  | listAssessmentTemplates
  | describeAssessmentTemplates
  | subscribeToEvent
  | listEventSubscriptions
  | startAssessmentRun
  | listAssessmentRuns
  | describeAssessmentRuns
  | listFindings
  | describeFindings
  | listRulesPackages
  | describeRulesPackages
deriving DecidableEq, Repr

namespace Action

def all : List Action :=
  [createResourceGroup, describeResourceGroups, createAssessmentTarget, listAssessmentTargets,
    describeAssessmentTargets, createAssessmentTemplate, listAssessmentTemplates,
    describeAssessmentTemplates, subscribeToEvent, listEventSubscriptions, startAssessmentRun,
    listAssessmentRuns, describeAssessmentRuns, listFindings, describeFindings,
    listRulesPackages, describeRulesPackages]

def name : Action → String
  | createResourceGroup => "CreateResourceGroup"
  | describeResourceGroups => "DescribeResourceGroups"
  | createAssessmentTarget => "CreateAssessmentTarget"
  | listAssessmentTargets => "ListAssessmentTargets"
  | describeAssessmentTargets => "DescribeAssessmentTargets"
  | createAssessmentTemplate => "CreateAssessmentTemplate"
  | listAssessmentTemplates => "ListAssessmentTemplates"
  | describeAssessmentTemplates => "DescribeAssessmentTemplates"
  | subscribeToEvent => "SubscribeToEvent"
  | listEventSubscriptions => "ListEventSubscriptions"
  | startAssessmentRun => "StartAssessmentRun"
  | listAssessmentRuns => "ListAssessmentRuns"
  | describeAssessmentRuns => "DescribeAssessmentRuns"
  | listFindings => "ListFindings"
  | describeFindings => "DescribeFindings"
  | listRulesPackages => "ListRulesPackages"
  | describeRulesPackages => "DescribeRulesPackages"

def ofName? (name : String) : Option Action :=
  all.find? fun action => action.name == name

end Action

end Inspection
