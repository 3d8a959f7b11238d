import Inspection.Entity.Wire
import Inspection.Request
import Inspection.Store

/-!
# Answers to queries

What a store answers to the requests that only ask: the descriptions of known
entities, in the order in which they were asked for, and the pages of
listings.
-/

namespace Inspection

namespace Store

def described (name : String) (entities : List Json) : Json :=
  .obj [(name, .arr entities), ("failedItems", .obj [])]

/-- The answer with a page of a listing; a fault of the listing comes before
one of the paging. -/
def listed (name : String) (paging : Paging) (listing : Except ServiceError (List String)) :
    Except ServiceError Json := do
  let results ← listing
  let window ← paging.window
  return (window.page results).document name

def answer (store : Store) : Query → Except ServiceError Json
  | .describeResourceGroups arns =>
    .ok (described "resourceGroups" ((store.groups.pick arns).map ResourceGroup.toJson))
  | .listAssessmentTargets filter paging =>
    listed "assessmentTargetArns" paging (store.listTargets filter)
  | .describeAssessmentTargets arns =>
    .ok (described "assessmentTargets" ((store.targets.pick arns).map AssessmentTarget.toJson))
  | .listAssessmentTemplates targets filter paging =>
    listed "assessmentTemplateArns" paging (store.listTemplates targets filter)
  | .describeAssessmentTemplates arns =>
    .ok (described "assessmentTemplates"
      ((store.templates.pick arns).map AssessmentTemplate.toJson))
  | .listEventSubscriptions templateArn =>
    (store.listSubscriptions templateArn).map fun topics =>
      .obj [("subscriptions", .arr (topics.map TopicSubscriptions.toJson))]
  | .listAssessmentRuns templates filter paging =>
    listed "assessmentRunArns" paging (store.listRuns templates filter)
  | .describeAssessmentRuns arns =>
    .ok (described "assessmentRuns" ((store.runs.pick arns).map AssessmentRun.toJson))
  | .listFindings runs filter paging =>
    listed "findingArns" paging (store.listFindings runs filter)
  | .describeFindings arns =>
    .ok (described "findings" ((store.findings.pick arns).map Finding.description))
  | .listRulesPackages paging =>
    listed "rulesPackageArns" paging (.ok (Catalog.rulesPackageArns store.region))
  | .describeRulesPackages arns =>
    .ok (described "rulesPackages" ((store.describeRulesPackages arns).map RulesPackage.toJson))

end Store

end Inspection
