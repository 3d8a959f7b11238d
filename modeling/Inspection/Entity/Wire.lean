import Inspection.Catalog
import Inspection.Json

/-!
# Entities in answers

The JSON object of each entity.  Instants are written as whole seconds, and
absent optional texts are left out.
-/

namespace Inspection

namespace Instant

/-- The second of an instant, rounded down. -/
def toJson (t : Instant) : Json :=
  .int t.seconds

end Instant

/-- A field with an optional text, left out when there is none. -/
def optionalField (name : String) : Option String → List (String × Json)
  | some value => [(name, .str value)]
  | none => []

namespace Tag

def toJson (tag : Tag) : Json :=
  .obj [("key", .str tag.key), ("value", .str tag.value)]

end Tag

namespace Attribute

def toJson (pair : Attribute) : Json :=
  .obj (("key", .str pair.key) :: optionalField "value" pair.value)

end Attribute

namespace ResourceGroup

def toJson (group : ResourceGroup) : Json :=
  .obj [("arn", .str group.arn), ("tags", .arr (group.tags.map Tag.toJson)),
    ("createdAt", group.createdAt.toJson)]

end ResourceGroup

namespace AssessmentTarget

def toJson (target : AssessmentTarget) : Json :=
  .obj ([("arn", .str target.arn), ("name", .str target.name)]
    ++ optionalField "resourceGroupArn" target.resourceGroupArn
    ++ [("createdAt", target.createdAt.toJson), ("updatedAt", target.updatedAt.toJson)])

end AssessmentTarget

namespace EventSubscription

def toJson (subscription : EventSubscription) : Json :=
  .obj [("event", .str subscription.event), ("subscribedAt", subscription.subscribedAt.toJson)]

end EventSubscription

namespace TopicSubscriptions

def toJson (topic : TopicSubscriptions) : Json :=
  .obj [("resourceArn", .str topic.resourceArn), ("topicArn", .str topic.topicArn),
    ("eventSubscriptions", .arr (topic.events.map EventSubscription.toJson))]

end TopicSubscriptions

namespace AssessmentTemplate

/-- Subscriptions are answered by their own action and are no part of this. -/
def toJson (template : AssessmentTemplate) : Json :=
  .obj [("arn", .str template.arn), ("assessmentTargetArn", .str template.targetArn),
    ("name", .str template.name), ("durationInSeconds", .int template.duration),
    ("rulesPackageArns", .texts template.rulesPackageArns),
    ("userAttributesForFindings", .arr (template.attributes.map Attribute.toJson)),
    ("createdAt", template.createdAt.toJson)]

end AssessmentTemplate

namespace AssessmentRun

def toJson (run : AssessmentRun) : Json :=
  .obj [("arn", .str run.arn), ("assessmentTemplateArn", .str run.templateArn),
    ("name", .str run.name), ("state", .str run.state.text),
    ("durationInSeconds", .int run.duration),
    ("rulesPackageArns", .texts run.rulesPackageArns),
    ("userAttributesForFindings", .arr (run.attributes.map Attribute.toJson)),
    ("createdAt", run.createdAt.toJson), ("startedAt", run.startTime.toJson),
    ("completedAt", run.completionTime.toJson),
    ("stateChangedAt", run.stateChangeTime.toJson)]

end AssessmentRun

namespace Finding

def toJson (finding : Finding) : Json :=
  .obj ([("arn", .str finding.arn), ("region", .str finding.region),
      ("assessmentRunArn", .str finding.runArn), ("agentId", .str finding.agentId)]
    ++ optionalField "autoScalingGroup" finding.autoScalingGroup
    ++ [("ruleName", .str finding.ruleName)]
    ++ optionalField "rulesPackageArn" finding.rulesPackageArn
    ++ [("severity", .str finding.severity.text), ("title", .str finding.title),
      ("createdAt", finding.createdAt.toJson)])

def description (finding : Finding) : Json :=
  .obj [("arn", .str finding.arn), ("region", .str finding.region),
    ("agentId", .str finding.agentId)]

end Finding

namespace RulesPackage

def toJson (package : RulesPackage) : Json :=
  .obj [("arn", .str package.arn), ("name", .str package.name),
    ("version", .str package.version), ("provider", .str package.provider)]

end RulesPackage

end Inspection
