import Inspection.Catalog
import Inspection.Filter.Rules
import Inspection.Table

/-!
# The store of a region

Every entity of one region, by kind, under its ARN and in order of creation,
with the additions, the listings and the look-ups on them.
-/

namespace Inspection

/-- The entities of one region. -/
structure Store where
  region : String
  account : String
  groups : Table ResourceGroup
  targets : Table AssessmentTarget
  templates : Table AssessmentTemplate
  runs : Table AssessmentRun
  findings : Table Finding

namespace Store

def empty (region account : String) : Store :=
  ⟨region, account, .empty, .empty, .empty, .empty, .empty⟩

def reset (store : Store) : Store :=
  empty store.region store.account

def addGroup (store : Store) (group : ResourceGroup) : Store :=
  { store with groups := store.groups.insert group.arn group }

def addTarget (store : Store) (target : AssessmentTarget) : Store :=
  { store with targets := store.targets.insert target.arn target }

def addTemplate (store : Store) (template : AssessmentTemplate) : Store :=
  { store with templates := store.templates.insert template.arn template }

/-- Adds a run together with the finding it reports. -/
def addRun (store : Store) (run : AssessmentRun) (finding : Finding) : Store :=
  { store with
    runs := store.runs.insert run.arn run
    findings := store.findings.insert finding.arn finding }

/-- Adds a subscription to the template of an ARN. -/
def subscribe (store : Store) (now : Instant) (templateArn event topicArn : String) : Store :=
  { store with
    templates := store.templates.update templateArn fun template =>
      template.subscribe now event topicArn }

/-- The template of an ARN, which must be stored. -/
def template (store : Store) (arn : String) : Except ServiceError AssessmentTemplate :=
  match store.templates.get? arn with
  | some template => .ok template
  | none => .error (.noSuchTemplate arn)

/-- The ARNs of the entities that a condition chooses, which is asked of one
entity after the other. -/
def chosen {E : Type} (condition : E → Except ServiceError Bool) :
    List (String × E) → Except ServiceError (List String)
  | [] => .ok []
  | (arn, entity) :: rest => do
    let choose ← condition entity
    let others ← chosen condition rest
    return if choose then arn :: others else others

/-- The ARNs of the entities whose parent is listed, if parents are given,
and that the filter accepts, if one is given.  The filter is asked of those
with a listed parent only. -/
def select {E : Type} (rules : List (Rule E)) (parent : E → String) (table : Table E)
    (parents : Option (List String)) (filter : Option Filter) :
    Except ServiceError (List String) :=
  let admitted := table.entries.filter fun (_, entity) =>
    parents.all fun listed => listed.contains (parent entity)
  match filter with
  | none => .ok (admitted.map Prod.fst)
  | some filter => chosen (Filter.accepts rules filter) admitted

/-- The ARNs of the targets, or of those whose name holds the pattern of a
filter. -/
def listTargets (store : Store) : Option Filter → Except ServiceError (List String)
  | none => .ok (store.targets.values.map (·.arn))
  | some filter => do
    let pattern ← filter.targetPattern
    return (store.targets.values.filter fun target =>
      Text.contains target.name pattern).map (·.arn)

def listTemplates (store : Store) (targets : Option (List String)) (filter : Option Filter) :
    Except ServiceError (List String) :=
  select Filter.templateRules (·.targetArn) store.templates targets filter

def listRuns (store : Store) (templates : Option (List String)) (filter : Option Filter) :
    Except ServiceError (List String) :=
  select Filter.runRules (·.templateArn) store.runs templates filter

def listFindings (store : Store) (runs : Option (List String)) (filter : Option Filter) :
    Except ServiceError (List String) :=
  select Filter.findingRules (·.runArn) store.findings runs filter

def listSubscriptions (store : Store) :
    Option String → Except ServiceError (List TopicSubscriptions)
  | some arn => (store.template arn).map (·.topics)
  | none => .ok (store.templates.values.flatMap (·.topics))

/-- The rules packages of the region that are listed, in catalog order. -/
def describeRulesPackages (store : Store) (arns : List String) : List RulesPackage :=
  (Catalog.rulesPackages store.region).filter fun package => arns.contains package.arn

end Store

end Inspection
