import Inspection.ServiceError

/-!
# Filters

A filter is an object whose keys name conditions on an entity.  Keys without a
rule are ignored, a filter without any key that has one accepts nothing, and
every key with a rule is judged, so that a malformed parameter is reported even
when another key already rejects the entity.
-/

namespace Inspection

/-- The conditions on an entity by key, as a request gives them. -/
abbrev Filter := List (String × Json)

/-- The condition that a filter key stands for. -/
structure Rule (E : Type) where
  key : String
  shape : Shape
  accepts : E → shape.Value → Bool

namespace Rule

variable {E : Type}

/-- Whether an entity satisfies the condition with a given parameter. -/
def judge (rule : Rule E) (entity : E) (parameter : Json) : Except ServiceError Bool :=
  match rule.shape.read? parameter with
  | some value => .ok (rule.accepts entity value)
  | none => .error (.malformedFilter rule.key rule.shape)

def find? (rules : List (Rule E)) (key : String) : Option (Rule E) :=
  rules.find? fun rule => rule.key == key

end Rule

namespace Filter

variable {E : Type}

/-- The keys of a filter that have a rule, with their parameters. -/
def recognised (rules : List (Rule E)) (filter : Filter) : List (Rule E × Json) :=
  filter.filterMap fun (key, parameter) =>
    (Rule.find? rules key).map fun rule => (rule, parameter)

/-- Whether a filter accepts an entity: some key has a rule, and the entity
satisfies all that have one. -/
def accepts (rules : List (Rule E)) (filter : Filter) (entity : E) :
    Except ServiceError Bool := do
  let verdicts ← (recognised rules filter).mapM fun (rule, parameter) =>
    rule.judge entity parameter
  return !verdicts.isEmpty && verdicts.all id

/-- The name pattern of a target filter, which must hold this key alone. -/
def targetPattern : Filter → Except ServiceError String
  | [(key, parameter)] =>
    if key = targetNamePattern then
      match parameter.text? with
      | some pattern => .ok pattern
      | none => .error (.malformedFilter targetNamePattern .text)
    else .error .foreignTargetFilter
  | _ => .error .foreignTargetFilter

end Filter

end Inspection
