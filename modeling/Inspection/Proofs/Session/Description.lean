import Inspection.Proofs.Request
import Inspection.Proofs.Session.Growth

/-!
# Descriptions

The document of an entity, which the actions that describe answer with for each
name they are given.  Once there is one for a name, it stays the same.
-/

namespace Inspection

namespace Table

theorem map_pick {E D : Type} {table : Table E} {toDocument : E → D} {names : List String}
    {documents : List D} (h : List.Forall₂ (fun name document =>
      (table.get? name).map toDocument = some document) names documents) :
    (table.pick names).map toDocument = documents := by
  induction h with
  | nil => rfl
  | @cons name document names documents hname _ ih =>
      obtain ⟨entity, hget, rfl⟩ := Option.map_eq_some_iff.mp hname
      rw [pick, List.filterMap_cons, hget, List.map_cons]
      exact congrArg _ ih

end Table

/-- The kinds of entity that are stored. -/
inductive Kind where
  | group
  | target
  | template
  | run
  | finding

namespace Kind

/-- The action that describes entities of a kind. -/
def describing : Kind → Action
  | group => .describeResourceGroups
  | target => .describeAssessmentTargets
  | template => .describeAssessmentTemplates
  | run => .describeAssessmentRuns
  | finding => .describeFindings

/-- The parameter with the names to be described. -/
def asked : Kind → String
  | group => "resourceGroupArns"
  | target => "assessmentTargetArns"
  | template => "assessmentTemplateArns"
  | run => "assessmentRunArns"
  | finding => "findingArns"

/-- The field of the answer that has the documents. -/
def field : Kind → String
  | group => "resourceGroups"
  | target => "assessmentTargets"
  | template => "assessmentTemplates"
  | run => "assessmentRuns"
  | finding => "findings"

/-- The document of the entity of a name. -/
def document? (kind : Kind) (store : Store) (arn : String) : Option Json :=
  match kind with
  | group => (store.groups.get? arn).map ResourceGroup.toJson
  | target => (store.targets.get? arn).map AssessmentTarget.toJson
  | template => (store.templates.get? arn).map AssessmentTemplate.toJson
  | run => (store.runs.get? arn).map AssessmentRun.toJson
  | finding => (store.findings.get? arn).map Finding.description

/-- A document stays what it is; that of a template does not show who has
subscribed. -/
theorem document?_extends {kind : Kind} {before after : Store} (h : before.Extends after)
    {arn : String} {document : Json} (hdocument : kind.document? before arn = some document) :
    kind.document? after arn = some document := by
  cases kind with
  | group => exact (h.groups.comp ResourceGroup.toJson).get?_map hdocument
  | target => exact (h.targets.comp AssessmentTarget.toJson).get?_map hdocument
  | template => exact (h.templates.comp AssessmentTemplate.toJson).get?_map hdocument
  | run => exact (h.runs.comp AssessmentRun.toJson).get?_map hdocument
  | finding => exact (h.findings.comp Finding.description).get?_map hdocument

end Kind

namespace Session

/-- Names that have documents are described by them, in the order of the
names. -/
theorem invoke_describing (on : Occasion) {kind : Kind} {session : Session} {parameters : Json}
    {arns : List String} {documents : List Json}
    (hasked : parameters.given? kind.asked = some (.texts arns))
    (hdocuments : List.Forall₂ (fun arn document =>
      kind.document? session.store arn = some document) arns documents) :
    (session.invoke on kind.describing.name parameters).1 =
      .ok (.obj [(kind.field, .arr documents), ("failedItems", .obj [])]) := by
  have hread := Parameters.texts_eq_ok_iff.mpr hasked
  rw [invoke_fst]
  cases kind <;>
    · simp only [Kind.asked] at hread
      simp only [Kind.describing, Kind.field, Request.read, hread, bind, Except.bind, pure,
        Except.pure, perform, Store.answer, Store.described, Table.map_pick hdocuments]

end Session

end Inspection
