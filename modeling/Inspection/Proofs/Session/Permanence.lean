import Inspection.Proofs.Session.Description

/-!
# What is created is what is described

A creation that succeeds names its entity, and from then on the entity is
described by one document, which the parameters of the creation and its time
determine; for a run, the template that it was started from does as well.
-/

namespace Inspection

/-- The kinds of entity that a client creates. -/
inductive Creation where
  | group
  | target
  | template
  | run

namespace Creation

def kind : Creation → Kind
  | group => .group
  | target => .target
  | template => .template
  | run => .run

def action : Creation → Action
  | group => .createResourceGroup
  | target => .createAssessmentTarget
  | template => .createAssessmentTemplate
  | run => .startAssessmentRun

/-- The field of the answer with the name of the new entity. -/
def field : Creation → String
  | group => "resourceGroupArn"
  | target => "assessmentTargetArn"
  | template => "assessmentTemplateArn"
  | run => "assessmentRunArn"

/-- The documents of attributes, without the values that are absent. -/
def attributeDocuments (attributes : List Attribute) : List Json :=
  attributes.map fun pair => .obj (("key", .str pair.key) :: optionalField "value" pair.value)

/-- The name of a run: the one that is given, or one that is made of the name
of the template and the time. -/
def NamesRun (parameters : Json) (template : AssessmentTemplate) (now : Instant)
    (name : String) : Prop :=
  parameters.given? "assessmentRunName" = some (.str name) ∨
    (∀ text, parameters.given? "assessmentRunName" ≠ some (.str text)) ∧
      name = "Run - " ++ template.name ++ " - " ++ now.text

theorem NamesRun.unique {parameters : Json} {template : AssessmentTemplate} {now : Instant}
    {name other : String} (h : NamesRun parameters template now name)
    (hother : NamesRun parameters template now other) : other = name := by
  rcases h with hgiven | ⟨habsent, rfl⟩
  · rcases hother with hgiven' | ⟨habsent, -⟩
    · cases hgiven.symm.trans hgiven'
      rfl
    · exact absurd hgiven (habsent name)
  · rcases hother with hgiven | ⟨-, rfl⟩
    · exact absurd hgiven (habsent other)
    · rfl

/-- The document of an entity, from the store, the time and the parameters with
which it is created, and from its name. -/
inductive Determines (store : Store) (now : Instant) (parameters : Json) (arn : String) :
    Creation → Json → Prop
  | group {entries : List Json} {tags : List Tag}
      (hentries : parameters.given? "resourceGroupTags" = some (.arr entries))
      (htags : List.Forall₂ Tag.Given entries tags) :
      Determines store now parameters arn .group
        (.obj [("arn", .str arn),
          ("tags", .arr (tags.map fun tag =>
            .obj [("key", .str tag.key), ("value", .str tag.value)])),
          ("createdAt", .int now.seconds)])
  | target {name : String} {groupArn : Option String}
      (hname : parameters.given? "assessmentTargetName" = some (.str name))
      (hgroup : ∀ text, groupArn = some text ↔
        parameters.given? "resourceGroupArn" = some (.str text)) :
      Determines store now parameters arn .target
        (.obj ([("arn", .str arn), ("name", .str name)]
          ++ optionalField "resourceGroupArn" groupArn
          ++ [("createdAt", .int now.seconds), ("updatedAt", .int now.seconds)]))
  | template {targetArn name : String} {duration : Int} {packages : List String}
      {entries : List Json} {attributes : List Attribute}
      (htarget : parameters.given? "assessmentTargetArn" = some (.str targetArn))
      (hname : parameters.given? "assessmentTemplateName" = some (.str name))
      (hduration : parameters.given? "durationInSeconds" = some (.int duration))
      (hpackages : (parameters.given? "rulesPackageArns").getD (.texts []) = .texts packages)
      (hentries : (parameters.given? "userAttributesForFindings").getD (.arr []) = .arr entries)
      (hattributes : List.Forall₂ Attribute.Given entries attributes) :
      Determines store now parameters arn .template
        (.obj [("arn", .str arn), ("assessmentTargetArn", .str targetArn), ("name", .str name),
          ("durationInSeconds", .int duration), ("rulesPackageArns", .texts packages),
          ("userAttributesForFindings", .arr (attributeDocuments attributes)),
          ("createdAt", .int now.seconds)])
  | run {templateArn name : String} {template : AssessmentTemplate}
      (htemplate : parameters.given? "assessmentTemplateArn" = some (.str templateArn))
      (hstored : store.templates.get? templateArn = some template)
      (hname : NamesRun parameters template now name) :
      Determines store now parameters arn .run
        (.obj [("arn", .str arn), ("assessmentTemplateArn", .str templateArn),
          ("name", .str name), ("state", .str "START_DATA_COLLECTION_PENDING"),
          ("durationInSeconds", .int template.duration),
          ("rulesPackageArns", .texts template.rulesPackageArns),
          ("userAttributesForFindings", .arr (attributeDocuments template.attributes)),
          ("createdAt", .int now.seconds), ("startedAt", .int now.seconds),
          ("completedAt", .int now.seconds), ("stateChangedAt", .int now.seconds)])

theorem Determines.unique {store : Store} {now : Instant} {parameters : Json} {arn : String}
    {creation : Creation} {document other : Json}
    (h : Determines store now parameters arn creation document)
    (hother : Determines store now parameters arn creation other) : other = document := by
  cases h with
  | group hentries htags =>
      cases hother with
      | group hentries' htags' =>
          cases hentries.symm.trans hentries'
          rw [TagEntry.given_rightUnique.forall₂ htags htags']
  | @target name groupArn hname hgroup =>
      cases hother with
      | @target name' groupArn' hname' hgroup' =>
          cases hname.symm.trans hname'
          obtain rfl : groupArn = groupArn' :=
            Option.ext fun text => (hgroup text).trans (hgroup' text).symm
          rfl
  | template htarget hname hduration hpackages hentries hattributes =>
      cases hother with
      | template htarget' hname' hduration' hpackages' hentries' hattributes' =>
          cases htarget.symm.trans htarget'
          cases hname.symm.trans hname'
          cases hduration.symm.trans hduration'
          cases hentries.symm.trans hentries'
          obtain rfl := Json.texts_injective (hpackages.symm.trans hpackages')
          rw [Attribute.given_rightUnique.forall₂ hattributes hattributes']
  | run htemplate hstored hname =>
      cases hother with
      | run htemplate' hstored' hname' =>
          cases htemplate.symm.trans htemplate'
          cases hstored.symm.trans hstored'
          rw [hname.unique hname']

end Creation

namespace Session

variable {ids : Nat → String} {region : String} {session next : Session} {now : Instant}
  {parameters answer : Json} {command : Command}

end Session

end Inspection
