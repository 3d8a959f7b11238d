import Inspection.Proofs.Request
import Inspection.Proofs.Session.Codes

/-!
# What commands accept

The parameters that each command accepts, and the code with which it refuses
all others, whatever is in the store.  The parameters are judged first; only
then it is seen whether all tags are complete, or a template is there.
-/

namespace Inspection

def Json.IsText (value : Json) : Prop :=
  ∃ text, value = .str text

namespace TagEntry

def WellFormed (entry : Json) : Prop :=
  ∃ read, Given entry read

/-- An entry without a key or without a value. -/
def Incomplete (entry : Json) : Prop :=
  ∃ read, Given entry read ∧ (read.key = none ∨ read.value = none)

end TagEntry

def Attribute.WellFormed (entry : Json) : Prop :=
  ∃ pair, Given entry pair

/-! ## Well-formed parameters -/

namespace Parameters

def GivesText (parameters : Json) (name : String) : Prop :=
  ∃ text, parameters.given? name = some (.str text)

/-- A parameter is a list, and its entries are all of some form. -/
def GivesList (form : Json → Prop) (parameters : Json) (name : String) : Prop :=
  ∃ entries, parameters.given? name = some (.arr entries) ∧ ∀ entry ∈ entries, form entry

def MayGiveList (form : Json → Prop) (parameters : Json) (name : String) : Prop :=
  parameters.given? name = none ∨ GivesList form parameters name

/-- What a template is made of: a target and a name, a duration between three
minutes and a day, and perhaps packages and attributes. -/
structure DescribesTemplate (parameters : Json) : Prop where
  target : GivesText parameters "assessmentTargetArn"
  name : GivesText parameters "assessmentTemplateName"
  duration : ∃ seconds, parameters.given? "durationInSeconds" = some (.int seconds) ∧
    180 ≤ seconds ∧ seconds ≤ 86400
  packages : MayGiveList Json.IsText parameters "rulesPackageArns"
  attributes : MayGiveList Attribute.WellFormed parameters "userAttributesForFindings"

def LacksTag (parameters : Json) : Prop :=
  ∃ entries, parameters.given? "resourceGroupTags" = some (.arr entries) ∧
    ∃ entry ∈ entries, TagEntry.Incomplete entry

/-- A parameter is the ARN of a template in the store. -/
def NamesTemplate (store : Store) (parameters : Json) (name : String) : Prop :=
  ∃ arn template, parameters.given? name = some (.str arn) ∧
    store.templates.get? arn = some template

variable {α : Type} {parameters : Json} {name : String}

theorem exists_text_iff :
    (∃ read, text parameters name = .ok read) ↔ GivesText parameters name := by
  simp only [text_eq_ok_iff, GivesText]

theorem exists_items_iff {decode : Decoder α} :
    (∃ read, items decode parameters name = .ok read) ↔
      GivesList (fun entry => ∃ value, decode entry = .ok value) parameters name := by
  simp only [items_eq_ok_iff, GivesList, ← Outcome.mapM_eq_ok_iff,
    ← Outcome.exists_mapM_eq_ok_iff]
  constructor
  · rintro ⟨read, entries, hgiven, hread⟩
    exact ⟨entries, hgiven, read, hread⟩
  · rintro ⟨entries, hgiven, read, hread⟩
    exact ⟨read, entries, hgiven, hread⟩

theorem exists_items?_iff {decode : Decoder α} :
    (∃ read, items? decode parameters name = .ok read) ↔
      MayGiveList (fun entry => ∃ value, decode entry = .ok value) parameters name := by
  rw [MayGiveList, ← exists_items_iff]
  simp only [items?_eq_ok_iff, items, Outcome.bind_eq_ok_iff]
  constructor
  · rintro ⟨_, ⟨hnone, -⟩ | ⟨value, values, hgiven, rfl, hlist⟩⟩
    · exact .inl hnone
    · exact .inr ⟨values, _, .inr ⟨value, values, hgiven, rfl, hlist⟩, rfl⟩
  · rintro (hnone | ⟨read, found, hfound, -⟩)
    · exact ⟨none, .inl ⟨hnone, rfl⟩⟩
    · exact ⟨found, hfound⟩

theorem namesTemplate_iff {store : Store} {arn : String} (h : text parameters name = .ok arn) :
    NamesTemplate store parameters name ↔
      ∃ template, store.templates.get? arn = some template := by
  simp [NamesTemplate, text_eq_ok_iff.mp h]

theorem lacksTag_iff {tags : List TagEntry}
    (h : items TagEntry.decode parameters "resourceGroupTags" = .ok tags) :
    LacksTag parameters ↔ tags.mapM TagEntry.complete? = none := by
  obtain ⟨entries, hgiven, hentries⟩ := items_eq_ok_iff.mp h
  rw [TagEntry.mapM_complete?_eq_none_iff]
  constructor
  · rintro ⟨others, hothers, entry, hentry, read, hread, hnone⟩
    obtain rfl : entries = others := by simpa using hgiven.symm.trans hothers
    obtain ⟨tag, htag, hdecode⟩ := Outcome.exists_mem_of_forall₂ hentries hentry
    obtain rfl := Except.ok.inj (hdecode.symm.trans (TagEntry.decode_eq_ok_iff.mpr hread))
    exact ⟨tag, htag, TagEntry.complete?_eq_none_iff.mpr hnone⟩
  · rintro ⟨tag, htag, hnone⟩
    obtain ⟨entry, hentry, hdecode⟩ := Outcome.exists_mem_of_forall₂ hentries.flip htag
    exact ⟨entries, hgiven, entry, hentry, tag, TagEntry.decode_eq_ok_iff.mp hdecode,
      TagEntry.complete?_eq_none_iff.mp hnone⟩

end Parameters

namespace Request

open Parameters

variable {parameters : Json}

theorem exists_read_createResourceGroup_iff :
    (∃ request, read .createResourceGroup parameters = .ok request) ↔
      GivesList TagEntry.WellFormed parameters "resourceGroupTags" := by
  simp only [read, Outcome.exists_bind_eq_ok_iff, Outcome.exists_pure_eq_ok, and_true,
    exists_items_iff, TagEntry.decode_eq_ok_iff]
  rfl

theorem exists_read_createAssessmentTarget_iff :
    (∃ request, read .createAssessmentTarget parameters = .ok request) ↔
      GivesText parameters "assessmentTargetName" := by
  simp only [read, Outcome.exists_bind_eq_ok_iff, Outcome.exists_pure_eq_ok, and_true,
    exists_text_iff]

theorem exists_read_createAssessmentTemplate_iff :
    (∃ request, read .createAssessmentTemplate parameters = .ok request) ↔
      DescribesTemplate parameters := by
  simp only [read, texts?, Outcome.exists_bind_eq_ok_iff, Outcome.exists_pure_eq_ok, and_true,
    exists_and_right, exists_text_iff, duration_eq_ok_iff, exists_items?_iff,
    Decoder.text_eq_ok_iff, Attribute.decode_eq_ok_iff]
  constructor
  · rintro ⟨htarget, hname, hduration, hpackages, hattributes⟩
    exact ⟨htarget, hname, hduration, hpackages, hattributes⟩
  · rintro ⟨htarget, hname, hduration, hpackages, hattributes⟩
    exact ⟨htarget, hname, hduration, hpackages, hattributes⟩

theorem exists_read_subscribeToEvent_iff :
    (∃ request, read .subscribeToEvent parameters = .ok request) ↔
      GivesText parameters "resourceArn" ∧ GivesText parameters "event" ∧
        GivesText parameters "topicArn" := by
  simp only [read, Outcome.exists_bind_eq_ok_iff, Outcome.exists_pure_eq_ok, and_true,
    exists_and_right, exists_text_iff]

theorem exists_read_startAssessmentRun_iff :
    (∃ request, read .startAssessmentRun parameters = .ok request) ↔
      GivesText parameters "assessmentTemplateArn" := by
  simp only [read, Outcome.exists_bind_eq_ok_iff, Outcome.exists_pure_eq_ok, and_true,
    exists_text_iff]

end Request

/-! ## How requests are judged -/

/-- The code with which a computation is refused, if it is. -/
def refusal? {α : Type} : Except ServiceError α → Option ErrorCode
  | .ok _ => none
  | .error error => some error.code

/-- An answer is refused as faulty input unless the request is well formed. -/
structure Checked (answer : Except ServiceError Json) (wellFormed : Prop) : Prop where
  faulty : refusal? answer = some .invalidInput ↔ ¬ wellFormed
  accepted : refusal? answer = none ↔ wellFormed

/-- Of a well-formed request, an answer is still refused, with another code,
unless what is asked for is granted. -/
structure Judged (answer : Except ServiceError Json) (wellFormed granted : Prop)
    (code : ErrorCode) : Prop where
  faulty : refusal? answer = some .invalidInput ↔ ¬ wellFormed
  refused : refusal? answer = some code ↔ wellFormed ∧ ¬ granted
  accepted : refusal? answer = none ↔ wellFormed ∧ granted

theorem judged_bind {α : Type} {x : Except ServiceError α} {f : α → Except ServiceError Json}
    {wellFormed granted : Prop} {code : ErrorCode} (hcode : code ≠ .invalidInput)
    (hx : RefusedWith [.invalidInput] x) (hwell : (∃ value, x = .ok value) ↔ wellFormed)
    (hf : ∀ value, x = .ok value → (granted → refusal? (f value) = none) ∧
      (¬ granted → refusal? (f value) = some code)) :
    Judged (x >>= f) wellFormed granted code := by
  cases x with
  | error error =>
      have hfaulty : error.code = .invalidInput := List.mem_singleton.mp (hx error rfl)
      have hill : ¬ wellFormed := by simp [← hwell]
      constructor <;> simp [refusal?, bind, Except.bind, hfaulty, hill, hcode.symm]
  | ok value =>
      have hwellFormed : wellFormed := hwell.mp ⟨value, rfl⟩
      have hbind : (.ok value >>= f) = f value := rfl
      rw [hbind]
      by_cases hgrant : granted
      · have hnone := (hf value rfl).1 hgrant
        constructor <;> simp [hnone, hwellFormed, hgrant]
      · have hsome := (hf value rfl).2 hgrant
        constructor <;> simp [hsome, hwellFormed, hgrant, hcode]

namespace Session

open Parameters

variable (on : Occasion) (session : Session) (parameters : Json)

/-- Once a command is read, it depends on what it asks for whether it is
refused. -/
theorem judged_invoke (action : Action) {wellFormed granted : Prop} {code : ErrorCode}
    (haction : ¬ Action.NamesQuestion action.name) (hcode : code ≠ .invalidInput)
    (hwell : (∃ request, Request.read action parameters = .ok request) ↔ wellFormed)
    (hperform : ∀ request, Request.read action parameters = .ok request →
      (granted → refusal? (session.perform on request).1 = none) ∧
        (¬ granted → refusal? (session.perform on request).1 = some code)) :
    Judged (session.invoke on action.name parameters).1 wellFormed granted code := by
  rw [invoke_fst]
  apply judged_bind hcode _ hwell hperform
  exact Request.read_refusedWith_of_command parameters haction

/-- A command that is never refused once it is read. -/
theorem checked_invoke (action : Action) {wellFormed : Prop}
    (haction : ¬ Action.NamesQuestion action.name)
    (hwell : (∃ request, Request.read action parameters = .ok request) ↔ wellFormed)
    (hperform : ∀ request, Request.read action parameters = .ok request →
      refusal? (session.perform on request).1 = none) :
    Checked (session.invoke on action.name parameters).1 wellFormed := by
  have hcode : ErrorCode.noSuchEntity ≠ .invalidInput := by decide
  have hjudged : Judged (session.invoke on action.name parameters).1 wellFormed True
      .noSuchEntity := by
    apply judged_invoke on session parameters action haction hcode hwell
    intro request hread
    exact ⟨fun _ => hperform request hread, fun hfalse => absurd trivial hfalse⟩
  exact ⟨hjudged.faulty, hjudged.accepted.trans (and_iff_left trivial)⟩

theorem checked_createAssessmentTarget :
    Checked (session.invoke on "CreateAssessmentTarget" parameters).1
      (GivesText parameters "assessmentTargetName") := by
  apply checked_invoke on session parameters .createAssessmentTarget (by decide)
    Request.exists_read_createAssessmentTarget_iff
  intro request hread
  obtain ⟨name, -, hrequest⟩ := Outcome.bind_eq_ok_iff.mp hread
  obtain rfl := Except.ok.inj hrequest
  rfl

theorem checked_createAssessmentTemplate :
    Checked (session.invoke on "CreateAssessmentTemplate" parameters).1
      (DescribesTemplate parameters) := by
  apply checked_invoke on session parameters .createAssessmentTemplate (by decide)
    Request.exists_read_createAssessmentTemplate_iff
  intro request hread
  simp only [Request.read, Outcome.bind_eq_ok_iff] at hread
  obtain ⟨targetArn, -, name, -, duration, -, packages, -, attributes, -, hrequest⟩ := hread
  obtain rfl := Except.ok.inj hrequest
  rfl

theorem judged_createResourceGroup :
    Judged (session.invoke on "CreateResourceGroup" parameters).1
      (GivesList TagEntry.WellFormed parameters "resourceGroupTags") (¬ LacksTag parameters)
      .invalidFilterKey := by
  apply judged_invoke on session parameters .createResourceGroup (by decide) (by decide)
    Request.exists_read_createResourceGroup_iff
  intro request hread
  obtain ⟨tags, htags, hrequest⟩ := Outcome.bind_eq_ok_iff.mp hread
  obtain rfl := Except.ok.inj hrequest
  rw [lacksTag_iff htags, not_not]
  simp only [perform, execute, createGroup]
  constructor
  · intro hcomplete
    obtain ⟨made, hmade⟩ := Option.ne_none_iff_exists'.mp hcomplete
    rw [hmade]
    rfl
  · intro hlacks
    rw [hlacks]
    rfl

/-- A command that needs a template is refused when it is not in the store. -/
theorem judged_of_template (action : Action) (name : String) {wellFormed : Prop}
    (haction : ¬ Action.NamesQuestion action.name)
    (hwell : (∃ request, Request.read action parameters = .ok request) ↔ wellFormed)
    (hperform : ∀ request, Request.read action parameters = .ok request → ∃ arn,
      text parameters name = .ok arn ∧
        refusal? (session.perform on request).1 = refusal? (session.store.template arn)) :
    Judged (session.invoke on action.name parameters).1 wellFormed
      (NamesTemplate session.store parameters name) .noSuchEntity := by
  apply judged_invoke on session parameters action haction (by decide) hwell
  intro request hread
  obtain ⟨arn, harn, hsame⟩ := hperform request hread
  rw [namesTemplate_iff harn, hsame, Store.template, ← Option.ne_none_iff_exists', not_not]
  constructor
  · intro hstored
    obtain ⟨template, htemplate⟩ := Option.ne_none_iff_exists'.mp hstored
    rw [htemplate]
    rfl
  · intro hmissing
    rw [hmissing]
    rfl

theorem judged_startAssessmentRun :
    Judged (session.invoke on "StartAssessmentRun" parameters).1
      (GivesText parameters "assessmentTemplateArn")
      (NamesTemplate session.store parameters "assessmentTemplateArn") .noSuchEntity := by
  apply judged_of_template on session parameters .startAssessmentRun "assessmentTemplateArn"
    (by decide) Request.exists_read_startAssessmentRun_iff
  intro request hread
  obtain ⟨arn, harn, hrequest⟩ := Outcome.bind_eq_ok_iff.mp hread
  obtain rfl := Except.ok.inj hrequest
  refine ⟨arn, harn, ?_⟩
  simp only [perform, execute, startRun]
  cases session.store.template arn <;> rfl

theorem judged_subscribeToEvent :
    Judged (session.invoke on "SubscribeToEvent" parameters).1
      (GivesText parameters "resourceArn" ∧ GivesText parameters "event" ∧
        GivesText parameters "topicArn")
      (NamesTemplate session.store parameters "resourceArn") .noSuchEntity := by
  apply judged_of_template on session parameters .subscribeToEvent "resourceArn" (by decide)
    Request.exists_read_subscribeToEvent_iff
  intro request hread
  obtain ⟨arn, harn, hread⟩ := Outcome.bind_eq_ok_iff.mp hread
  obtain ⟨event, -, hread⟩ := Outcome.bind_eq_ok_iff.mp hread
  obtain ⟨topicArn, -, hrequest⟩ := Outcome.bind_eq_ok_iff.mp hread
  obtain rfl := Except.ok.inj hrequest
  refine ⟨arn, harn, ?_⟩
  simp only [perform, execute, subscribe]
  cases session.store.template arn <;> rfl

/-- The requests that each command accepts, for every session, and the codes
with which it refuses the others. -/
theorem commands_accept_exactly :
    Checked (session.invoke on "CreateAssessmentTemplate" parameters).1
      (DescribesTemplate parameters) ∧
    Judged (session.invoke on "CreateResourceGroup" parameters).1
      (GivesList TagEntry.WellFormed parameters "resourceGroupTags") (¬ LacksTag parameters)
      .invalidFilterKey ∧
    Checked (session.invoke on "CreateAssessmentTarget" parameters).1
      (GivesText parameters "assessmentTargetName") ∧
    Judged (session.invoke on "StartAssessmentRun" parameters).1
      (GivesText parameters "assessmentTemplateArn")
      (NamesTemplate session.store parameters "assessmentTemplateArn") .noSuchEntity ∧
    Judged (session.invoke on "SubscribeToEvent" parameters).1
      (GivesText parameters "resourceArn" ∧ GivesText parameters "event" ∧
        GivesText parameters "topicArn")
      (NamesTemplate session.store parameters "resourceArn") .noSuchEntity :=
  ⟨checked_createAssessmentTemplate on session parameters,
    judged_createResourceGroup on session parameters,
    checked_createAssessmentTarget on session parameters,
    judged_startAssessmentRun on session parameters,
    judged_subscribeToEvent on session parameters⟩

-- the longest duration, and attributes of both forms
example : ((start "us-east-1" "123456789012").invoke ⟨Decimal.ofNat, .ofSeconds 0⟩
    "CreateAssessmentTemplate"
    (.obj [("assessmentTargetArn", .str "target"), ("assessmentTemplateName", .str "web"),
      ("durationInSeconds", .int 86400), ("rulesPackageArns", .arr [.str "package"]),
      ("userAttributesForFindings",
        .arr [.arr [.str "a"], .obj [("key", .str "b"), ("value", .str "c")]])])).1 =
      .ok (named "assessmentTemplateArn" "target/template/0-0") := by decide +kernel

-- an entry that is malformed counts before one that lacks its key
example : refusal? ((start "us-east-1" "123456789012").invoke ⟨Decimal.ofNat, .ofSeconds 0⟩
    "CreateResourceGroup" (.obj [("resourceGroupTags", .arr [.arr [], .int 1])])).1 =
      some .invalidInput := rfl

end Session

end Inspection
