import Inspection.Answer

/-!
# Sessions

A store that is worked on: the actions with their effects and answers.  Ids are
drawn from a supply that is numbered from zero, and a session remembers how
many it has drawn.  An action that is refused changes nothing and draws
nothing.
-/

namespace Inspection

/-- What an action takes from its surroundings: the supply of ids, and the
time. -/
structure Occasion where
  ids : Nat → String
  now : Instant

/-- A store, and the number of ids drawn so far. -/
structure Session where
  store : Store
  drawn : Nat

namespace Session

def start (region account : String) : Session :=
  ⟨.empty region account, 0⟩

/-- Drops every entity; ids that were drawn stay drawn. -/
def reset (session : Session) : Session :=
  { session with store := session.store.reset }

def createGroup (on : Occasion) (tags : List TagEntry) (session : Session) :
    Except ServiceError ResourceGroup × Session :=
  match tags.mapM TagEntry.complete? with
  | none => (.error .incompleteTag, session)
  | some tags =>
    let store := session.store
    let group := ResourceGroup.create store.region store.account (on.ids session.drawn) on.now tags
    (.ok group, ⟨store.addGroup group, session.drawn + 1⟩)

def createTarget (on : Occasion) (name : String) (resourceGroupArn : Option String)
    (session : Session) : AssessmentTarget × Session :=
  let store := session.store
  let target := AssessmentTarget.create store.region store.account (on.ids session.drawn) on.now
    name resourceGroupArn
  (target, ⟨store.addTarget target, session.drawn + 1⟩)

def createTemplate (on : Occasion) (targetArn name : String) (duration : Int)
    (rulesPackageArns : List String) (attributes : List Attribute) (session : Session) :
    AssessmentTemplate × Session :=
  let store := session.store
  let template := AssessmentTemplate.create store.region (on.ids session.drawn) on.now targetArn
    name duration rulesPackageArns attributes
  (template, ⟨store.addTemplate template, session.drawn + 1⟩)

/-- Starts a run of a template, which at once reports a finding: an id for
each of the run, the finding and the agent is drawn. -/
def startRun (on : Occasion) (templateArn : String) (name : Option String)
    (session : Session) : Except ServiceError AssessmentRun × Session :=
  match session.store.template templateArn with
  | .error error => (.error error, session)
  | .ok template =>
    let run := template.startRun (on.ids session.drawn) on.now
      (name.getD (template.defaultRunName on.now))
    let finding := Catalog.reportedFinding run (on.ids (session.drawn + 1))
      (on.ids (session.drawn + 2)) on.now
    (.ok run, ⟨session.store.addRun run finding, session.drawn + 3⟩)

def subscribe (on : Occasion) (templateArn event topicArn : String) (session : Session) :
    Except ServiceError Unit × Session :=
  match session.store.template templateArn with
  | .error error => (.error error, session)
  | .ok _ =>
    (.ok (), { session with store := session.store.subscribe on.now templateArn event topicArn })

def named (name arn : String) : Json :=
  .obj [(name, .str arn)]

def execute (on : Occasion) (command : Command) (session : Session) :
    Except ServiceError Json × Session :=
  match command with
  | .createResourceGroup tags =>
    let (made, next) := session.createGroup on tags
    (made.map fun group => named "resourceGroupArn" group.arn, next)
  | .createAssessmentTarget name resourceGroupArn =>
    let (target, next) := session.createTarget on name resourceGroupArn
    (.ok (named "assessmentTargetArn" target.arn), next)
  | .createAssessmentTemplate targetArn name duration rulesPackageArns attributes =>
    let (template, next) :=
      session.createTemplate on targetArn name duration rulesPackageArns attributes
    (.ok (named "assessmentTemplateArn" template.arn), next)
  | .subscribeToEvent templateArn event topicArn =>
    let (done, next) := session.subscribe on templateArn event topicArn
    (done.map fun _ => .obj [], next)
  | .startAssessmentRun templateArn name =>
    let (started, next) := session.startRun on templateArn name
    (started.map fun run => named "assessmentRunArn" run.arn, next)

def perform (on : Occasion) (request : Request) (session : Session) :
    Except ServiceError Json × Session :=
  match request with
  | .query query => (session.store.answer query, session)
  | .command command => session.execute on command

/-- Carries out the action of a name with its parameters. -/
def invoke (on : Occasion) (name : String) (parameters : Json) (session : Session) :
    Except ServiceError Json × Session :=
  match Action.ofName? name with
  | none => (.error (.unknownOperation name), session)
  | some action =>
    match Request.read action parameters with
    | .error error => (.error error, session)
    | .ok request => session.perform on request

end Session

end Inspection
