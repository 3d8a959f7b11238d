import Inspection.Http.Target
import Inspection.Json.Reader
import Inspection.Registry
import Inspection.Session
import Inspection.Text

/-!
# The HTTP front end

An action is a POST to the root path that names its operation in a header and
carries the parameters as a JSON body; the region is the one of the credential
scope.  A second path resets every region.

The reader of JSON tells in its own words what is wrong with a body that it
cannot read: `explain` stands for these, whatever they are.
-/

namespace Inspection

namespace Http

structure Request where
  method : String
  target : String
  headers : List (String × String)
  body : ByteArray

inductive Body where
  | empty
  | json (value : Json)
  | text (value : String)

/-- A response; `numbered` tells whether it has a request id. -/
structure Response where
  status : Nat
  contentType : Option String
  numbered : Bool
  body : Body

/-- The served regions, and the number of ids drawn so far. -/
structure Endpoint where
  registry : Registry
  drawn : Nat

/-- The largest body that is read, in bytes. -/
def bodyLimit : Nat := 2097152

variable (explain : ByteArray → String)

namespace Request

/-- Header values of visible ASCII, spaces and tabs can be read as text. -/
def isPlain (value : String) : Bool :=
  value.toList.all fun c => c == '\t' || (32 ≤ c.toNat && c.toNat < 127)

def lowerCase (name : String) : String :=
  String.ofList (name.toList.map Char.toLower)

/-- The text of the first header of a name, whose case has no meaning. -/
def header? (request : Request) (name : String) : Option String :=
  match request.headers.find? fun header => lowerCase header.1 == name with
  | some (_, value) => if isPlain value then some value else none
  | none => none

def path (request : Request) : String :=
  String.ofList (Target.path request.target.toList)

/-- What the name of an operation stands behind. -/
def operationOpening : List Char := "InspectorService.".toList

def operation (request : Request) : Except ServiceError String :=
  let target := (request.header? "x-amz-target").getD ""
  match Text.afterOpening? operationOpening target.toList with
  | some (c :: rest) => .ok (String.ofList (c :: rest))
  | _ => .error (.unknownOperation target)

/-- What a credential stands behind. -/
def credentialMark : List Char := "Credential=".toList

/-- The region of the credential scope in an authorization: the third part
between slashes, when there is one. -/
def credentialRegion? (authorization : String) : Option String := do
  let behind ← Text.afterFirst? credentialMark authorization.toList
  let credential := Text.beforeFirst credentialMark behind
  let scope := credential.takeWhile fun c => !(c == ',' || c == ' ')
  match Text.pieces '/' scope with
  | _ :: _ :: (c :: rest) :: _ => some (String.ofList (c :: rest))
  | _ => none

/-- The region of a request, if it has one. -/
def region? (request : Request) : Option String :=
  (request.header? "authorization").bind credentialRegion?

/-- A body of blanks only: spaces, tabs, line and form feeds, and carriage
returns. -/
def isBlank (body : ByteArray) : Bool :=
  body.data.toList.all fun byte =>
    byte == 32 || byte == 9 || byte == 10 || byte == 12 || byte == 13

/-- The parameters in a body: an object, or none at all in a blank body. -/
def parameters (body : ByteArray) : Except ServiceError Json :=
  if isBlank body then .ok (.obj [])
  else
    match (String.fromUTF8? body).bind Json.ofText? with
    | none => .error (.unreadableBody (explain body))
    | some (.obj fields) => .ok (.obj fields)
    | some _ => .error .bodyNotObject

end Request

structure Call where
  operation : String
  region : String
  parameters : Json

/-- The call that a request makes, and the store it goes to: the operation,
the body and the region are checked in this order. -/
def resolve (registry : Registry) (request : Request) : Except ServiceError (Call × Store) := do
  let operation ← request.operation
  let region := request.region?.getD registry.defaultRegion
  let parameters ← Request.parameters explain request.body
  let store ← registry.store region
  return (⟨operation, region, parameters⟩, store)

namespace Response

def document (status : Nat) (value : Json) : Response :=
  ⟨status, some "application/x-amz-json-1.1", true, .json value⟩

def ofOutcome : Except ServiceError Json → Response
  | .ok value => document 200 value
  | .error error => document error.code.status error.document

def bare (status : Nat) : Response :=
  ⟨status, none, false, .empty⟩

/-- The response to a body that is too large. -/
def tooLarge : Response :=
  ⟨413, some "text/plain; charset=utf-8", false,
    .text "Failed to buffer the request body: length limit exceeded"⟩

end Response

namespace Endpoint

/-- New stores for some regions, before any id is drawn. -/
def start (regions : List String) (defaultRegion account : String) : Endpoint :=
  ⟨.build regions defaultRegion account, 0⟩

def invoke (on : Occasion) (region : String) (store : Store) (operation : String)
    (parameters : Json) (endpoint : Endpoint) : Except ServiceError Json × Endpoint :=
  let (answer, session) := Session.invoke on operation parameters ⟨store, endpoint.drawn⟩
  (answer, ⟨endpoint.registry.replace region session.store, session.drawn⟩)

def act (on : Occasion) (request : Request) (endpoint : Endpoint) :
    Except ServiceError Json × Endpoint :=
  match resolve explain endpoint.registry request with
  | .error error => (.error error, endpoint)
  | .ok (call, store) => endpoint.invoke on call.region store call.operation call.parameters

def reset (endpoint : Endpoint) : Endpoint :=
  { endpoint with registry := endpoint.registry.reset }

def resetAnswer : Json := .obj [("status", .str "ok")]

def handle (on : Occasion) (request : Request) (endpoint : Endpoint) : Response × Endpoint :=
  if request.path = "/" then
    if request.method = "POST" then
      if bodyLimit < request.body.size then (.tooLarge, endpoint)
      else
        let (answer, next) := endpoint.act explain on request
        (.ofOutcome answer, next)
    else (.bare 405, endpoint)
  else if request.path = "/_reset" then
    if request.method = "POST" then (.document 200 resetAnswer, endpoint.reset)
    else (.bare 405, endpoint)
  else (.bare 404, endpoint)

end Endpoint

end Http

end Inspection
