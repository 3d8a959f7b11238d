import Inspection.Http
import Inspection.Proofs.Outcome
import Inspection.Proofs.Registry
import Inspection.Proofs.Session.Invocation

/-!
# How requests are handled

What a request names and carries, said on its headers and its body and apart
from the functions that check them, and everything that handling a request can
do to an endpoint.
-/

namespace Inspection

namespace Http

namespace Request

def Names (request : Request) (operation : String) : Prop :=
  operation ≠ "" ∧ request.header? "x-amz-target" = some ("InspectorService." ++ operation)

/-- The value of a body that is not blank. -/
def HoldsJson (body : ByteArray) (value : Json) : Prop :=
  isBlank body = false ∧
    ∃ text, String.fromUTF8? body = some text ∧ Json.ofText? text = some value

/-- A body carries parameters: none when it is blank, or those of an object. -/
inductive Carries (body : ByteArray) : Json → Prop
  | nothing (hblank : isBlank body = true) : Carries body (.obj [])
  | object {fields : List (String × Json)} (hjson : HoldsJson body (.obj fields)) :
      Carries body (.obj fields)

def IsAction (request : Request) : Prop :=
  request.method = "POST" ∧ request.path = "/"

def IsReset (request : Request) : Prop :=
  request.method = "POST" ∧ request.path = "/_reset"

/-- The region that a request is for. -/
def regionOr (defaultRegion : String) (request : Request) : String :=
  request.region?.getD defaultRegion

/-- The first check that a request for an action fails: the operation, then the
body, then the region. -/
inductive Fails (explain : ByteArray → String) (served : String → Prop) (defaultRegion : String)
    (request : Request) : ServiceError → Prop
  | operation (hnames : ∀ operation, ¬ request.Names operation) :
      Fails explain served defaultRegion request
        (.unknownOperation ((request.header? "x-amz-target").getD ""))
  | unreadable {operation : String} (hnames : request.Names operation)
      (hblank : isBlank request.body = false) (hjson : ∀ value, ¬ HoldsJson request.body value) :
      Fails explain served defaultRegion request (.unreadableBody (explain request.body))
  | notObject {operation : String} {value : Json} (hnames : request.Names operation)
      (hjson : HoldsJson request.body value) (hobject : ∀ fields, value ≠ .obj fields) :
      Fails explain served defaultRegion request .bodyNotObject
  | region {operation : String} {parameters : Json} (hnames : request.Names operation)
      (hcarries : Carries request.body parameters)
      (hserved : ¬ served (request.regionOr defaultRegion)) :
      Fails explain served defaultRegion request
        (.unservedRegion (request.regionOr defaultRegion))

theorem IsAction.not_isReset {request : Request} (h : request.IsAction) : ¬ request.IsReset := by
  intro hreset
  have hpaths : "/" = "/_reset" := h.2.symm.trans hreset.2
  exact absurd hpaths (by decide)

theorem Names.unique {request : Request} {operation other : String}
    (h : request.Names operation) (hother : request.Names other) : operation = other := by
  have htarget := Option.some.inj (h.2.symm.trans hother.2)
  exact (String.append_right_inj _).mp htarget

theorem HoldsJson.unique {body : ByteArray} {value other : Json} (h : HoldsJson body value)
    (hother : HoldsJson body other) : value = other := by
  obtain ⟨-, text, htext, hvalue⟩ := h
  obtain ⟨-, text', htext', hother⟩ := hother
  obtain rfl : text = text' := Option.some.inj (htext.symm.trans htext')
  exact Option.some.inj (hvalue.symm.trans hother)

namespace Carries

variable {body : ByteArray} {parameters other : Json}

theorem holdsJson (h : Carries body parameters) (hblank : isBlank body = false) :
    HoldsJson body parameters := by
  cases h with
  | nothing htrue => exact absurd (hblank.symm.trans htrue) (by decide)
  | object hjson => exact hjson

theorem eq_of_isBlank (h : Carries body parameters) (hblank : isBlank body = true) :
    parameters = .obj [] := by
  cases h with
  | nothing => rfl
  | object hjson => exact absurd (hjson.1.symm.trans hblank) (by decide)

theorem exists_fields (h : Carries body parameters) : ∃ fields, parameters = .obj fields := by
  cases h with
  | nothing => exact ⟨[], rfl⟩
  | object => exact ⟨_, rfl⟩

theorem unique (h : Carries body parameters) (hother : Carries body other) :
    parameters = other := by
  cases hblank : isBlank body with
  | false => exact (h.holdsJson hblank).unique (hother.holdsJson hblank)
  | true => exact (h.eq_of_isBlank hblank).trans (hother.eq_of_isBlank hblank).symm

end Carries

/-- With an operation and parameters, only the region is left to fail. -/
theorem Fails.unserved {explain : ByteArray → String} {served : String → Prop}
    {defaultRegion : String} {request : Request} {error : ServiceError}
    (h : request.Fails explain served defaultRegion error)
    {operation : String} {parameters : Json} (hnames : request.Names operation)
    (hcarries : Carries request.body parameters) :
    error = .unservedRegion (request.regionOr defaultRegion) ∧
      ¬ served (request.regionOr defaultRegion) := by
  cases h with
  | operation hnone => exact absurd hnames (hnone operation)
  | unreadable _ hblank hnone => exact absurd (hcarries.holdsJson hblank) (hnone _)
  | notObject _ hjson hobject =>
      obtain ⟨fields, rfl⟩ := hcarries.exists_fields
      exact absurd (hjson.unique (hcarries.holdsJson hjson.1)) (hobject fields)
  | region _ _ hserved => exact ⟨rfl, hserved⟩

/-! ## The checks of a request -/

variable {explain : ByteArray → String}

theorem eq_opening_append_iff {target operation : String} :
    target = "InspectorService." ++ operation ↔
      target.toList = operationOpening ++ operation.toList := by
  unfold operationOpening
  rw [← String.toList_append]
  exact String.toList_inj.symm

theorem operation_eq_ok_iff {request : Request} {operation : String} :
    request.operation = .ok operation ↔ request.Names operation := by
  have hempty : operation = "" ↔ operation.toList = [] := String.toList_eq_nil_iff.symm
  unfold Request.operation Names
  rw [Ne, hempty]
  dsimp only
  constructor
  · intro h
    split at h
    case h_1 c rest hafter =>
      obtain rfl : String.ofList (c :: rest) = operation := Except.ok.inj h
      rw [Text.afterOpening?_eq_some_iff] at hafter
      rw [String.toList_ofList]
      refine ⟨List.cons_ne_nil c rest, ?_⟩
      cases hheader : request.header? "x-amz-target" with
      | none =>
          rw [hheader, Option.getD_none, String.toList_empty] at hafter
          exact absurd hafter.symm (by simp)
      | some target =>
          rw [hheader, Option.getD_some] at hafter
          exact congrArg some (eq_opening_append_iff.mpr (by rwa [String.toList_ofList]))
    case h_2 => cases h
  · rintro ⟨hne, hheader⟩
    have hafter : Text.afterOpening? operationOpening
        ((request.header? "x-amz-target").getD "").toList = some operation.toList := by
      rw [Text.afterOpening?_eq_some_iff, ← eq_opening_append_iff, hheader, Option.getD_some]
    rw [hafter]
    obtain ⟨c, rest, hlist⟩ := List.exists_cons_of_ne_nil hne
    simp only [hlist]
    rw [← hlist, String.ofList_toList]

theorem operation_eq_error_iff {request : Request} {error : ServiceError} :
    request.operation = .error error ↔ (∀ operation, ¬ request.Names operation) ∧
      error = .unknownOperation ((request.header? "x-amz-target").getD "") := by
  simp only [← operation_eq_ok_iff]
  unfold Request.operation
  dsimp only
  split <;> simp [eq_comm]

theorem parameters_eq_ok_iff {body : ByteArray} {parameters : Json} :
    Request.parameters explain body = .ok parameters ↔ Carries body parameters := by
  unfold Request.parameters
  constructor
  · intro h
    split at h
    case isTrue hblank =>
      obtain rfl := Except.ok.inj h
      exact .nothing hblank
    case isFalse hblank =>
      split at h
      case h_1 => cases h
      case h_2 fields hread =>
        obtain rfl := Except.ok.inj h
        exact .object ⟨Bool.of_not_eq_true hblank, Option.bind_eq_some_iff.mp hread⟩
      case h_3 => cases h
  · intro h
    cases h with
    | nothing hblank => rw [if_pos hblank]
    | object hjson =>
        obtain ⟨hblank, hread⟩ := hjson
        rw [if_neg (by simp [hblank]), Option.bind_eq_some_iff.mpr hread]

theorem fails_of_parameters_eq_error {request : Request} {error : ServiceError}
    {served : String → Prop} {defaultRegion operation : String} (hnames : request.Names operation)
    (h : Request.parameters explain request.body = .error error) :
    Fails explain served defaultRegion request error := by
  unfold Request.parameters at h
  split at h
  case isTrue => cases h
  case isFalse hblank =>
    have hblank : isBlank request.body = false := Bool.of_not_eq_true hblank
    split at h
    case h_1 hread =>
      obtain rfl := Except.error.inj h
      refine .unreadable hnames hblank fun value hjson => ?_
      rw [Option.bind_eq_some_iff.mpr hjson.2] at hread
      cases hread
    case h_2 => cases h
    case h_3 value hobject hread =>
      obtain rfl := Except.error.inj h
      exact .notObject hnames ⟨hblank, Option.bind_eq_some_iff.mp hread⟩ hobject

end Request

/-- A request makes a call that goes to a store: it names the operation,
carries the parameters, and is for the region of the store. -/
structure Calls (registry : Registry) (request : Request) (call : Call) (store : Store) :
    Prop where
  names : request.Names call.operation
  region_eq : call.region = request.regionOr registry.defaultRegion
  carries : Request.Carries request.body call.parameters
  store_eq : registry.store call.region = .ok store

variable {explain : ByteArray → String}

theorem calls_of_resolve_eq_ok {registry : Registry} {request : Request} {call : Call}
    {store : Store} (h : resolve explain registry request = .ok (call, store)) :
    Calls registry request call store := by
  unfold resolve at h
  obtain ⟨operation, hoperation, h⟩ := Outcome.bind_eq_ok_iff.mp h
  obtain ⟨parameters, hparameters, h⟩ := Outcome.bind_eq_ok_iff.mp h
  obtain ⟨found, hfound, h⟩ := Outcome.bind_eq_ok_iff.mp h
  obtain ⟨rfl, rfl⟩ := Prod.mk.inj (Except.ok.inj h)
  exact ⟨Request.operation_eq_ok_iff.mp hoperation, rfl,
    Request.parameters_eq_ok_iff.mp hparameters, hfound⟩

theorem fails_of_resolve_eq_error {registry : Registry} {request : Request}
    {error : ServiceError} (h : resolve explain registry request = .error error) :
    request.Fails explain (fun region => registry.serves region = true) registry.defaultRegion
      error := by
  unfold resolve at h
  rcases Outcome.bind_eq_error_iff.mp h with hoperation | ⟨operation, hoperation, h⟩
  · obtain ⟨hnames, rfl⟩ := Request.operation_eq_error_iff.mp hoperation
    exact .operation hnames
  have hnames := Request.operation_eq_ok_iff.mp hoperation
  rcases Outcome.bind_eq_error_iff.mp h with hparameters | ⟨parameters, hparameters, h⟩
  · exact Request.fails_of_parameters_eq_error hnames hparameters
  have hcarries := Request.parameters_eq_ok_iff.mp hparameters
  rcases Outcome.bind_eq_error_iff.mp h with hstore | ⟨_, _, hpure⟩
  · obtain ⟨hserves, rfl⟩ := Registry.store_eq_error_iff.mp hstore
    exact .region hnames hcarries (Bool.eq_false_iff.mp hserves)
  · cases hpure

/-! ## Everything that handling does -/

namespace Endpoint

/-- What a request does to an endpoint, and the response. -/
inductive Handled (explain : ByteArray → String) (on : Occasion) (request : Request)
    (endpoint : Endpoint) : Response → Endpoint → Prop
  | oversized (haction : request.IsAction) (hsize : bodyLimit < request.body.size) :
      Handled explain on request endpoint .tooLarge endpoint
  | refused {error : ServiceError} (haction : request.IsAction)
      (hsize : request.body.size ≤ bodyLimit)
      (hfails : request.Fails explain (fun region => endpoint.registry.serves region = true)
        endpoint.registry.defaultRegion error) :
      Handled explain on request endpoint (.ofOutcome (.error error)) endpoint
  | invoked {call : Call} {store : Store} {answer : Except ServiceError Json}
      {session : Session} (haction : request.IsAction) (hsize : request.body.size ≤ bodyLimit)
      (hcalls : Calls endpoint.registry request call store)
      (hsession : Session.invoke on call.operation call.parameters ⟨store, endpoint.drawn⟩ =
        (answer, session)) :
      Handled explain on request endpoint (.ofOutcome answer)
        ⟨endpoint.registry.replace call.region session.store, session.drawn⟩
  | reset (hreset : request.IsReset) :
      Handled explain on request endpoint (.document 200 resetAnswer) endpoint.reset
  | elsewhere {status : Nat} (haction : ¬ request.IsAction) (hreset : ¬ request.IsReset)
      (hstatus : status = 404 ∨ status = 405) :
      Handled explain on request endpoint (.bare status) endpoint

theorem handled_handle (explain : ByteArray → String) (on : Occasion) (request : Request)
    (endpoint : Endpoint) :
    Handled explain on request endpoint (endpoint.handle explain on request).1
      (endpoint.handle explain on request).2 := by
  unfold handle
  by_cases hroot : request.path = "/"
  · rw [if_pos hroot]
    by_cases hpost : request.method = "POST"
    · rw [if_pos hpost]
      have haction : request.IsAction := ⟨hpost, hroot⟩
      by_cases hsize : bodyLimit < request.body.size
      · rw [if_pos hsize]
        exact .oversized haction hsize
      · rw [if_neg hsize]
        have hsize : request.body.size ≤ bodyLimit := Nat.le_of_not_lt hsize
        unfold act
        cases hresolve : resolve explain endpoint.registry request with
        | error error => exact .refused haction hsize (fails_of_resolve_eq_error hresolve)
        | ok found => exact .invoked haction hsize (calls_of_resolve_eq_ok hresolve) rfl
    · rw [if_neg hpost]
      exact .elsewhere (fun h => hpost h.1) (fun h => hpost h.1) (.inr rfl)
  · rw [if_neg hroot]
    by_cases hother : request.path = "/_reset"
    · rw [if_pos hother]
      by_cases hpost : request.method = "POST"
      · rw [if_pos hpost]
        exact .reset ⟨hpost, hother⟩
      · rw [if_neg hpost]
        exact .elsewhere (fun h => hpost h.1) (fun h => hpost h.1) (.inr rfl)
    · rw [if_neg hother]
      exact .elsewhere (fun h => hroot h.2) (fun h => hother h.2) (.inl rfl)

variable {on : Occasion} {request : Request} {endpoint next : Endpoint} {response : Response}

/-- A response of another status than 200 comes from an endpoint that stays as
it is. -/
theorem Handled.eq_self_of_status_ne (h : Handled explain on request endpoint response next)
    (hstatus : response.status ≠ 200) : next = endpoint := by
  cases h with
  | oversized => rfl
  | refused => rfl
  | elsewhere => rfl
  | reset => exact absurd rfl hstatus
  | @invoked call store answer session _ _ hcalls hsession =>
      cases answer with
      | ok document => exact absurd rfl hstatus
      | error error =>
          have hself := Session.invoke_eq_self_of_error (congrArg Prod.fst hsession)
          rw [hsession] at hself
          obtain rfl : session = ⟨store, endpoint.drawn⟩ := hself
          rw [Registry.replace_eq_self hcalls.store_eq]

theorem Handled.eq_self_of_elsewhere (h : Handled explain on request endpoint response next)
    (haction : ¬ request.IsAction) (hreset : ¬ request.IsReset) : next = endpoint := by
  cases h with
  | oversized hother | refused hother | invoked hother => exact absurd hother haction
  | reset hother => exact absurd hother hreset
  | elsewhere => rfl

theorem Handled.of_isReset (h : Handled explain on request endpoint response next)
    (hreset : request.IsReset) : response = .document 200 resetAnswer ∧ next = endpoint.reset := by
  cases h with
  | oversized haction | refused haction | invoked haction => exact absurd hreset haction.not_isReset
  | reset => exact ⟨rfl, rfl⟩
  | elsewhere _ hother => exact absurd hreset hother

end Endpoint

end Http

end Inspection
