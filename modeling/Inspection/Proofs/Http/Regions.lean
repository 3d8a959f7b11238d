import Inspection.Proofs.ByteOrder
import Inspection.Proofs.Http.Standalone
import Inspection.Proofs.Session.Codes
import Inspection.Settings

/-!
# The regions of an endpoint

An endpoint serves the regions it was started with for all its life, each from
a store of that name.  The settings say which these are.  A request for an
action is turned away because of its region only when it names one, and the
default region, which stands in otherwise, is always served.
-/

namespace Inspection

namespace Http

/-- What happens to an endpoint: a request, or a reset of all regions or of
one. -/
inductive Event where
  | request (arrival : Arrival)
  | reset
  | resetRegion (region : String)

namespace Endpoint

def resetRegion (region : String) (endpoint : Endpoint) : Endpoint :=
  { endpoint with registry := endpoint.registry.resetRegion region }

def undergo (explain : ByteArray → String) (ids : Nat → String) (endpoint : Endpoint) :
    Event → Endpoint
  | .request arrival => (endpoint.handle explain ⟨ids, arrival.now⟩ arrival.request).2
  | .reset => endpoint.reset
  | .resetRegion region => endpoint.resetRegion region

def live (explain : ByteArray → String) (ids : Nat → String) (endpoint : Endpoint)
    (events : List Event) : Endpoint :=
  events.foldl (undergo explain ids) endpoint

variable {explain : ByteArray → String} {ids : Nat → String} {on : Occasion}
  {regions : List String} {defaultRegion account : String} {endpoint next : Endpoint}
  {request : Request} {response : Response}

theorem Handled.covers (h : Handled explain on request endpoint response next)
    (hcovers : endpoint.registry.Covers regions defaultRegion account) :
    next.registry.Covers regions defaultRegion account := by
  cases h with
  | oversized | refused | elsewhere => exact hcovers
  | reset => exact hcovers.reset
  | @invoked call store answer session _ _ hcalls hsession =>
      have hhome := Session.invoke_home_eq on call.operation call.parameters
        ⟨store, endpoint.drawn⟩
      rw [hsession] at hhome
      obtain ⟨hregion, haccount⟩ := hcovers.of_store hcalls.store_eq
      exact hcovers.replace ⟨hhome.1.trans hregion, hhome.2.trans haccount⟩

theorem covers_undergo (hcovers : endpoint.registry.Covers regions defaultRegion account)
    (event : Event) :
    (endpoint.undergo explain ids event).registry.Covers regions defaultRegion account := by
  cases event with
  | request arrival => exact (handled_handle explain ⟨ids, arrival.now⟩ _ endpoint).covers hcovers
  | reset => exact hcovers.reset
  | resetRegion region => exact hcovers.resetRegion region

theorem covers_live (hcovers : endpoint.registry.Covers regions defaultRegion account)
    (events : List Event) :
    (endpoint.live explain ids events).registry.Covers regions defaultRegion account := by
  induction events generalizing endpoint with
  | nil => exact hcovers
  | cons event rest ih => exact ih (covers_undergo hcovers event)

end Endpoint

/-! ## Turned away -/

namespace Response

/-- A response tells of an error of some code. -/
def Tells (response : Response) (code : ErrorCode) : Prop :=
  response.status = 400 ∧ ∃ message,
    response.body = .json (.obj [("__type", .str code.text), ("message", .str message)])

theorem tells_error (error : ServiceError) : (ofOutcome (.error error)).Tells error.code :=
  ⟨rfl, error.message, rfl⟩

theorem Tells.unique {response : Response} {code other : ErrorCode} (h : response.Tells code)
    (hother : response.Tells other) : code = other := by
  obtain ⟨-, message, hmessage⟩ := h
  obtain ⟨-, message', hmessage'⟩ := hother
  have htext : code.text = other.text := by
    have hbody := hmessage.symm.trans hmessage'
    simp only [Body.json.injEq, Json.obj.injEq, List.cons.injEq, Prod.mk.injEq, Json.str.injEq,
      true_and] at hbody
    exact hbody.1
  revert htext
  cases code <;> cases other <;> decide

theorem exists_error_of_tells {answer : Except ServiceError Json} {code : ErrorCode}
    (h : (ofOutcome answer).Tells code) : ∃ error, answer = .error error ∧ error.code = code := by
  cases answer with
  | ok document =>
      have hstatus : 200 = 400 := h.1
      exact absurd hstatus (by decide)
  | error error => exact ⟨error, rfl, (tells_error error).unique h⟩

end Response

namespace Endpoint

variable {explain : ByteArray → String} {on : Occasion} {regions : List String}
  {defaultRegion account region operation : String} {parameters : Json} {endpoint next : Endpoint}
  {request : Request} {response : Response}

/-- Who is turned away has named a region that is not served. -/
theorem Handled.exists_region_of_tells (h : Handled explain on request endpoint response next)
    (hcovers : endpoint.registry.Covers regions defaultRegion account)
    (htells : response.Tells .unrecognizedClient) :
    ∃ region, request.region? = some region ∧ endpoint.registry.serves region = false := by
  cases h with
  | oversized =>
      have hstatus : 413 = 400 := htells.1
      exact absurd hstatus (by decide)
  | @refused error _ _ hfails =>
      have hcode := (Response.tells_error error).unique htells
      cases hfails with
      | operation | unreadable | notObject => exact absurd hcode (by simp [ServiceError.code])
      | region _ _ hserved =>
          cases hregion : request.region? with
          | some region =>
              rw [Request.regionOr, hregion] at hserved
              exact ⟨region, rfl, Bool.eq_false_iff.mpr hserved⟩
          | none =>
              rw [Request.regionOr, hregion, Option.getD_none, hcovers.default_eq] at hserved
              exact absurd (hcovers.serves_iff.mpr (.inr rfl)) hserved
  | @invoked call store answer session _ _ _ hsession =>
      obtain ⟨error, rfl, hcode⟩ := Response.exists_error_of_tells htells
      have hcodes := Session.invoke_refusedWith on call.operation call.parameters
        ⟨store, endpoint.drawn⟩ error (congrArg Prod.fst hsession)
      rw [hcode] at hcodes
      exact absurd hcodes (by decide)
  | reset =>
      have hstatus : 200 = 400 := htells.1
      exact absurd hstatus (by decide)
  | @elsewhere status _ _ hstatus =>
      have htold : status = 400 := htells.1
      omega

theorem Handled.tells_of_region (h : Handled explain on request endpoint response next)
    (haction : request.IsAction) (hsize : request.body.size ≤ bodyLimit)
    (hnames : request.Names operation) (hcarries : Request.Carries request.body parameters)
    (hregion : request.region? = some region)
    (hserves : endpoint.registry.serves region = false) :
    response.Tells .unrecognizedClient := by
  have hfor : ∀ otherwise, request.regionOr otherwise = region := by
    intro otherwise
    rw [Request.regionOr, hregion, Option.getD_some]
  cases h with
  | oversized _ hlarge => exact absurd hsize (Nat.not_le_of_lt hlarge)
  | refused _ _ hfails =>
      obtain ⟨rfl, -⟩ := hfails.unserved hnames hcarries
      exact Response.tells_error _
  | invoked _ _ hcalls _ =>
      have hserved := Registry.serves_of_store_eq_ok hcalls.store_eq
      rw [hcalls.region_eq, hfor, hserves] at hserved
      exact absurd hserved (by decide)
  | reset hreset => exact absurd hreset haction.not_isReset
  | elsewhere hother => exact absurd haction hother

/-- An endpoint serves some regions and a default one. -/
structure Serving (explain : ByteArray → String) (regions : List String) (defaultRegion : String)
    (endpoint : Endpoint) : Prop where
  ascending : endpoint.registry.regions.Pairwise fun x y => Text.bytes x < Text.bytes y
  mem_iff : ∀ region,
    region ∈ endpoint.registry.regions ↔ region ∈ regions ∨ region = defaultRegion
  at_home : ∀ region store, endpoint.registry.store region = .ok store → store.region = region
  turned_away_iff : ∀ (on : Occasion) (request : Request) (operation : String) (parameters : Json),
    request.IsAction → request.body.size ≤ bodyLimit → request.Names operation →
      Request.Carries request.body parameters →
        ((endpoint.handle explain on request).1.Tells .unrecognizedClient ↔
          ∃ region, request.region? = some region ∧ region ∉ endpoint.registry.regions)
  not_turned_away : ∀ (on : Occasion) (request : Request), request.region? = none →
    ¬ (endpoint.handle explain on request).1.Tells .unrecognizedClient

theorem serving_of_covers (h : endpoint.registry.Covers regions defaultRegion account) :
    endpoint.Serving explain regions defaultRegion := by
  have hserves : ∀ region,
      region ∈ endpoint.registry.regions ↔ endpoint.registry.serves region = true := by
    intro region
    rw [Registry.serves, List.contains_iff_mem]
  refine ⟨?_, fun region => ?_, fun region store hstore => (h.of_store hstore).1, ?_, ?_⟩
  · have hsorted : endpoint.registry.regions.Pairwise (· < ·) :=
      List.pairwise_map.mpr endpoint.registry.sorted
    exact hsorted.imp Text.bytes_lt_of_lt
  · rw [hserves, h.serves_iff]
  · intro on request operation parameters haction hsize hnames hcarries
    have hhandled := handled_handle explain on request endpoint
    simp only [hserves, Bool.not_eq_true]
    constructor
    · exact hhandled.exists_region_of_tells h
    · rintro ⟨region, hregion, hunserved⟩
      exact hhandled.tells_of_region haction hsize hnames hcarries hregion hunserved
  · intro on request hnone htells
    obtain ⟨region, hregion, -⟩ :=
      (handled_handle explain on request endpoint).exists_region_of_tells h htells
    exact absurd (hnone.symm.trans hregion) (by simp)

end Endpoint

/-- Whatever the settings of a file are, with any command line and environment,
and whatever happens to the endpoint that is started with them: it serves the
regions in effect and the default one, and these only. -/
theorem serving_regions_in_effect (explain : ByteArray → String) (ids : Nat → String)
    (settings : Settings) (arguments : Arguments) (environment : Environment)
    (events : List Event) :
    let effective := settings.effective arguments environment
    ((Endpoint.start effective.regions effective.defaultRegion effective.account).live explain ids
      events).Serving explain effective.regions effective.defaultRegion := by
  intro effective
  have hstart := Registry.Covers.build effective.regions effective.defaultRegion effective.account
  exact Endpoint.serving_of_covers (Endpoint.covers_live hstart events)

/-- The default region is not listed and another one twice: the first is served,
also after resets, and a third one is not. -/
theorem serving_regions_in_effect_of_unlisted_default :
    let settings : Settings :=
      ⟨none, none, some "mars", some ["venus", "earth", "venus"], none, none⟩
    let effective := settings.effective .unset [("AWS_DEFAULT_REGION", "pluto")]
    let explain : ByteArray → String := fun _ => "EOF while parsing an object at line 1 column 1"
    let endpoint := (Endpoint.start effective.regions effective.defaultRegion
      effective.account).live explain Decimal.ofNat [.resetRegion "earth", .reset]
    let request : Request := ⟨"POST", "/", [("X-Amz-Target", "InspectorService.ListFindings"),
      ("Authorization", "AWS4-HMAC-SHA256 Credential=key/20240101/pluto/inspector")], .empty⟩
    let on : Occasion := ⟨Decimal.ofNat, .ofSeconds 1700000000⟩
    "mars" ∈ endpoint.registry.regions ∧ request.region? = some "pluto" ∧
      (endpoint.handle explain on request).1.Tells .unrecognizedClient := by
  intro settings effective explain endpoint request on
  have hserving : endpoint.Serving explain effective.regions effective.defaultRegion :=
    serving_regions_in_effect explain Decimal.ofNat settings .unset
      [("AWS_DEFAULT_REGION", "pluto")] [.resetRegion "earth", .reset]
  have hregion : request.region? = some "pluto" := by decide
  have hpluto : "pluto" ∉ endpoint.registry.regions := by
    rw [hserving.mem_iff]
    decide
  have hnames : request.Names "ListFindings" := ⟨by decide, by decide⟩
  have hcarries : Request.Carries request.body (.obj []) := .nothing rfl
  refine ⟨(hserving.mem_iff "mars").mpr (.inr rfl), hregion, ?_⟩
  exact (hserving.turned_away_iff on request "ListFindings" (.obj []) ⟨rfl, by decide⟩ (by decide)
    hnames hcarries).mpr ⟨"pluto", hregion, hpluto⟩

end Http

end Inspection
