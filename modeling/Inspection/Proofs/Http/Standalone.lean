import Inspection.Proofs.Http.Handling
import Mathlib.Data.List.Forall2

/-!
# Regions as standalone stores

An endpoint that answers requests one after the other keeps, for each region,
the store that would have come about had only the calls of that region and the
resets been made, on a store that stands alone.  The calls of other regions are
seen in one thing only: how many ids are drawn before a call.
-/

namespace Inspection

namespace Http

structure Arrival where
  now : Instant
  request : Request

/-- A request that was answered, between two states of the endpoint. -/
structure Exchange where
  now : Instant
  request : Request
  before : Endpoint
  response : Response
  after : Endpoint

def Exchange.arrival (exchange : Exchange) : Arrival :=
  ⟨exchange.now, exchange.request⟩

def Endpoint.serve (explain : ByteArray → String) (ids : Nat → String) :
    List Arrival → Endpoint → List Exchange × Endpoint
  | [], endpoint => ([], endpoint)
  | arrival :: rest, endpoint =>
    let (response, next) := endpoint.handle explain ⟨ids, arrival.now⟩ arrival.request
    let (exchanges, last) := next.serve explain ids rest
    (⟨arrival.now, arrival.request, endpoint, response, next⟩ :: exchanges, last)

/-- Exchanges that lead from one endpoint to another, each from what the one
before it left. -/
inductive Follow : Endpoint → List Exchange → Endpoint → Prop
  | nil (endpoint : Endpoint) : Follow endpoint [] endpoint
  | cons {exchange : Exchange} {exchanges : List Exchange} {first last : Endpoint}
      (hbefore : exchange.before = first) (hrest : Follow exchange.after exchanges last) :
      Follow first (exchange :: exchanges) last

/-- What is done to one store: an action at a time, with the number of ids
drawn before it, or a reset. -/
inductive Visit where
  | call (now : Instant) (drawn : Nat) (operation : String) (parameters : Json)
  | reset

/-- The answer of a store to a visit, and the store after it. -/
def Visit.attend (ids : Nat → String) (visit : Visit) (store : Store) :
    Except ServiceError Json × Store :=
  match visit with
  | .call now drawn operation parameters =>
    let (answer, session) := Session.invoke ⟨ids, now⟩ operation parameters ⟨store, drawn⟩
    (answer, session.store)
  | .reset => (.ok Endpoint.resetAnswer, store.reset)

/-- The number of ids drawn after a visit, of those before it. -/
def Visit.drawnAfter (ids : Nat → String) (visit : Visit) (store : Store) (drawn : Nat) : Nat :=
  match visit with
  | .call now drawn operation parameters =>
    (Session.invoke ⟨ids, now⟩ operation parameters ⟨store, drawn⟩).2.drawn
  | .reset => drawn

/-- The answers of a store that stands alone, and what becomes of it. -/
def Visit.attendAll (ids : Nat → String) :
    List Visit → Store → List (Except ServiceError Json) × Store
  | [], store => ([], store)
  | visit :: rest, store =>
    let (answer, next) := visit.attend ids store
    let (answers, last) := attendAll ids rest next
    (answer :: answers, last)

/-- The visit that a request pays to the store of a region. -/
inductive Asks (defaultRegion region : String) (exchange : Exchange) : Visit → Prop
  | call {operation : String} {parameters : Json} (haction : exchange.request.IsAction)
      (hsize : exchange.request.body.size ≤ bodyLimit)
      (hnames : exchange.request.Names operation)
      (hcarries : Request.Carries exchange.request.body parameters)
      (hregion : exchange.request.regionOr defaultRegion = region) :
      Asks defaultRegion region exchange
        (.call exchange.now exchange.before.drawn operation parameters)
  | reset (hreset : exchange.request.IsReset) : Asks defaultRegion region exchange .reset

/-- The visits to the store of a region in order, with the responses. -/
inductive VisitsOf (defaultRegion region : String) :
    List Exchange → List (Visit × Response) → Prop
  | nil : VisitsOf defaultRegion region [] []
  | asks {exchange : Exchange} {visit : Visit} {exchanges : List Exchange}
      {visits : List (Visit × Response)} (hasks : Asks defaultRegion region exchange visit)
      (hrest : VisitsOf defaultRegion region exchanges visits) :
      VisitsOf defaultRegion region (exchange :: exchanges)
        ((visit, exchange.response) :: visits)
  | passes {exchange : Exchange} {exchanges : List Exchange}
      {visits : List (Visit × Response)}
      (hasks : ∀ visit, ¬ Asks defaultRegion region exchange visit)
      (hrest : VisitsOf defaultRegion region exchanges visits) :
      VisitsOf defaultRegion region (exchange :: exchanges) visits

/-- A response tells of an answer: 200 with the document, or 400 with the code
and the message of the error. -/
def Response.Replies (response : Response) : Except ServiceError Json → Prop
  | .ok document => response.status = 200 ∧ response.body = .json document
  | .error error => response.status = 400 ∧ response.body =
      .json (.obj [("__type", .str error.code.text), ("message", .str error.message)])

/-- An exchange is a visit to the store of a region, which changes and answers
as it would alone, and the ids that are drawn in it are counted for all
regions. -/
structure Attends (ids : Nat → String) (region : String) (exchange : Exchange) (visit : Visit)
    (store : Store) : Prop where
  store_eq : exchange.after.registry.store region = .ok (visit.attend ids store).2
  replies : exchange.response.Replies (visit.attend ids store).1
  drawn_eq : exchange.after.drawn = visit.drawnAfter ids store exchange.before.drawn

theorem Response.replies_ofOutcome (answer : Except ServiceError Json) :
    (Response.ofOutcome answer).Replies answer := by
  cases answer with
  | error error => exact ⟨rfl, rfl⟩
  | ok document => exact ⟨rfl, rfl⟩

/-! ## One request -/

theorem Asks.of_isAction {defaultRegion region : String} {exchange : Exchange} {visit : Visit}
    (h : Asks defaultRegion region exchange visit) (haction : exchange.request.IsAction) :
    exchange.request.body.size ≤ bodyLimit ∧ exchange.request.regionOr defaultRegion = region ∧
      ∃ operation parameters, exchange.request.Names operation ∧
        Request.Carries exchange.request.body parameters := by
  cases h with
  | call _ hsize hnames hcarries hregion => exact ⟨hsize, hregion, _, _, hnames, hcarries⟩
  | reset hreset => exact absurd hreset haction.not_isReset

theorem Asks.unique {defaultRegion region : String} {exchange : Exchange} {visit other : Visit}
    (h : Asks defaultRegion region exchange visit)
    (hother : Asks defaultRegion region exchange other) : visit = other := by
  cases h with
  | call haction _ hnames hcarries _ =>
      cases hother with
      | call _ _ hnames' hcarries' _ => rw [hnames.unique hnames', hcarries.unique hcarries']
      | reset hreset => exact absurd hreset haction.not_isReset
  | reset hreset =>
      cases hother with
      | call haction => exact absurd hreset haction.not_isReset
      | reset => rfl

namespace Endpoint

variable {explain : ByteArray → String} {ids : Nat → String} {now : Instant} {request : Request}
  {endpoint next : Endpoint} {response : Response}

/-- A request either visits the store of a region or passes it by. -/
theorem Handled.asks_or_passes (h : Handled explain ⟨ids, now⟩ request endpoint response next)
    {region : String} {store : Store} (hstore : endpoint.registry.store region = .ok store) :
    (∃ visit, Asks endpoint.registry.defaultRegion region
        ⟨now, request, endpoint, response, next⟩ visit ∧
      Attends ids region ⟨now, request, endpoint, response, next⟩ visit store) ∨
    ((∀ visit, ¬ Asks endpoint.registry.defaultRegion region
        ⟨now, request, endpoint, response, next⟩ visit) ∧
      next.registry.store region = .ok store) := by
  cases h with
  | oversized haction hsize =>
      refine .inr ⟨fun visit hasks => ?_, hstore⟩
      exact absurd (hasks.of_isAction haction).1 (Nat.not_le_of_lt hsize)
  | refused haction _ hfails =>
      refine .inr ⟨fun visit hasks => ?_, hstore⟩
      obtain ⟨_, hregion, _, _, hnames, hcarries⟩ := hasks.of_isAction haction
      apply (hfails.unserved hnames hcarries).2
      rw [show request.regionOr endpoint.registry.defaultRegion = region from hregion]
      exact Registry.serves_of_store_eq_ok hstore
  | @invoked call found answer session haction hsize hcalls hsession =>
      by_cases hregion : call.region = region
      · left
        rw [← hregion] at hstore ⊢
        obtain rfl : found = store := Except.ok.inj (hcalls.store_eq.symm.trans hstore)
        refine ⟨.call now endpoint.drawn call.operation call.parameters, ?_, ?_, ?_, ?_⟩
        · exact .call haction hsize hcalls.names hcalls.carries hcalls.region_eq.symm
        · simp only [Visit.attend, hsession]
          exact Registry.store_replace_self hstore
        · simp only [Visit.attend, hsession]
          exact Response.replies_ofOutcome answer
        · simp only [Visit.drawnAfter, hsession]
      · right
        constructor
        · intro visit hasks
          exact hregion (hcalls.region_eq.trans (hasks.of_isAction haction).2.1)
        · exact (Registry.store_replace_ne (Ne.symm hregion) _).trans hstore
  | reset hreset =>
      exact .inl ⟨.reset, .reset hreset, Registry.store_reset hstore, ⟨rfl, rfl⟩, rfl⟩
  | elsewhere haction hreset =>
      refine .inr ⟨?_, hstore⟩
      intro visit hasks
      cases hasks with
      | call hother => exact haction hother
      | reset hother => exact hreset hother

/-- An endpoint serves some regions, one of them by default. -/
structure Hosts (served : String → Prop) (defaultRegion : String) (endpoint : Endpoint) :
    Prop where
  default_eq : endpoint.registry.defaultRegion = defaultRegion
  serves_iff : ∀ region, endpoint.registry.serves region = true ↔ served region

theorem Handled.hosts (h : Handled explain ⟨ids, now⟩ request endpoint response next)
    {served : String → Prop} {defaultRegion : String}
    (hosts : endpoint.Hosts served defaultRegion) : next.Hosts served defaultRegion := by
  cases h with
  | oversized => exact hosts
  | refused => exact hosts
  | elsewhere => exact hosts
  | invoked =>
      refine ⟨hosts.default_eq, fun region => ?_⟩
      rw [Registry.serves_replace]
      exact hosts.serves_iff region
  | reset =>
      refine ⟨hosts.default_eq, fun region => ?_⟩
      rw [Endpoint.reset, Registry.serves_reset]
      exact hosts.serves_iff region

theorem hosts_start (regions : List String) (defaultRegion account : String) :
    (start regions defaultRegion account).Hosts
      (fun region => region ∈ regions ∨ region = defaultRegion) defaultRegion :=
  ⟨rfl, fun _ => Registry.serves_build_iff⟩

/-! ## Any number of requests -/

/-- The store of a region after some requests, and the responses to its visits,
are those of the store alone. -/
theorem serve_visits (explain : ByteArray → String) (ids : Nat → String)
    (arrivals : List Arrival) (endpoint : Endpoint) {defaultRegion region : String}
    (hdefault : endpoint.registry.defaultRegion = defaultRegion) {store : Store}
    (hstore : endpoint.registry.store region = .ok store) :
    ∃ visits, VisitsOf defaultRegion region (endpoint.serve explain ids arrivals).1 visits ∧
      (endpoint.serve explain ids arrivals).2.registry.store region =
        .ok (Visit.attendAll ids (visits.map Prod.fst) store).2 ∧
      List.Forall₂ Response.Replies (visits.map Prod.snd)
        (Visit.attendAll ids (visits.map Prod.fst) store).1 := by
  induction arrivals generalizing endpoint store with
  | nil => exact ⟨[], .nil, hstore, .nil⟩
  | cons arrival rest ih =>
      have hhandled := handled_handle explain ⟨ids, arrival.now⟩ arrival.request endpoint
      -- whose a request is depends on the default region, which stays
      have hnext := (hhandled.hosts ⟨hdefault, fun _ => Iff.rfl⟩).default_eq
      have hcases := hhandled.asks_or_passes hstore
      rw [hdefault] at hcases
      rcases hcases with ⟨visit, hasks, hattends⟩ | ⟨hpasses, hstore'⟩
      · obtain ⟨visits, hvisits, hlast, hall⟩ := ih _ hnext hattends.store_eq
        exact ⟨(visit, _) :: visits, .asks hasks hvisits, hlast, .cons hattends.replies hall⟩
      · obtain ⟨visits, hvisits, hlast, hall⟩ := ih _ hnext hstore'
        exact ⟨visits, .passes hpasses hvisits, hlast, hall⟩

theorem serve_map_arrival (explain : ByteArray → String) (ids : Nat → String)
    (arrivals : List Arrival) (endpoint : Endpoint) :
    (endpoint.serve explain ids arrivals).1.map Exchange.arrival = arrivals := by
  induction arrivals generalizing endpoint with
  | nil => rfl
  | cons arrival rest ih =>
      simp only [serve, List.map_cons, ih]
      rfl

theorem follow_serve (explain : ByteArray → String) (ids : Nat → String)
    (arrivals : List Arrival) (endpoint : Endpoint) :
    Follow endpoint (endpoint.serve explain ids arrivals).1
      (endpoint.serve explain ids arrivals).2 := by
  induction arrivals generalizing endpoint with
  | nil => exact .nil endpoint
  | cons arrival rest ih =>
      exact .cons rfl (ih _)

theorem handled_of_mem_serve (explain : ByteArray → String) (ids : Nat → String)
    (arrivals : List Arrival) {endpoint : Endpoint} {served : String → Prop}
    {defaultRegion : String} (hosts : endpoint.Hosts served defaultRegion) :
    ∀ x ∈ (endpoint.serve explain ids arrivals).1,
      Handled explain ⟨ids, x.now⟩ x.request x.before x.response x.after ∧
        x.before.Hosts served defaultRegion := by
  induction arrivals generalizing endpoint with
  | nil => simp [serve]
  | cons arrival rest ih =>
      have hhandled := handled_handle explain ⟨ids, arrival.now⟩ arrival.request endpoint
      simp only [serve, List.forall_mem_cons]
      exact ⟨⟨hhandled, hosts⟩, ih (hhandled.hosts hosts)⟩

/-- Whoever asks for a served region visits its store. -/
theorem Handled.attends_of_asks
    (h : Handled explain ⟨ids, now⟩ request endpoint response next) {served : String → Prop}
    {defaultRegion region : String} (hosts : endpoint.Hosts served defaultRegion)
    (hserved : served region) {visit : Visit}
    (hasks : Asks defaultRegion region ⟨now, request, endpoint, response, next⟩ visit) :
    ∃ store, endpoint.registry.store region = .ok store ∧
      Attends ids region ⟨now, request, endpoint, response, next⟩ visit store := by
  have hserves := (hosts.serves_iff region).mpr hserved
  obtain ⟨store, hstore⟩ := Registry.exists_store_of_serves hserves
  have hcases := h.asks_or_passes hstore
  rw [hosts.default_eq] at hcases
  rcases hcases with ⟨visit', hasks', hattends⟩ | ⟨hpasses, -⟩
  · obtain rfl := hasks'.unique hasks
    exact ⟨store, hstore, hattends⟩
  · exact absurd hasks (hpasses visit)

/-- A request for an action that visits no served region is answered with its
first failing check, and leaves the endpoint as it is. -/
theorem Handled.fails_of_no_visit (h : Handled explain ⟨ids, now⟩ request endpoint response next)
    {served : String → Prop} {defaultRegion : String}
    (hosts : endpoint.Hosts served defaultRegion) (haction : request.IsAction)
    (hsize : request.body.size ≤ bodyLimit)
    (hnone : ∀ region, served region → ∀ visit,
      ¬ Asks defaultRegion region ⟨now, request, endpoint, response, next⟩ visit) :
    ∃ error, request.Fails explain served defaultRegion error ∧
      response.Replies (.error error) ∧ next = endpoint := by
  cases h with
  | oversized _ hlarge => exact absurd hsize (Nat.not_le_of_lt hlarge)
  | @refused error _ _ hfails =>
      have hserved : (fun region => endpoint.registry.serves region = true) = served :=
        funext fun region => propext (hosts.serves_iff region)
      rw [hserved, hosts.default_eq] at hfails
      exact ⟨error, hfails, Response.replies_ofOutcome _, rfl⟩
  | @invoked call store _ _ _ _ hcalls _ =>
      have hserves := Registry.serves_of_store_eq_ok hcalls.store_eq
      have hregion := hcalls.region_eq.symm
      rw [hosts.default_eq] at hregion
      exact absurd (.call haction hsize hcalls.names hcalls.carries hregion)
        (hnone _ ((hosts.serves_iff _).mp hserves) _)
  | reset hreset => exact absurd hreset haction.not_isReset
  | elsewhere hother => exact absurd haction hother

end Endpoint

/-- For any requests to a new endpoint, which are handled one after the other:
every served region has the store, and gives the answers, of one that stands
alone and is visited by its own calls and the resets.  Any other request for an
action is answered with the first check that it fails; it changes nothing, nor
does a request with another path or method. -/
theorem serve_refines_standalone (explain : ByteArray → String) (ids : Nat → String)
    (regions : List String) (defaultRegion account : String) (arrivals : List Arrival) :
    let served region := region ∈ regions ∨ region = defaultRegion
    let start := Endpoint.start regions defaultRegion account
    let result := start.serve explain ids arrivals
    result.1.map Exchange.arrival = arrivals ∧ Follow start result.1 result.2 ∧
    (∀ region, served region →
      ∃ visits, VisitsOf defaultRegion region result.1 visits ∧
        result.2.registry.store region =
          .ok (Visit.attendAll ids (visits.map Prod.fst) (.empty region account)).2 ∧
        List.Forall₂ Response.Replies (visits.map Prod.snd)
          (Visit.attendAll ids (visits.map Prod.fst) (.empty region account)).1) ∧
    (∀ x ∈ result.1, ∀ region, served region → ∀ visit, Asks defaultRegion region x visit →
      ∃ store, x.before.registry.store region = .ok store ∧ Attends ids region x visit store) ∧
    (∀ x ∈ result.1, x.request.IsAction → x.request.body.size ≤ bodyLimit →
      (∀ region, served region → ∀ visit, ¬ Asks defaultRegion region x visit) →
        ∃ error, x.request.Fails explain served defaultRegion error ∧
          x.response.Replies (.error error) ∧ x.after = x.before) ∧
    ∀ x ∈ result.1, ¬ x.request.IsAction → ¬ x.request.IsReset → x.after = x.before := by
  intro served start result
  have hosts := Endpoint.hosts_start regions defaultRegion account
  have hhandled := Endpoint.handled_of_mem_serve explain ids arrivals hosts
  refine ⟨Endpoint.serve_map_arrival explain ids arrivals start,
    Endpoint.follow_serve explain ids arrivals start, fun region hregion => ?_,
    fun x hx region hregion visit hasks => ?_, fun x hx haction hsize hnone => ?_,
    fun x hx haction hreset => ?_⟩
  · exact Endpoint.serve_visits explain ids arrivals start rfl
      (Registry.store_build account hregion)
  · obtain ⟨hx, hosts⟩ := hhandled x hx
    exact hx.attends_of_asks hosts hregion hasks
  · obtain ⟨hx, hosts⟩ := hhandled x hx
    exact hx.fails_of_no_visit hosts haction hsize hnone
  · exact (hhandled x hx).1.eq_self_of_elsewhere haction hreset

/-- A group is created in one region and a target in another, which is asked for a
run in vain; a body that cannot be read and a wrong method follow; then all is
reset, and the group is created again. -/
theorem serve_refines_standalone_of_two_regions :
    let explain : ByteArray → String := fun _ => "EOF while parsing an object at line 1 column 1"
    let now := Instant.ofSeconds 1700000000
    let ireland := ("Authorization", "AWS4-HMAC-SHA256 Credential=key/20240101/eu-west-1/inspector")
    let grouping : Request := ⟨"POST", "/",
      [("X-Amz-Target", "InspectorService.CreateResourceGroup"), ireland],
      "\x7b\"resourceGroupTags\":[\x7b\"key\":\"a\",\"value\":\"b\"\x7d]\x7d".toUTF8⟩
    let targeting : Request := ⟨"POST", "/",
      [("X-Amz-Target", "InspectorService.CreateAssessmentTarget")],
      "\x7b\"assessmentTargetName\":\"web\"\x7d".toUTF8⟩
    let running : Request := ⟨"POST", "/",
      [("X-Amz-Target", "InspectorService.StartAssessmentRun")],
      "\x7b\"assessmentTemplateArn\":\"template\"\x7d".toUTF8⟩
    let broken : Request := ⟨"POST", "/",
      [("X-Amz-Target", "InspectorService.CreateResourceGroup"), ireland], "\x7b".toUTF8⟩
    let looking : Request := ⟨"GET", "/", [], .empty⟩
    let wiping : Request := ⟨"POST", "/_reset", [], .empty⟩
    let arrivals : List Arrival :=
      [⟨now, grouping⟩, ⟨now, targeting⟩, ⟨now, running⟩, ⟨now, broken⟩, ⟨now, looking⟩,
        ⟨now, wiping⟩, ⟨now, grouping⟩]
    let start := Endpoint.start ["eu-west-1"] "us-east-1" "123456789012"
    let result := start.serve explain Decimal.ofNat arrivals
    (result.1.map (fun x => (x.response.status, x.after.drawn)) =
        [(200, 1), (200, 2), (400, 2), (400, 2), (405, 2), (200, 2), (200, 3)] ∧
      (result.2.registry.store "eu-west-1").toOption.map (fun store => store.groups.keys) =
        some ["arn:aws:inspector:eu-west-1:123456789012:resourcegroup/0-2"] ∧
      (result.2.registry.store "us-east-1").toOption.map (fun store => store.targets.keys) =
        some []) ∧
    (result.1.map Exchange.arrival = arrivals ∧ Follow start result.1 result.2) ∧
    (∀ region ∈ ["eu-west-1", "us-east-1"],
      ∃ visits, VisitsOf "us-east-1" region result.1 visits ∧
        result.2.registry.store region = .ok (Visit.attendAll Decimal.ofNat (visits.map Prod.fst)
          (.empty region "123456789012")).2) ∧
    (∀ x ∈ result.1, x.request = targeting → ∃ store,
      x.before.registry.store "us-east-1" = .ok store ∧
        Attends Decimal.ofNat "us-east-1" x (.call x.now x.before.drawn "CreateAssessmentTarget"
          (.obj [("assessmentTargetName", .str "web")])) store) ∧
    (∀ x ∈ result.1, x.request = broken →
      x.response.Replies
        (.error (.unreadableBody "EOF while parsing an object at line 1 column 1")) ∧
      x.after = x.before) ∧
    ∀ x ∈ result.1, x.request = looking → x.after = x.before := by
  intro explain now ireland grouping targeting running broken looking wiping arrivals start result
  -- the run is spelled as in the theorem, so that the parts are not evaluated to be compared
  simp only [result, start]
  obtain ⟨harrivals, hfollow, hstores, hvisits, hfailing, helsewhere⟩ :=
    serve_refines_standalone explain Decimal.ofNat ["eu-west-1"] "us-east-1" "123456789012" arrivals
  refine ⟨by decide +kernel, ⟨harrivals, hfollow⟩, fun region hregion => ?_, fun x hx heq => ?_,
    fun x hx heq => ?_, fun x hx heq => ?_⟩
  · obtain ⟨visits, hvisits, hstore, -⟩ := hstores region (by simpa using hregion)
    exact ⟨visits, hvisits, hstore⟩
  · have hread : Request.parameters explain targeting.body =
        .ok (.obj [("assessmentTargetName", .str "web")]) := by decide +kernel
    refine hvisits x hx "us-east-1" (.inr rfl) _ (.call ?_ ?_ ?_ ?_ ?_)
    all_goals rw [heq]
    · exact ⟨rfl, by decide⟩
    · decide +kernel
    · exact ⟨by decide, by decide⟩
    · exact Request.parameters_eq_ok_iff.mp hread
    · decide
  · have hblank : Request.isBlank broken.body = false := by decide +kernel
    have hread : (String.fromUTF8? broken.body).bind Json.ofText? = none := by decide +kernel
    have hnone : ∀ value, ¬ Request.HoldsJson broken.body value := by
      intro value hjson
      rw [Option.bind_eq_some_iff.mpr hjson.2] at hread
      cases hread
    have haction : x.request.IsAction := heq ▸ ⟨rfl, by decide⟩
    obtain ⟨error, hfails, hreplies, hsame⟩ := hfailing x hx haction (by rw [heq]; decide +kernel)
      fun region _ visit hasks => by
        obtain ⟨_, _, _, parameters, _, hcarries⟩ := hasks.of_isAction haction
        rw [heq] at hcarries
        exact hnone parameters (hcarries.holdsJson hblank)
    rw [heq] at hfails
    cases hfails with
    | operation hnames => exact absurd ⟨by decide, by decide⟩ (hnames "CreateResourceGroup")
    | unreadable => exact ⟨hreplies, hsame⟩
    | notObject _ hjson => exact absurd hjson (hnone _)
    | region _ hcarries => exact absurd (hcarries.holdsJson hblank) (hnone _)
  · have hmethod : x.request.method ≠ "POST" := by
      rw [heq]
      decide
    exact helsewhere x hx (fun haction => hmethod haction.1) (fun hreset => hmethod hreset.1)

end Http

end Inspection
