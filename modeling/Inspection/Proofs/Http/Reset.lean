import Inspection.Proofs.Http.Regions

/-!
# What a reset leaves

After a reset of all regions, an endpoint is one that was just started, but for
the ids that were drawn.  A reset of one region makes that region a new one and
does not touch the others.  What the region does afterwards is compared with a
new endpoint in two runs: the endpoints agree on one region, and a request for
that region keeps them so.
-/

namespace Inspection

namespace Http

/-- The call of a request depends on the registry through the default region and
the store of the region that the request is for. -/
theorem resolve_congr {explain : ByteArray → String} {registry other : Registry}
    {request : Request}
    (hdefault : registry.defaultRegion = other.defaultRegion)
    (hstore : registry.store (request.regionOr registry.defaultRegion) =
      other.store (request.regionOr registry.defaultRegion)) :
    resolve explain registry request = resolve explain other request := by
  simp only [Request.regionOr] at hstore
  simp only [resolve, ← hdefault, hstore]

namespace Endpoint

variable {explain : ByteArray → String} {ids : Nat → String} {region : String}
  {endpoint other : Endpoint}

/-- Two endpoints that a region cannot tell apart. -/
structure AgreeOn (region : String) (endpoint other : Endpoint) : Prop where
  default_eq : endpoint.registry.defaultRegion = other.registry.defaultRegion
  drawn_eq : endpoint.drawn = other.drawn
  served : ∃ store, endpoint.registry.store region = .ok store ∧
    other.registry.store region = .ok store

namespace AgreeOn

theorem store_eq (h : AgreeOn region endpoint other) :
    endpoint.registry.store region = other.registry.store region := by
  obtain ⟨store, hstore, hother⟩ := h.served
  exact hstore.trans hother.symm

theorem reset (h : AgreeOn region endpoint other) : AgreeOn region endpoint.reset other.reset := by
  obtain ⟨store, hstore, hother⟩ := h.served
  refine ⟨h.default_eq, h.drawn_eq, store.reset, ?_, ?_⟩
  · exact Registry.store_reset hstore
  · exact Registry.store_reset hother

theorem act (h : AgreeOn region endpoint other) (explain : ByteArray → String) (on : Occasion)
    {request : Request} (hregion : request.regionOr endpoint.registry.defaultRegion = region) :
    (endpoint.act explain on request).1 = (other.act explain on request).1 ∧
      AgreeOn region (endpoint.act explain on request).2 (other.act explain on request).2 := by
  have hresolve : resolve explain endpoint.registry request =
      resolve explain other.registry request := by
    apply resolve_congr h.default_eq
    rw [hregion]
    exact h.store_eq
  unfold Endpoint.act
  rw [← hresolve]
  cases hcalled : resolve explain endpoint.registry request with
  | error error => exact ⟨rfl, h⟩
  | ok called =>
      obtain ⟨call, found⟩ := called
      obtain rfl : call.region = region := (calls_of_resolve_eq_ok hcalled).region_eq.trans hregion
      obtain ⟨store, hstore, hother⟩ := h.served
      simp only [Endpoint.invoke, ← h.drawn_eq, true_and]
      exact ⟨h.default_eq, rfl, _, Registry.store_replace_self hstore,
        Registry.store_replace_self hother⟩

theorem handle (h : AgreeOn region endpoint other) (explain : ByteArray → String) (on : Occasion)
    {request : Request} (hregion : request.IsAction →
      request.regionOr endpoint.registry.defaultRegion = region) :
    (endpoint.handle explain on request).1 = (other.handle explain on request).1 ∧
      AgreeOn region (endpoint.handle explain on request).2
        (other.handle explain on request).2 := by
  unfold Endpoint.handle
  by_cases hroot : request.path = "/"
  · by_cases hpost : request.method = "POST"
    · by_cases hsize : bodyLimit < request.body.size
      · simp only [if_pos hroot, if_pos hpost, if_pos hsize, true_and]
        exact h
      · obtain ⟨hanswer, hnext⟩ := h.act explain on (hregion ⟨hpost, hroot⟩)
        simp only [if_pos hroot, if_pos hpost, if_neg hsize, hanswer, true_and]
        exact hnext
    · simp only [if_pos hroot, if_neg hpost, true_and]
      exact h
  · by_cases hother : request.path = "/_reset"
    · by_cases hpost : request.method = "POST"
      · simp only [if_neg hroot, if_pos hother, if_pos hpost, true_and]
        exact h.reset
      · simp only [if_neg hroot, if_pos hother, if_neg hpost, true_and]
        exact h
    · simp only [if_neg hroot, if_neg hother, true_and]
      exact h

end AgreeOn

theorem serve_agreeOn (later : List Arrival) (h : AgreeOn region endpoint other)
    (hregion : ∀ arrival ∈ later, arrival.request.IsAction →
      arrival.request.regionOr endpoint.registry.defaultRegion = region) :
    (endpoint.serve explain ids later).1.map Exchange.response =
        (other.serve explain ids later).1.map Exchange.response ∧
      AgreeOn region (endpoint.serve explain ids later).2
        (other.serve explain ids later).2 := by
  induction later generalizing endpoint other with
  | nil => exact ⟨rfl, h⟩
  | cons arrival rest ih =>
      obtain ⟨hfirst, hrest⟩ := List.forall_mem_cons.mp hregion
      obtain ⟨hresponse, hnext⟩ := h.handle explain ⟨ids, arrival.now⟩ hfirst
      -- the default region, on which it depends whose the later requests are, stays
      have hhandled := handled_handle explain ⟨ids, arrival.now⟩ arrival.request endpoint
      have hhosts := hhandled.hosts ⟨rfl, fun _ => Iff.rfl⟩
      rw [← hhosts.default_eq] at hrest
      obtain ⟨hresponses, hlast⟩ := ih hnext hrest
      refine ⟨?_, hlast⟩
      simp only [serve, List.map_cons, hresponse, hresponses]

/-- One region of an endpoint starts anew, and the others go on.  Requests of
other regions are seen by the new store only in the number of ids drawn. -/
structure Renews (explain : ByteArray → String) (ids : Nat → String)
    (defaultRegion account region : String) (former fresh renewed : Endpoint) : Prop where
  drawn_eq : renewed.drawn = former.drawn
  regions_eq : renewed.registry.regions = former.registry.regions
  store_eq_of_ne : ∀ other, other ≠ region →
    renewed.registry.store other = former.registry.store other
  serve_eq : ∀ later : List Arrival,
    (∀ arrival ∈ later, arrival.request.IsAction →
      arrival.request.regionOr defaultRegion = region) →
    (renewed.serve explain ids later).1.map Exchange.response =
        (fresh.serve explain ids later).1.map Exchange.response ∧
      (renewed.serve explain ids later).2.registry.store region =
        (fresh.serve explain ids later).2.registry.store region
  visits : ∀ later : List Arrival,
    ∃ visits, VisitsOf defaultRegion region (renewed.serve explain ids later).1 visits ∧
      (renewed.serve explain ids later).2.registry.store region =
        .ok (Visit.attendAll ids (visits.map Prod.fst) (.empty region account)).2 ∧
      List.Forall₂ Response.Replies (visits.map Prod.snd)
        (Visit.attendAll ids (visits.map Prod.fst) (.empty region account)).1

theorem renews_resetRegion {regions : List String} {defaultRegion account : String}
    (hcovers : endpoint.registry.Covers regions defaultRegion account)
    (hserves : endpoint.registry.serves region = true) :
    Renews explain ids defaultRegion account region endpoint
      ⟨.build regions defaultRegion account, endpoint.drawn⟩ (endpoint.resetRegion region) := by
  have hnext := hcovers.resetRegion region
  have hfresh := Registry.store_build account (hcovers.serves_iff.mp hserves)
  have hstore := hcovers.store_resetRegion hserves
  refine ⟨rfl, ?_, fun other hne => Registry.store_resetRegion_ne hne, fun later hlater => ?_,
    fun later => ?_⟩
  · exact hnext.regions_eq.trans hcovers.regions_eq.symm
  · have hagree : AgreeOn region (endpoint.resetRegion region)
        ⟨.build regions defaultRegion account, endpoint.drawn⟩ :=
      ⟨hnext.default_eq, rfl, _, hstore, hfresh⟩
    rw [← hnext.default_eq] at hlater
    obtain ⟨hresponses, hlast⟩ := serve_agreeOn later hagree hlater
    exact ⟨hresponses, hlast.store_eq⟩
  · exact serve_visits explain ids later (endpoint.resetRegion region) hnext.default_eq hstore

end Endpoint

/-- A reset forgets everything that happened to an endpoint, and nothing else:
afterwards the endpoint answers, and changes, like one that was just built for
the same regions, from the next id on.  So does a region that is reset by
itself, while the other regions keep their stores. -/
theorem reset_forgets (explain : ByteArray → String) (ids : Nat → String) (regions : List String)
    (defaultRegion account : String) (history : List Event) :
    let former := (Endpoint.start regions defaultRegion account).live explain ids history
    let fresh : Endpoint := ⟨.build regions defaultRegion account, former.drawn⟩
    (∀ (now : Instant) (wiping : Request), wiping.IsReset →
      (former.handle explain ⟨ids, now⟩ wiping).1 = .document 200 Endpoint.resetAnswer ∧
        ∀ later : List Arrival,
          (former.handle explain ⟨ids, now⟩ wiping).2.serve explain ids later =
            fresh.serve explain ids later) ∧
    ∀ region, region ∈ regions ∨ region = defaultRegion →
      Endpoint.Renews explain ids defaultRegion account region former fresh
        (former.resetRegion region) := by
  intro former fresh
  have hcovers : former.registry.Covers regions defaultRegion account :=
    Endpoint.covers_live (Registry.Covers.build regions defaultRegion account) history
  constructor
  · rintro now wiping hreset
    obtain ⟨hresponse, hnext⟩ :=
      (Endpoint.handled_handle explain ⟨ids, now⟩ wiping former).of_isReset hreset
    refine ⟨hresponse, fun later => ?_⟩
    rw [hnext, Endpoint.reset, hcovers.reset_eq_build]
  · intro region hregion
    exact Endpoint.renews_resetRegion hcovers (hcovers.serves_iff.mpr hregion)

/-- A group is created in each of two regions, and all regions or the default one
are reset: the next group is the only one, with the next id. -/
theorem reset_forgets_of_created_group :
    let explain : ByteArray → String := fun _ => "EOF while parsing an object at line 1 column 1"
    let now := Instant.ofSeconds 1700000000
    let named := ("X-Amz-Target", "InspectorService.CreateResourceGroup")
    let body := "\x7b\"resourceGroupTags\":[\x7b\"key\":\"a\",\"value\":\"b\"\x7d]\x7d".toUTF8
    let creating : Request := ⟨"POST", "/", [named], body⟩
    let elsewhere : Request := ⟨"POST", "/", [named, ("Authorization",
      "AWS4-HMAC-SHA256 Credential=key/20240101/eu-west-1/inspector")], body⟩
    let wiping : Request := ⟨"POST", "/_reset", [], .empty⟩
    let former := (Endpoint.start ["eu-west-1"] "us-east-1" "123456789012").live explain
      Decimal.ofNat [.request ⟨now, creating⟩, .request ⟨now, elsewhere⟩]
    let fresh : Endpoint := ⟨.build ["eu-west-1"] "us-east-1" "123456789012", former.drawn⟩
    let wiped := former.handle explain ⟨Decimal.ofNat, now⟩ wiping
    let renewed := former.resetRegion "us-east-1"
    let groups := fun (endpoint : Endpoint) (region : String) =>
      (endpoint.registry.store region).toOption.map fun store => store.groups.keys
    (former.drawn = 2 ∧
      groups former "us-east-1" =
        some ["arn:aws:inspector:us-east-1:123456789012:resourcegroup/0-0"] ∧
      groups former "eu-west-1" =
        some ["arn:aws:inspector:eu-west-1:123456789012:resourcegroup/0-1"] ∧
      groups (fresh.serve explain Decimal.ofNat [⟨now, creating⟩]).2 "us-east-1" =
        some ["arn:aws:inspector:us-east-1:123456789012:resourcegroup/0-2"]) ∧
    (wiped.1 = .document 200 Endpoint.resetAnswer ∧
      wiped.2.serve explain Decimal.ofNat [⟨now, creating⟩] =
        fresh.serve explain Decimal.ofNat [⟨now, creating⟩]) ∧
    renewed.registry.store "eu-west-1" = former.registry.store "eu-west-1" ∧
      (renewed.serve explain Decimal.ofNat [⟨now, creating⟩]).2.registry.store "us-east-1" =
        (fresh.serve explain Decimal.ofNat [⟨now, creating⟩]).2.registry.store "us-east-1" := by
  intro explain now named body creating elsewhere wiping former fresh wiped renewed groups
  obtain ⟨hwiped, hrenews⟩ := reset_forgets explain Decimal.ofNat ["eu-west-1"] "us-east-1"
    "123456789012" [.request ⟨now, creating⟩, .request ⟨now, elsewhere⟩]
  have hreset : wiping.IsReset := ⟨rfl, by decide⟩
  obtain ⟨hresponse, hlater⟩ := hwiped now wiping hreset
  have hrenews : Endpoint.Renews explain Decimal.ofNat "us-east-1" "123456789012" "us-east-1"
      former fresh renewed := hrenews "us-east-1" (.inr rfl)
  refine ⟨by decide +kernel, ⟨hresponse, hlater [⟨now, creating⟩]⟩, ?_, ?_⟩
  · exact hrenews.store_eq_of_ne "eu-west-1" (by decide)
  · have hregion : ∀ arrival ∈ [(⟨now, creating⟩ : Arrival)], arrival.request.IsAction →
        arrival.request.regionOr "us-east-1" = "us-east-1" := by
      rintro arrival harrival -
      obtain rfl := List.mem_singleton.mp harrival
      decide
    exact (hrenews.serve_eq [⟨now, creating⟩] hregion).2

end Http

end Inspection
