import Inspection.Registry

/-!
# The stores of a registry

What look-up of a region finds in a new registry, after a store was replaced,
and after a reset.  A region's store is touched by no other region.
-/

namespace Inspection

namespace Ascending

variable {α : Type}

theorem get?_insert (key other : String) (value : α) (entries : List (String × α)) :
    Keyed.get? other (insert key value entries) =
      if key = other then some value else Keyed.get? other entries := by
  induction entries with
  | nil => simp [insert, Keyed.get?]
  | cons head rest ih =>
      obtain ⟨k, v⟩ := head
      simp only [insert]
      by_cases hlt : key < k
      · rw [if_pos hlt, Keyed.get?]
      · rw [if_neg hlt]
        by_cases hkey : key = k
        · subst hkey
          by_cases hother : key = other <;> simp [Keyed.get?, hother]
        · rw [if_neg hkey, Keyed.get?, Keyed.get?, ih]
          by_cases hk : k = other
          · have hne : key ≠ other := fun heq => hkey (heq.trans hk.symm)
            rw [if_pos hk, if_neg hne, if_pos hk]
          · rw [if_neg hk, if_neg hk]

theorem get?_ofList_map {f : String → α} {keys : List String} {key : String} (h : key ∈ keys) :
    Keyed.get? key (ofList (keys.map fun k => (k, f k))) = some (f key) := by
  have step : ∀ (keys : List String) (sorted : List (String × α)),
      key ∈ keys ∨ Keyed.get? key sorted = some (f key) →
        Keyed.get? key ((keys.map fun k => (k, f k)).foldl
          (fun sorted entry => insert entry.1 entry.2 sorted) sorted) = some (f key) := by
    intro keys
    induction keys with
    | nil => exact fun _ h => h.resolve_left (List.not_mem_nil)
    | cons head rest ih =>
        intro sorted h
        apply ih
        rw [get?_insert]
        by_cases hhead : head = key
        · exact .inr (by rw [if_pos hhead, hhead])
        · rw [if_neg hhead]
          rcases h with hmem | hget
          · exact .inl ((List.mem_cons.mp hmem).resolve_left (Ne.symm hhead))
          · exact .inr hget
  exact step keys [] (.inl h)

end Ascending

namespace Registry

variable {registry : Registry} {region other : String} {store : Store}

theorem store_eq_ok_iff :
    registry.store region = .ok store ↔ Keyed.get? region registry.stores = some store := by
  unfold Registry.store
  cases Keyed.get? region registry.stores <;> simp

theorem store_eq_error_iff {error : ServiceError} :
    registry.store region = .error error ↔
      registry.serves region = false ∧ error = .unservedRegion region := by
  have hserves : registry.serves region = false ↔ Keyed.get? region registry.stores = none := by
    rw [Keyed.get?_eq_none_iff]
    simp [serves, regions]
  unfold Registry.store
  rw [hserves]
  cases Keyed.get? region registry.stores <;> simp [eq_comm]

theorem store_build {regions : List String} {defaultRegion : String} (account : String)
    (h : region ∈ regions ∨ region = defaultRegion) :
    (build regions defaultRegion account).store region = .ok (.empty region account) := by
  rw [store_eq_ok_iff]
  exact Ascending.get?_ofList_map (by simpa using h)

theorem replace_eq_self (h : registry.store region = .ok store) :
    registry.replace region store = registry := by
  have hstores : Keyed.update region (fun _ => store) registry.stores = registry.stores :=
    Keyed.update_get?_eq_self registry.sorted.keys_nodup (store_eq_ok_iff.mp h)
  cases registry
  simp only [replace] at hstores ⊢
  congr

theorem store_replace_self {next : Store} (h : registry.store region = .ok store) :
    (registry.replace region next).store region = .ok next := by
  rw [store_eq_ok_iff] at h ⊢
  rw [replace, Keyed.get?_update_self, h, Option.map_some]

theorem store_replace_ne (hne : other ≠ region) (next : Store) :
    (registry.replace region next).store other = registry.store other := by
  rw [Registry.store, Registry.store, replace, Keyed.get?_update_ne hne]

theorem store_reset (h : registry.store region = .ok store) :
    registry.reset.store region = .ok store.reset := by
  rw [store_eq_ok_iff] at h ⊢
  rw [reset, Keyed.get?_map, h, Option.map_some]

theorem store_resetRegion_self (h : registry.store region = .ok store) :
    (registry.resetRegion region).store region = .ok store.reset := by
  rw [store_eq_ok_iff] at h ⊢
  rw [resetRegion, Keyed.get?_update_self, h, Option.map_some]

theorem store_resetRegion_ne (hne : other ≠ region) :
    (registry.resetRegion region).store other = registry.store other := by
  rw [Registry.store, Registry.store, resetRegion, Keyed.get?_update_ne hne]

theorem serves_of_store_eq_ok (h : registry.store region = .ok store) :
    registry.serves region = true := by
  rw [← Bool.not_eq_false]
  intro hserves
  rw [store_eq_error_iff.mpr ⟨hserves, rfl⟩] at h
  cases h

theorem exists_store_of_serves (h : registry.serves region = true) :
    ∃ store, registry.store region = .ok store := by
  cases hstore : registry.store region with
  | ok store => exact ⟨store, rfl⟩
  | error error =>
      have hserves := (store_eq_error_iff.mp hstore).1
      exact absurd (h.symm.trans hserves) (by decide)

theorem serves_replace (next : Store) :
    (registry.replace region next).serves other = registry.serves other := by
  rw [serves, serves, regions, regions, replace, Keyed.keys_update]

theorem serves_reset : registry.reset.serves region = registry.serves region := by
  simp [serves, regions, reset]

theorem serves_build_iff {regions : List String} {defaultRegion account : String} :
    (build regions defaultRegion account).serves region = true ↔
      region ∈ regions ∨ region = defaultRegion := by
  constructor
  · intro h
    obtain ⟨⟨_, store⟩, hentry, rfl⟩ := List.mem_map.mp (List.contains_iff_mem.mp h)
    obtain ⟨name, hname, heq⟩ := List.mem_map.mp (Ascending.mem_of_mem_ofList hentry)
    obtain ⟨rfl, -⟩ := Prod.mk.inj heq
    simpa using hname
  · intro h
    exact serves_of_store_eq_ok (store_build account h)

theorem ext {registry other : Registry} (hstores : registry.stores = other.stores)
    (hdefault : registry.defaultRegion = other.defaultRegion) : registry = other := by
  cases registry
  cases other
  simp_all

/-- A registry has the stores of some regions, each under its own name. -/
structure Covers (regions : List String) (defaultRegion account : String) (registry : Registry) :
    Prop where
  default_eq : registry.defaultRegion = defaultRegion
  regions_eq : registry.regions = (build regions defaultRegion account).regions
  at_home : ∀ entry ∈ registry.stores, entry.2.region = entry.1 ∧ entry.2.account = account

namespace Covers

variable {regions : List String} {defaultRegion account : String}

theorem build (regions : List String) (defaultRegion account : String) :
    Covers regions defaultRegion account (.build regions defaultRegion account) := by
  refine ⟨rfl, rfl, fun entry hentry => ?_⟩
  obtain ⟨name, -, rfl⟩ := List.mem_map.mp (Ascending.mem_of_mem_ofList hentry)
  exact ⟨rfl, rfl⟩

theorem of_store (h : Covers regions defaultRegion account registry)
    (hstore : registry.store region = .ok store) :
    store.region = region ∧ store.account = account :=
  h.at_home _ (Keyed.mem_of_get?_eq_some (store_eq_ok_iff.mp hstore))

theorem update (h : Covers regions defaultRegion account registry) {change : Store → Store}
    (hchange : ∀ store, store.region = region ∧ store.account = account →
      (change store).region = region ∧ (change store).account = account) {next : Registry}
    (hstores : next.stores = Keyed.update region change registry.stores)
    (hdefault : next.defaultRegion = registry.defaultRegion) :
    Covers regions defaultRegion account next where
  default_eq := hdefault.trans h.default_eq
  regions_eq := by
    rw [← h.regions_eq, Registry.regions, Registry.regions, hstores, Keyed.keys_update]
  at_home := by
    rw [hstores]
    intro entry hentry
    obtain ⟨⟨name, former⟩, hformer, rfl⟩ := List.mem_map.mp hentry
    have hhome := h.at_home _ hformer
    by_cases hname : name = region
    · subst hname
      simpa using hchange former hhome
    · simpa [hname] using hhome

theorem replace (h : Covers regions defaultRegion account registry) {next : Store}
    (hnext : next.region = region ∧ next.account = account) :
    Covers regions defaultRegion account (registry.replace region next) :=
  h.update (fun _ _ => hnext) rfl rfl

theorem resetRegion (h : Covers regions defaultRegion account registry) (region : String) :
    Covers regions defaultRegion account (registry.resetRegion region) := by
  have hchange : ∀ store : Store, store.region = region ∧ store.account = account →
      store.reset.region = region ∧ store.reset.account = account := fun _ hhome => hhome
  exact h.update hchange rfl rfl

theorem reset (h : Covers regions defaultRegion account registry) :
    Covers regions defaultRegion account registry.reset where
  default_eq := h.default_eq
  regions_eq := by
    rw [← h.regions_eq]
    simp [Registry.regions, Registry.reset]
  at_home := by
    intro entry hentry
    obtain ⟨former, hformer, rfl⟩ := List.mem_map.mp hentry
    exact h.at_home former hformer

theorem serves_iff (h : Covers regions defaultRegion account registry) :
    registry.serves region = true ↔ region ∈ regions ∨ region = defaultRegion := by
  have hbuilt : (Registry.build regions defaultRegion account).serves region = true ↔ _ :=
    serves_build_iff
  rw [← hbuilt, serves, serves, h.regions_eq]

theorem store_resetRegion (h : Covers regions defaultRegion account registry)
    (hserves : registry.serves region = true) :
    (registry.resetRegion region).store region = .ok (.empty region account) := by
  obtain ⟨store, hstore⟩ := exists_store_of_serves hserves
  obtain ⟨hregion, haccount⟩ := h.of_store hstore
  rw [store_resetRegion_self hstore, Store.reset, hregion, haccount]

theorem reset_eq_build (h : Covers regions defaultRegion account registry) :
    registry.reset = .build regions defaultRegion account := by
  have hreset : registry.reset.stores =
      registry.regions.map fun name => (name, Store.empty name account) := by
    rw [Registry.regions, List.map_map]
    refine List.map_congr_left fun entry hentry => ?_
    obtain ⟨hregion, haccount⟩ := h.at_home entry hentry
    simp [Store.reset, hregion, haccount]
  have hbuilt : (Registry.build regions defaultRegion account).stores =
      (Registry.build regions defaultRegion account).regions.map fun name =>
        (name, Store.empty name account) := by
    rw [Registry.regions, List.map_map]
    refine (List.map_id _).symm.trans (List.map_congr_left fun entry hentry => ?_)
    obtain ⟨name, -, rfl⟩ := List.mem_map.mp (Ascending.mem_of_mem_ofList hentry)
    rfl
  refine ext ?_ h.default_eq
  rw [hreset, hbuilt, h.regions_eq]

end Covers

end Registry

end Inspection
