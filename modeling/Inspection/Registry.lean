import Inspection.Ascending
import Inspection.Store

/-!
# The served regions

One store for each region that is served, by ascending name, and the region
that requests without one go to.
-/

namespace Inspection

/-- The stores of the served regions, each region once. -/
structure Registry where
  stores : List (String × Store)
  defaultRegion : String
  sorted : Ascending.Sorted stores

namespace Registry

/-- New stores for some regions; the default region is always among them. -/
def build (regions : List String) (defaultRegion account : String) : Registry where
  stores := Ascending.ofList
    ((regions ++ [defaultRegion]).map fun region => (region, Store.empty region account))
  defaultRegion := defaultRegion
  sorted := Ascending.sorted_ofList _

def regions (registry : Registry) : List String :=
  registry.stores.map Prod.fst

def serves (registry : Registry) (region : String) : Bool :=
  registry.regions.contains region

/-- The store of a region, which must be served. -/
def store (registry : Registry) (region : String) : Except ServiceError Store :=
  match Keyed.get? region registry.stores with
  | some store => .ok store
  | none => .error (.unservedRegion region)

/-- Puts another store in the place of that of a region. -/
def replace (registry : Registry) (region : String) (store : Store) : Registry where
  stores := Keyed.update region (fun _ => store) registry.stores
  defaultRegion := registry.defaultRegion
  sorted := registry.sorted.congr_keys (Keyed.keys_update region _ _)

def resetRegion (registry : Registry) (region : String) : Registry where
  stores := Keyed.update region Store.reset registry.stores
  defaultRegion := registry.defaultRegion
  sorted := registry.sorted.congr_keys (Keyed.keys_update region _ _)

def reset (registry : Registry) : Registry where
  stores := registry.stores.map fun (region, store) => (region, store.reset)
  defaultRegion := registry.defaultRegion
  sorted := registry.sorted.congr_keys (by simp)

end Registry

end Inspection
