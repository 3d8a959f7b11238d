import Inspection.Proofs.Arn
import Inspection.Table

/-!
# Tables of named entities

Entities stand under their own names, which end in ids that were drawn.  The
name of an entity with a new id is therefore none of the table, so that
insertion appends it and replaces nothing.
-/

namespace Inspection

namespace Table

variable {E : Type}

/-- One table is another with one more entry, under a new key at the end. -/
def Gains (before : Table E) (key : String) (value : E) (after : Table E) : Prop :=
  key ∉ before.keys ∧ after.entries = before.entries ++ [(key, value)]

theorem gains_insert {table : Table E} {key : String} (value : E) (h : key ∉ table.keys) :
    table.Gains key value (table.insert key value) :=
  ⟨h, entries_insert_of_notMem value h⟩

/-- An entity stands under its own name and belongs to the region, and its name
ends in one of the ids drawn so far. -/
structure Placed (ids : Nat → String) (region : String) (arn home : E → String) (drawn : Nat)
    (entry : String × E) : Prop where
  own_arn : arn entry.2 = entry.1
  at_home : home entry.2 = region
  issued : ∃ n < drawn, Arn.EndsIn (ids n) entry.1

def Filed (ids : Nat → String) (region : String) (arn home : E → String) (drawn : Nat)
    (table : Table E) : Prop :=
  ∀ entry ∈ table.entries, Placed ids region arn home drawn entry

namespace Filed

variable {ids : Nat → String} {region : String} {arn home : E → String} {drawn : Nat}
  {table : Table E}

theorem empty : Filed ids region arn home drawn .empty := by
  intro entry hentry
  exact absurd hentry List.not_mem_nil

theorem mono (h : Filed ids region arn home drawn table) {later : Nat} (hlater : drawn ≤ later) :
    Filed ids region arn home later table := by
  intro entry hentry
  obtain ⟨hown, hhome, n, hn, hends⟩ := h entry hentry
  exact ⟨hown, hhome, n, Nat.lt_of_lt_of_le hn hlater, hends⟩

theorem notMem_keys (h : Filed ids region arn home drawn table) (supply : IdSupply ids)
    {n : Nat} (hn : drawn ≤ n) {key : String} (hends : Arn.EndsIn (ids n) key) :
    key ∉ table.keys := by
  intro hkey
  obtain ⟨value, hentry⟩ := mem_keys_iff.mp hkey
  obtain ⟨m, hm, hends'⟩ := (h _ hentry).issued
  have heq : n = m := supply.eq_of_endsIn hends hends'
  omega

theorem insert (h : Filed ids region arn home drawn table) (supply : IdSupply ids) {entity : E}
    {n : Nat} (hn : drawn ≤ n) (hends : Arn.EndsIn (ids n) (arn entity))
    (hhome : home entity = region) {later : Nat} (hlater : n < later) :
    Filed ids region arn home later (table.insert (arn entity) entity) := by
  have hold : Filed ids region arn home later table :=
    h.mono (Nat.le_trans hn (Nat.le_of_lt hlater))
  have hnew : Placed ids region arn home later (arn entity, entity) :=
    ⟨rfl, hhome, n, hlater, hends⟩
  intro entry hentry
  rw [entries_insert_of_notMem entity (h.notMem_keys supply hn hends), List.mem_append,
    List.mem_singleton] at hentry
  rcases hentry with hentry | rfl
  · exact hold entry hentry
  · exact hnew

theorem update (h : Filed ids region arn home drawn table) {key : String} {change : E → E}
    (harn : ∀ entity, arn (change entity) = arn entity)
    (hhome : ∀ entity, home (change entity) = home entity) :
    Filed ids region arn home drawn (table.update key change) := by
  intro entry hentry
  obtain ⟨⟨k, entity⟩, hmem, rfl⟩ := List.mem_map.mp hentry
  obtain ⟨hown, hregion, hissued⟩ := h _ hmem
  by_cases hk : k = key
  · refine ⟨?_, ?_, hissued⟩
    · simpa [hk, harn] using hown
    · simpa [hk, hhome] using hregion
  · refine ⟨?_, ?_, hissued⟩
    · simpa [hk] using hown
    · simpa [hk] using hregion

theorem placed_of_get?_eq_some (h : Filed ids region arn home drawn table) {key : String}
    {entity : E} (hget : table.get? key = some entity) :
    Placed ids region arn home drawn (key, entity) :=
  h (key, entity) (get?_eq_some_iff.mp hget)

theorem map_arn_values (h : Filed ids region arn home drawn table) (test : E → Bool) :
    (table.values.filter test).map arn =
      (table.entries.filter fun entry => test entry.2).map Prod.fst := by
  rw [values, List.filter_map, List.map_map]
  refine List.map_congr_left fun entry hentry => ?_
  exact (h entry (List.mem_of_mem_filter hentry)).own_arn

end Filed

end Table

end Inspection
