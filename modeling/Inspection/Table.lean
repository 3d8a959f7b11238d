import Inspection.Keyed

/-!
# Tables in order of arrival

Values under distinct keys, in the order in which the keys arrived.  A key that
arrives again keeps its place and takes the new value.
-/

namespace Inspection

/-- Values under distinct keys, in order of arrival. -/
structure Table (α : Type) where
  entries : List (String × α)
  keys_nodup : (entries.map Prod.fst).Nodup

namespace Table

variable {α : Type}

def empty : Table α := ⟨[], by simp⟩

instance : Inhabited (Table α) := ⟨empty⟩

def keys (table : Table α) : List String :=
  table.entries.map Prod.fst

/-- The values in order of arrival of their keys. -/
def values (table : Table α) : List α :=
  table.entries.map Prod.snd

def size (table : Table α) : Nat :=
  table.entries.length

def get? (table : Table α) (key : String) : Option α :=
  Keyed.get? key table.entries

/-- Changes the value under a key, if there is one. -/
def update (table : Table α) (key : String) (change : α → α) : Table α where
  entries := Keyed.update key change table.entries
  keys_nodup := by rw [Keyed.keys_update]; exact table.keys_nodup

/-- Puts a value under a key: a new key comes last. -/
def insert (table : Table α) (key : String) (value : α) : Table α :=
  if h : key ∈ table.keys then
    table.update key fun _ => value
  else
    { entries := table.entries ++ [(key, value)]
      keys_nodup := by
        rw [List.map_append]
        refine List.nodup_append.mpr ⟨table.keys_nodup, by simp, fun k hk l hl => ?_⟩
        rintro rfl
        simp only [List.map_cons, List.map_nil, List.mem_singleton] at hl
        exact h (hl ▸ hk) }

/-- The values under some keys, in the order of the keys; unknown keys are
skipped. -/
def pick (table : Table α) (keys : List String) : List α :=
  keys.filterMap table.get?

@[simp]
theorem keys_update (table : Table α) (key : String) (change : α → α) :
    (table.update key change).keys = table.keys :=
  Keyed.keys_update key change table.entries

theorem entries_insert_of_notMem {table : Table α} {key : String} (value : α)
    (h : key ∉ table.keys) :
    (table.insert key value).entries = table.entries ++ [(key, value)] := by
  simp [insert, h]

theorem get?_eq_none_iff {table : Table α} {key : String} :
    table.get? key = none ↔ key ∉ table.keys :=
  Keyed.get?_eq_none_iff

theorem get?_eq_some_iff {table : Table α} {key : String} {value : α} :
    table.get? key = some value ↔ (key, value) ∈ table.entries :=
  Keyed.get?_eq_some_iff table.keys_nodup

theorem get?_insert_of_get?_eq_some {table : Table α} {key other : String} {found : α} (value : α)
    (hkey : key ∉ table.keys) (hother : table.get? other = some found) :
    (table.insert key value).get? other = some found := by
  rw [get?_eq_some_iff, entries_insert_of_notMem value hkey]
  exact List.mem_append_left _ (get?_eq_some_iff.mp hother)

theorem get?_update_self (table : Table α) (key : String) (change : α → α) :
    (table.update key change).get? key = (table.get? key).map change :=
  Keyed.get?_update_self key change table.entries

theorem get?_update_ne {key other : String} (hne : other ≠ key) (table : Table α)
    (change : α → α) : (table.update key change).get? other = table.get? other :=
  Keyed.get?_update_ne hne change table.entries

theorem keys_insert_of_notMem {table : Table α} {key : String} (value : α)
    (h : key ∉ table.keys) : (table.insert key value).keys = table.keys ++ [key] := by
  rw [keys, entries_insert_of_notMem value h, List.map_append]
  rfl

theorem values_insert_of_notMem {table : Table α} {key : String} (value : α)
    (h : key ∉ table.keys) : (table.insert key value).values = table.values ++ [value] := by
  rw [values, entries_insert_of_notMem value h, List.map_append]
  rfl

theorem mem_keys_iff {table : Table α} {key : String} :
    key ∈ table.keys ↔ ∃ value, (key, value) ∈ table.entries := by
  simp [keys]

theorem mem_values_of_get?_eq_some {table : Table α} {key : String} {value : α}
    (h : table.get? key = some value) : value ∈ table.values :=
  List.mem_map_of_mem (get?_eq_some_iff.mp h)

theorem forall_mem_values_update {table : Table α} {P : α → Prop} {change : α → α}
    (h : ∀ value ∈ table.values, P value) (hchange : ∀ value, P value → P (change value))
    (key : String) : ∀ value ∈ (table.update key change).values, P value := by
  intro value hvalue
  obtain ⟨_, hentry, rfl⟩ := List.mem_map.mp hvalue
  obtain ⟨⟨k, former⟩, hformer, rfl⟩ := List.mem_map.mp hentry
  have hP : P former := h former (List.mem_map_of_mem hformer)
  by_cases hk : k = key
  · simpa [hk] using hchange former hP
  · simpa [hk] using hP

theorem forall_mem_values_insert {table : Table α} {P : α → Prop} {value : α}
    (h : ∀ former ∈ table.values, P former) (hvalue : P value) (key : String) :
    ∀ other ∈ (table.insert key value).values, P other := by
  by_cases hkey : key ∈ table.keys
  · rw [insert, dif_pos hkey]
    exact forall_mem_values_update h (fun _ _ => hvalue) key
  · rw [values_insert_of_notMem value hkey, List.forall_mem_append, List.forall_mem_singleton]
    exact ⟨h, hvalue⟩

end Table

end Inspection
