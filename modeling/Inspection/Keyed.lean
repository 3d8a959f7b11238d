/-!
# Lists of keyed values

Look-up by key in a list of pairs, and the change of the value under a key in
its place.
-/

namespace Inspection

namespace Keyed

variable {α : Type}

/-- The first value under a key. -/
def get? (key : String) : List (String × α) → Option α
  | [] => none
  | (k, value) :: rest => if k = key then some value else get? key rest

/-- Changes the values under a key where they stand. -/
def update (key : String) (change : α → α) (entries : List (String × α)) :
    List (String × α) :=
  entries.map fun (k, value) => (k, if k = key then change value else value)

theorem keys_update (key : String) (change : α → α) (entries : List (String × α)) :
    (update key change entries).map Prod.fst = entries.map Prod.fst := by
  simp [update]

theorem get?_eq_none_iff {key : String} {entries : List (String × α)} :
    get? key entries = none ↔ key ∉ entries.map Prod.fst := by
  induction entries with
  | nil => simp [get?]
  | cons head rest ih =>
    obtain ⟨k, value⟩ := head
    by_cases h : k = key
    · simp [get?, h]
    · rw [get?, if_neg h, ih, List.map_cons, List.mem_cons, not_or]
      exact ⟨fun hrest => ⟨Ne.symm h, hrest⟩, fun hboth => hboth.2⟩

theorem mem_of_get?_eq_some {key : String} {value : α} {entries : List (String × α)}
    (h : get? key entries = some value) : (key, value) ∈ entries := by
  induction entries with
  | nil => simp [get?] at h
  | cons head rest ih =>
      obtain ⟨k, v⟩ := head
      by_cases hk : k = key
      · have hv : v = value := by simpa [get?, hk] using h
        simp [hk, hv]
      · rw [get?, if_neg hk] at h
        exact List.mem_cons_of_mem _ (ih h)

/-- Under distinct keys, look-up finds exactly the pairs that stand in the list. -/
theorem get?_eq_some_iff {key : String} {value : α} {entries : List (String × α)}
    (hkeys : (entries.map Prod.fst).Nodup) :
    get? key entries = some value ↔ (key, value) ∈ entries := by
  refine ⟨mem_of_get?_eq_some, fun hmem => ?_⟩
  induction entries with
  | nil => simp at hmem
  | cons head rest ih =>
      obtain ⟨k, v⟩ := head
      obtain ⟨hk, hrest⟩ := List.nodup_cons.mp hkeys
      rcases List.mem_cons.mp hmem with heq | hmem
      · obtain ⟨rfl, rfl⟩ := Prod.mk.inj heq
        simp [get?]
      · have hne : k ≠ key := fun heq =>
          hk (List.mem_map.mpr ⟨(key, value), hmem, heq.symm⟩)
        rw [get?, if_neg hne]
        exact ih hrest hmem

theorem get?_update_self (key : String) (change : α → α) (entries : List (String × α)) :
    get? key (update key change entries) = (get? key entries).map change := by
  induction entries with
  | nil => rfl
  | cons head rest ih =>
      obtain ⟨k, v⟩ := head
      by_cases hk : k = key
      · simp [update, get?, hk]
      · simpa [update, get?, hk] using ih

theorem get?_update_ne {key other : String} (hne : other ≠ key) (change : α → α)
    (entries : List (String × α)) :
    get? other (update key change entries) = get? other entries := by
  induction entries with
  | nil => rfl
  | cons head rest ih =>
      obtain ⟨k, v⟩ := head
      by_cases hk : k = other
      · subst hk
        simp [update, get?, hne]
      · simpa [update, get?, hk] using ih

theorem get?_filter_ne {key other : String} (hne : other ≠ key) (entries : List (String × α)) :
    get? other (entries.filter fun entry => entry.1 != key) = get? other entries := by
  induction entries with
  | nil => rfl
  | cons head rest ih =>
      obtain ⟨k, v⟩ := head
      by_cases hk : k = key
      · subst hk
        simpa [get?, hne.symm] using ih
      · by_cases hother : k = other
        · simp [get?, hother, hne]
        · simpa [get?, hk, hother] using ih

theorem get?_map {β : Type} (key : String) (f : α → β) (entries : List (String × α)) :
    get? key (entries.map fun (k, v) => (k, f v)) = (get? key entries).map f := by
  induction entries with
  | nil => rfl
  | cons head rest ih =>
      obtain ⟨k, v⟩ := head
      by_cases hk : k = key
      · simp [get?, hk]
      · simpa [get?, hk] using ih

/-- Under distinct keys, putting back the value that a key has changes nothing. -/
theorem update_get?_eq_self {key : String} {value : α} {entries : List (String × α)}
    (hkeys : (entries.map Prod.fst).Nodup) (h : get? key entries = some value) :
    update key (fun _ => value) entries = entries := by
  have hfixed : ∀ entry ∈ entries,
      (fun (k, v) => (k, if k = key then value else v)) entry = entry := by
    rintro ⟨k, v⟩ hmem
    by_cases hk : k = key
    · subst hk
      have hv : get? k entries = some v := (get?_eq_some_iff hkeys).mpr hmem
      have heq : value = v := Option.some.inj (h.symm.trans hv)
      simp [heq]
    · simp [hk]
  calc
    update key (fun _ => value) entries = entries.map id := List.map_congr_left hfixed
    _ = entries := List.map_id entries

end Keyed

end Inspection
