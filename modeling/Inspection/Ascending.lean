/-!
# Keyed lists in ascending order

Lists of keyed values whose keys ascend by code point, without repetition.
Insertion keeps the order (`sorted_insert`) and replaces the value of a key
that is already there.
-/

namespace Inspection

namespace Ascending

variable {α : Type}

def Sorted (entries : List (String × α)) : Prop :=
  entries.Pairwise fun x y => x.1 < y.1

/-- Puts a value under a key, at the place the order asks for. -/
def insert (key : String) (value : α) : List (String × α) → List (String × α)
  | [] => [(key, value)]
  | (k, v) :: rest =>
    if key < k then (key, value) :: (k, v) :: rest
    else if key = k then (key, value) :: rest
    else (k, v) :: insert key value rest

/-- The ascending list of some pairs; of a repeated key the last value
stays. -/
def ofList (entries : List (String × α)) : List (String × α) :=
  entries.foldl (fun sorted entry => insert entry.1 entry.2 sorted) []

/-- The order is one of the keys alone. -/
theorem Sorted.congr_keys {β : Type} {entries : List (String × α)} {others : List (String × β)}
    (h : Sorted entries) (hkeys : others.map Prod.fst = entries.map Prod.fst) :
    Sorted others := by
  have hmap : (entries.map Prod.fst).Pairwise (· < ·) := List.pairwise_map.mpr h
  rw [← hkeys] at hmap
  exact List.pairwise_map.mp hmap

theorem mem_insert {key : String} {value : α} {entries : List (String × α)}
    {entry : String × α} (h : entry ∈ insert key value entries) :
    entry = (key, value) ∨ entry ∈ entries := by
  induction entries with
  | nil => simpa [insert] using h
  | cons head rest ih =>
    simp only [insert] at h
    split at h
    · simpa using h
    · split at h
      · exact (List.mem_cons.mp h).imp id (List.mem_cons_of_mem _)
      · rcases List.mem_cons.mp h with rfl | h
        · exact .inr List.mem_cons_self
        · exact (ih h).imp id (List.mem_cons_of_mem _)

theorem sorted_insert {key : String} {value : α} {entries : List (String × α)}
    (h : Sorted entries) : Sorted (insert key value entries) := by
  induction entries with
  | nil => simp [insert, Sorted]
  | cons head rest ih =>
    obtain ⟨hhead, hrest⟩ := List.pairwise_cons.mp h
    simp only [insert]
    split
    · rename_i hlt
      refine List.pairwise_cons.mpr ⟨fun entry hentry => ?_, h⟩
      rcases List.mem_cons.mp hentry with rfl | hentry
      · exact hlt
      · exact String.lt_trans hlt (hhead entry hentry)
    · rename_i hnlt
      split
      · rename_i heq
        subst heq
        exact List.pairwise_cons.mpr ⟨hhead, hrest⟩
      · rename_i hne
        refine List.pairwise_cons.mpr ⟨fun entry hentry => ?_, ih hrest⟩
        rcases mem_insert hentry with rfl | hentry
        · refine Decidable.byContradiction fun hngt => hne ?_
          exact String.le_antisymm (String.not_lt.mp hngt) (String.not_lt.mp hnlt)
        · exact hhead entry hentry

theorem sorted_ofList (entries : List (String × α)) : Sorted (ofList entries) := by
  have step : ∀ (entries sorted : List (String × α)), Sorted sorted →
      Sorted (entries.foldl (fun sorted entry => insert entry.1 entry.2 sorted) sorted) := by
    intro entries
    induction entries with
    | nil => exact fun _ h => h
    | cons head rest ih => exact fun _ h => ih _ (sorted_insert h)
  exact step entries [] List.Pairwise.nil

theorem mem_of_mem_ofList {entries : List (String × α)} {entry : String × α}
    (h : entry ∈ ofList entries) : entry ∈ entries := by
  have hall : ∀ entry ∈ ofList entries, entry ∈ entries := by
    apply List.foldlRecOn (motive := fun sorted => ∀ entry ∈ sorted, entry ∈ entries)
    · exact fun _ h => absurd h List.not_mem_nil
    · intro sorted ih head hhead entry hentry
      rcases mem_insert hentry with rfl | hentry
      · exact hhead
      · exact ih entry hentry
  exact hall entry h

theorem Sorted.keys_nodup {entries : List (String × α)} (h : Sorted entries) :
    (entries.map Prod.fst).Nodup := by
  have hmap : (entries.map Prod.fst).Pairwise (· < ·) := List.pairwise_map.mpr h
  refine hmap.imp ?_
  rintro j k hlt rfl
  exact String.lt_irrefl j hlt

end Ascending

end Inspection
