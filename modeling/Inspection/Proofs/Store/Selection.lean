import Inspection.Proofs.Filter.Blame
import Inspection.Store
import Mathlib.Data.List.Nodup

/-!
# Selecting from a table

A selection either is refused, by a filter that refuses every entity and after
some entity had a listed parent, or keeps the entries that the parents and the
filter both let through, in the order of the table.
-/

namespace Inspection

namespace Filter

variable {E : Type}

/-- Whether the verdict of a filter on an entity is that it is accepted. -/
def approves (rules : List (Rule E)) (filter : Filter) (entity : E) : Bool :=
  match filter.accepts rules entity with
  | .ok verdict => verdict
  | .error _ => false

theorem approves_eq_true_iff {rules : List (Rule E)} {filter : Filter} {entity : E} :
    filter.approves rules entity = true ↔ filter.accepts rules entity = .ok true := by
  unfold approves
  cases filter.accepts rules entity <;> simp

end Filter

namespace Store

variable {E : Type} {rules : List (Rule E)} {parent : E → String} {table : Table E}
  {parents : Option (List String)} {filter : Option Filter} {error : ServiceError}
  {arns : List String}

/-- A parent is listed, when any are. -/
def Admits (parents : Option (List String)) (name : String) : Prop :=
  ∀ listed, parents = some listed → name ∈ listed

def admits (parents : Option (List String)) (name : String) : Bool :=
  parents.all fun listed => listed.contains name

theorem admits_eq_true_iff {name : String} :
    admits parents name = true ↔ Admits parents name := by
  cases parents <;> simp [admits, Admits]

/-- Whether an entity has a listed parent and is accepted by the filter. -/
def chooses (rules : List (Rule E)) (parent : E → String) (parents : Option (List String))
    (filter : Option Filter) (entity : E) : Bool :=
  admits parents (parent entity) && filter.all fun given => given.approves rules entity

theorem chooses_eq_true_iff {entity : E} :
    chooses rules parent parents filter entity = true ↔ Admits parents (parent entity) ∧
      ∀ given, filter = some given → given.accepts rules entity = .ok true := by
  rw [chooses, Bool.and_eq_true, admits_eq_true_iff]
  cases filter <;> simp [Filter.approves_eq_true_iff]

/-- The names of a table that a selection is made of. -/
def selected (rules : List (Rule E)) (parent : E → String) (table : Table E)
    (parents : Option (List String)) (filter : Option Filter) : List String :=
  (table.entries.filter fun entry => chooses rules parent parents filter entry.2).map Prod.fst

theorem chosen_eq_ok {condition : E → Except ServiceError Bool} {entries : List (String × E)}
    {approved : E → Bool} (h : ∀ entry ∈ entries, condition entry.2 = .ok (approved entry.2)) :
    chosen condition entries =
      .ok ((entries.filter fun entry => approved entry.2).map Prod.fst) := by
  induction entries with
  | nil => rfl
  | cons entry rest ih =>
      obtain ⟨hentry, hrest⟩ := List.forall_mem_cons.mp h
      rw [chosen, hentry, ih hrest]
      cases happroved : approved entry.2 <;> simp [happroved, bind, Except.bind, pure, Except.pure]

theorem chosen_eq_error {condition : E → Except ServiceError Bool} {entries : List (String × E)}
    (h : ∀ entity, condition entity = .error error) (hne : entries ≠ []) :
    chosen condition entries = .error error := by
  cases entries with
  | nil => exact absurd rfl hne
  | cons entry rest => simp [chosen, h, bind, Except.bind]

/-- A filter that refuses everything is noticed once an entity has a listed
parent. -/
theorem select_eq_error {given : Filter} (hrefuses : ∀ entity, given.accepts rules entity =
    .error error) (hadmitted : ∃ entity ∈ table.values, Admits parents (parent entity)) :
    select rules parent table parents (some given) = .error error := by
  apply chosen_eq_error hrefuses
  obtain ⟨entity, hentity, hadmits⟩ := hadmitted
  obtain ⟨entry, hentry, rfl⟩ := List.mem_map.mp hentity
  exact List.ne_nil_of_mem (List.mem_filter.mpr ⟨hentry, admits_eq_true_iff.mpr hadmits⟩)

/-- In all other cases the selection succeeds. -/
theorem select_eq_ok (h : ∀ given error, filter = some given →
    (∀ entity, given.accepts rules entity = .error error) →
      ∀ entity ∈ table.values, ¬ Admits parents (parent entity)) :
    select rules parent table parents filter =
      .ok (selected rules parent table parents filter) := by
  cases filter with
  | none => simp [select, selected, chooses, admits]
  | some given =>
      have hverdict : ∀ entry ∈ table.entries.filter fun entry => admits parents (parent entry.2),
          given.accepts rules entry.2 = .ok (given.approves rules entry.2) := by
        intro entry hentry
        obtain ⟨hmem, hadmits⟩ := List.mem_filter.mp hentry
        unfold Filter.approves
        cases haccepts : given.accepts rules entry.2 with
        | ok verdict => rfl
        | error error =>
            have hall := Filter.accepts_eq_error_of_eq_error haccepts
            exact absurd (admits_eq_true_iff.mp hadmits)
              (h given error rfl hall entry.2 (List.mem_map_of_mem hmem))
      calc
        select rules parent table parents (some given)
            = chosen (given.accepts rules)
                (table.entries.filter fun entry => admits parents (parent entry.2)) := rfl
        _ = .ok (((table.entries.filter fun entry => admits parents (parent entry.2)).filter
              fun entry => given.approves rules entry.2).map Prod.fst) := chosen_eq_ok hverdict
        _ = .ok (selected rules parent table parents (some given)) := by
            simp [selected, List.filter_filter, chooses, Bool.and_comm]

theorem select_eq_error_iff :
    select rules parent table parents filter = .error error ↔
      ∃ given, filter = some given ∧ (∀ entity, given.accepts rules entity = .error error) ∧
        ∃ entity ∈ table.values, Admits parents (parent entity) := by
  constructor
  · intro hselect
    by_contra hnone
    have hok : select rules parent table parents filter =
        .ok (selected rules parent table parents filter) := by
      refine select_eq_ok fun given other hgiven hrefuses entity hentity hadmits => hnone ?_
      have hother : select rules parent table parents filter = .error other := by
        rw [hgiven]
        exact select_eq_error hrefuses ⟨entity, hentity, hadmits⟩
      obtain rfl : other = error := Except.error.inj (hother.symm.trans hselect)
      exact ⟨given, hgiven, hrefuses, entity, hentity, hadmits⟩
    exact absurd (hok.symm.trans hselect) (by simp)
  · rintro ⟨given, rfl, hrefuses, hadmitted⟩
    exact select_eq_error hrefuses hadmitted

theorem eq_of_select_eq_ok (h : select rules parent table parents filter = .ok arns) :
    arns = selected rules parent table parents filter := by
  have hok : select rules parent table parents filter =
      .ok (selected rules parent table parents filter) := by
    refine select_eq_ok fun given error hgiven hrefuses entity hentity hadmits => ?_
    have herror := select_eq_error_iff.mpr ⟨given, hgiven, hrefuses, entity, hentity, hadmits⟩
    exact absurd (h.symm.trans herror) (by simp)
  exact Except.ok.inj (h.symm.trans hok)

/-- Under distinct keys, a key tells whether its value passes a test. -/
theorem key_mem_filter_iff {entries : List (String × E)} (hkeys : (entries.map Prod.fst).Nodup)
    (test : E → Bool) {entry : String × E} (hentry : entry ∈ entries) :
    entry.1 ∈ (entries.filter fun other => test other.2).map Prod.fst ↔ test entry.2 = true := by
  constructor
  · intro hkey
    obtain ⟨other, hother, heq⟩ := List.mem_map.mp hkey
    obtain ⟨hmem, htest⟩ := List.mem_filter.mp hother
    rwa [← List.inj_on_of_nodup_map hkeys hmem hentry heq]
  · exact fun htest => List.mem_map_of_mem (List.mem_filter.mpr ⟨hentry, htest⟩)

/-- Under distinct keys, what two tests both let through is what the one lets
through among what the other does. -/
theorem map_filter_and {entries : List (String × E)} (hkeys : (entries.map Prod.fst).Nodup)
    (p q : E → Bool) :
    (entries.filter fun entry => p entry.2 && q entry.2).map Prod.fst =
      ((entries.filter fun entry => p entry.2).map Prod.fst).filter
        (· ∈ (entries.filter fun entry => q entry.2).map Prod.fst) := by
  rw [List.filter_map, List.filter_filter]
  congr 1
  refine List.filter_congr fun entry hentry => ?_
  have h := key_mem_filter_iff hkeys q hentry
  by_cases hq : q entry.2 = true <;> simp_all

/-- What a filter alone selects are the names of the entities it accepts. -/
theorem mem_select_iff {given : Filter} {key : String} {entity : E}
    (hselect : select rules parent table none (some given) = .ok arns)
    (h : table.get? key = some entity) :
    key ∈ arns ↔ given.accepts rules entity = .ok true := by
  have hentry := Table.get?_eq_some_iff.mp h
  rw [eq_of_select_eq_ok hselect, selected, key_mem_filter_iff table.keys_nodup _ hentry,
    chooses_eq_true_iff]
  simp [Admits]

/-- When the filter alone is not refused, parents and filter together give the
names that either gives. -/
theorem select_both {listed : List String} {given : Filter} {byParent byFilter : List String}
    (hparent : select rules parent table (some listed) none = .ok byParent)
    (hfilter : select rules parent table none (some given) = .ok byFilter) :
    select rules parent table (some listed) (some given) =
      .ok (byParent.filter (· ∈ byFilter)) := by
  have hboth : select rules parent table (some listed) (some given) =
      .ok (selected rules parent table (some listed) (some given)) := by
    refine select_eq_ok fun other error hother hrefuses entity hentity _ => ?_
    obtain rfl := Option.some.inj hother
    have herror : select rules parent table none (some given) = .error error :=
      select_eq_error hrefuses ⟨entity, hentity, fun _ hnone => absurd hnone (by simp)⟩
    exact absurd (hfilter.symm.trans herror) (by simp)
  have hparents : byParent = (table.entries.filter fun entry =>
      admits (some listed) (parent entry.2)).map Prod.fst := by
    rw [eq_of_select_eq_ok hparent]
    simp [selected, chooses]
  have hfilters : byFilter = (table.entries.filter fun entry =>
      given.approves rules entry.2).map Prod.fst := by
    rw [eq_of_select_eq_ok hfilter]
    simp [selected, chooses, admits]
  rw [hboth, hparents, hfilters]
  exact congrArg Except.ok (map_filter_and table.keys_nodup
    (fun entity => admits (some listed) (parent entity)) (given.approves rules))

theorem select_congr_parents {listed others : List String}
    (h : ∀ name, name ∈ listed ↔ name ∈ others) :
    select rules parent table (some listed) filter =
      select rules parent table (some others) filter := by
  have hcontains : ∀ name, listed.contains name = others.contains name := by
    intro name
    rw [Bool.eq_iff_iff, List.contains_iff_mem, List.contains_iff_mem, h name]
  simp only [select, Option.all_some, hcontains]

end Store

namespace Filter

theorem targetPattern_eq_ok_iff {filter : Filter} {pattern : String} :
    filter.targetPattern = .ok pattern ↔
      filter = [("assessmentTargetNamePattern", .str pattern)] := by
  constructor
  · intro h
    match filter, h with
    | [(key, parameter)], h =>
        rw [targetPattern] at h
        split at h
        · rename_i hkey
          subst hkey
          split at h
          · rename_i text htext
            obtain rfl := Except.ok.inj h
            rw [Json.text?_eq_some_iff.mp htext]
            rfl
          · exact absurd h (by simp)
        · exact absurd h (by simp)
  · rintro rfl
    rfl

end Filter

end Inspection
