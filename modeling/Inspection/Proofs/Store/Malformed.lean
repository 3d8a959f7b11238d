import Inspection.Proofs.Store.Selection

/-!
# Malformed filters in listings

A listing asks its filter of the entities with a listed parent only.  A
malformed filter is therefore refused as soon as there is such an entity, and
the least malformed key is blamed.  Without one the filter is not looked at,
and the listing is empty.
-/

namespace Inspection

namespace Filter

variable {E : Type} {rules : List (Rule E)} {filter : Filter} {key : String}

/-- The least malformed key of a filter. -/
def Blames (rules : List (Rule E)) (filter : Filter) (key : String) : Prop :=
  Malformed rules filter key ∧ ∀ other, Malformed rules filter other → key ≤ other

theorem Blames.unique {other : String} (h : Blames rules filter key)
    (hother : Blames rules filter other) : other = key := by
  have hle : other ≤ key := hother.2 key h.1
  have hge : key ≤ other := h.2 other hother.1
  exact String.le_antisymm hle hge

/-- A malformed key that comes first is the one to blame. -/
theorem blames_of_head {parameter : Json} {rest : Filter}
    (hsorted : Ascending.Sorted ((key, parameter) :: rest)) (hrule : ∃ rule ∈ rules, rule.key = key)
    (hadmits : ¬ (Shape.ofKey key).Admits parameter) :
    Blames rules ((key, parameter) :: rest) key := by
  refine ⟨⟨hrule, parameter, List.mem_cons_self, hadmits⟩, ?_⟩
  rintro other ⟨-, found, hentry, -⟩
  rcases List.mem_cons.mp hentry with heq | hlater
  · obtain ⟨rfl, -⟩ := Prod.mk.inj heq
    exact String.le_refl _
  · have hlt : key < other := (List.pairwise_cons.mp hsorted).1 _ hlater
    exact String.not_lt.mp (String.lt_asymm hlt)

/-- The key to blame depends on the filter alone: every entity is refused for
it. -/
theorem RefusesAlike.exists_blames (halike : RefusesAlike rules filter) (entity : E)
    (hmalformed : Malformed rules filter key) :
    ∃ blamed, Blames rules filter blamed ∧
      ∀ other,
        accepts rules filter other = .error (.malformedFilter blamed (Shape.ofKey blamed)) := by
  have hrefused := (halike.refused_iff entity).mpr ⟨key, hmalformed⟩
  obtain ⟨error, herror⟩ := hrefused
  obtain ⟨blamed, hblamed, hleast, rfl⟩ := halike.blamed entity error herror
  exact ⟨blamed, ⟨hblamed, hleast⟩, accepts_eq_error_of_eq_error herror⟩

end Filter

namespace Store

variable {E : Type} {rules : List (Rule E)} {parent : E → String} {table : Table E}

theorem select_eq_nil_of_none_admitted {parents : Option (List String)}
    (h : ∀ entity ∈ table.values, ¬ Admits parents (parent entity)) (filter : Option Filter) :
    select rules parent table parents filter = .ok [] := by
  have hok : select rules parent table parents filter =
      .ok (selected rules parent table parents filter) := select_eq_ok fun _ _ _ _ => h
  have hnil : selected rules parent table parents filter = [] := by
    rw [selected, List.map_eq_nil_iff, List.filter_eq_nil_iff]
    intro entry hentry hchosen
    have hadmits := (chooses_eq_true_iff.mp hchosen).1
    exact h entry.2 (List.mem_map_of_mem hentry) hadmits
  rw [hok, hnil]

/-- What a listing of a table answers to a filter with a malformed key. -/
structure ReportsMalformed (rules : List (Rule E)) (parent : E → String) (table : Table E)
    (listing : Option (List String) → Option Filter → Except ServiceError (List String)) :
    Prop where
  reported : ∀ parents filter, Ascending.Sorted filter →
    (∃ key, Filter.Malformed rules filter key) →
      (∃ entity ∈ table.values, Admits parents (parent entity)) →
        ∃ key, Filter.Blames rules filter key ∧
          listing parents (some filter) = .error (.malformedFilter key (Shape.ofKey key))
  passed_over : ∀ parents filter, (∀ entity ∈ table.values, ¬ Admits parents (parent entity)) →
    listing parents (some filter) = .ok []

theorem reportsMalformed_select (hkeys : (rules.map Rule.key).Nodup)
    (hshapes : ∀ rule ∈ rules, rule.shape = Shape.ofKey rule.key) (parent : E → String)
    (table : Table E) : ReportsMalformed rules parent table (select rules parent table) where
  reported := by
    rintro parents filter hsorted ⟨key, hmalformed⟩ ⟨entity, hentity, hadmits⟩
    have halike := Filter.refusesAlike hkeys hshapes hsorted
    obtain ⟨blamed, hblamed, hrefuses⟩ := halike.exists_blames entity hmalformed
    exact ⟨blamed, hblamed, select_eq_error hrefuses ⟨entity, hentity, hadmits⟩⟩
  passed_over := fun _ filter hnone => select_eq_nil_of_none_admitted hnone (some filter)

/-- In any store, a malformed filter is reported by a listing exactly when some
entity has a listed parent. -/
theorem malformed_reported_when_admitted (store : Store) :
    ReportsMalformed Filter.templateRules (·.targetArn) store.templates store.listTemplates ∧
      ReportsMalformed Filter.runRules (·.templateArn) store.runs store.listRuns ∧
      ReportsMalformed Filter.findingRules (·.runArn) store.findings store.listFindings := by
  refine ⟨?_, ?_, ?_⟩
  · exact reportsMalformed_select (by decide) (by decide) _ _
  · exact reportsMalformed_select (by decide) (by decide) _ _
  · exact reportsMalformed_select (by decide) (by decide) _ _

/-- Of two malformed parameters the first is blamed when the target of a
template is listed, and neither is when it is not. -/
theorem malformed_reported_when_admitted_of_created_template :
    let template : AssessmentTemplate :=
      .create "eu-west-1" "a" (.ofSeconds 1700000000) "target" "web" 900 [] []
    let store := (Store.empty "eu-west-1" "123456789012").addTemplate template
    let filter : Filter := [("durationRange", .arr [.int 1]), ("rulesPackageArns", .str "package")]
    Ascending.Sorted filter ∧
      store.listTemplates (some ["target"]) (some filter) =
        .error (.malformedFilter "durationRange" .durationRange) ∧
      store.listTemplates (some ["other"]) (some filter) = .ok [] := by
  intro template store filter
  have hsorted : Ascending.Sorted filter := by
    have hkeys : (filter.map Prod.fst).Pairwise (· < ·) := by decide
    exact List.pairwise_map.mp hkeys
  have hblames : Filter.Blames Filter.templateRules filter "durationRange" := by
    refine Filter.blames_of_head hsorted (by decide) ?_
    rw [← Shape.exists_read?_iff_admits]
    rintro ⟨range, hread⟩
    exact absurd hread (by simp [Shape.ofKey, Shape.read?, DurationRange.read?])
  have htemplates : store.templates.values = [template] := rfl
  have hreports := (malformed_reported_when_admitted store).1
  refine ⟨hsorted, ?_, ?_⟩
  · have hadmitted : ∃ entity ∈ store.templates.values,
        Admits (some ["target"]) entity.targetArn := by
      refine ⟨template, by simp [htemplates], ?_⟩
      intro listed hlisted
      obtain rfl := Option.some.inj hlisted
      exact List.mem_cons_self
    obtain ⟨key, hkey, herror⟩ := hreports.reported _ filter hsorted ⟨_, hblames.1⟩ hadmitted
    obtain rfl := hkey.unique hblames
    exact herror
  · refine hreports.passed_over _ filter fun entity hentity hadmits => ?_
    obtain rfl : entity = template := by simpa [htemplates] using hentity
    have hlisted := hadmits ["other"] rfl
    exact absurd hlisted (by decide)

/-- In a store without entities, a filter that is malformed for all three kinds
is refused by none of the listings. -/
theorem malformed_passed_over_in_empty_store :
    let store := Store.empty "us-east-1" "123456789012"
    let filter : Filter := [("rulesPackageArns", .str "package")]
    Ascending.Sorted filter ∧
      Filter.Blames Filter.templateRules filter "rulesPackageArns" ∧
      Filter.Blames Filter.runRules filter "rulesPackageArns" ∧
      Filter.Blames Filter.findingRules filter "rulesPackageArns" ∧
      store.listTemplates none (some filter) = .ok [] ∧
      store.listRuns none (some filter) = .ok [] ∧
      store.listFindings none (some filter) = .ok [] := by
  intro store filter
  have hsorted : Ascending.Sorted filter := List.pairwise_singleton _ _
  have hadmits : ¬ (Shape.ofKey "rulesPackageArns").Admits (.str "package") := by
    rw [← Shape.exists_read?_iff_admits]
    rintro ⟨listed, hread⟩
    exact absurd hread (by simp [Shape.ofKey, Shape.read?, Shape.texts?])
  refine ⟨hsorted, ?_, ?_, ?_, rfl, rfl, rfl⟩
  · exact Filter.blames_of_head hsorted (by decide) hadmits
  · exact Filter.blames_of_head hsorted (by decide) hadmits
  · exact Filter.blames_of_head hsorted (by decide) hadmits

end Store

end Inspection
