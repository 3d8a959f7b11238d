import Inspection.Proofs.Session.Chronology
import Inspection.Proofs.Store.Selection

/-!
# What listings deliver

In any state that a session can reach, a listing delivers the names of exactly
the entities that are asked for, in the order in which they were created.  A
listing with parents or with none, and with a filter or with none, reads the
same way for templates, runs and findings; targets are listed by a pattern of
their name.
-/

namespace Inspection

namespace Table

variable {E : Type}

/-- Some names are those of the wanted entities of a table, in order of
creation and each once. -/
structure Delivers (ids : Nat → String) (table : Table E) (arn : E → String) (Wanted : E → Prop)
    (arns : List String) : Prop where
  mem_iff : ∀ name, name ∈ arns ↔ ∃ entity ∈ table.values, arn entity = name ∧ Wanted entity
  in_order : arns.Pairwise (Arn.Before ids)
  nodup : arns.Nodup

theorem delivers_filter {ids : Nat → String} {region : String} {arn home : E → String}
    {drawn : Nat} {table : Table E} (hfiled : table.Filed ids region arn home drawn)
    (horder : table.Chronological ids) {wanted : E → Bool} {Wanted : E → Prop}
    (hwanted : ∀ entity, wanted entity = true ↔ Wanted entity) :
    table.Delivers ids arn Wanted
      ((table.entries.filter fun entry => wanted entry.2).map Prod.fst) where
  mem_iff := by
    intro name
    constructor
    · intro hname
      obtain ⟨entry, hentry, rfl⟩ := List.mem_map.mp hname
      obtain ⟨hmem, hchosen⟩ := List.mem_filter.mp hentry
      exact ⟨entry.2, List.mem_map_of_mem hmem, (hfiled entry hmem).own_arn,
        (hwanted _).mp hchosen⟩
    · rintro ⟨entity, hentity, rfl, hchosen⟩
      obtain ⟨entry, hmem, rfl⟩ := List.mem_map.mp hentity
      rw [(hfiled entry hmem).own_arn]
      exact List.mem_map_of_mem (List.mem_filter.mpr ⟨hmem, (hwanted _).mpr hchosen⟩)
  in_order := horder.sublist (List.filter_sublist.map Prod.fst)
  nodup := table.keys_nodup.sublist (List.filter_sublist.map Prod.fst)

end Table

namespace Store

variable {E : Type}

/-- What a listing of a table answers, for all parents and filters that may be
given. -/
structure Listed (ids : Nat → String) (rules : List (Rule E)) (arn parent : E → String)
    (table : Table E)
    (listing : Option (List String) → Option Filter → Except ServiceError (List String)) :
    Prop where
  delivers : ∀ parents filter arns, listing parents filter = .ok arns →
    table.Delivers ids arn (fun entity => Admits parents (parent entity) ∧
      ∀ given, filter = some given → given.accepts rules entity = .ok true) arns
  intersects : ∀ listed given byParent byFilter, listing (some listed) none = .ok byParent →
    listing none (some given) = .ok byFilter →
      listing (some listed) (some given) = .ok (byParent.filter (· ∈ byFilter))
  parents_alike : ∀ listed others filter, (∀ name, name ∈ listed ↔ name ∈ others) →
    listing (some listed) filter = listing (some others) filter
  refused_iff : ∀ parents filter error, listing parents filter = .error error ↔
    ∃ given, filter = some given ∧ (∀ entity, given.accepts rules entity = .error error) ∧
      ∃ entity ∈ table.values, Admits parents (parent entity)

theorem listed_select {ids : Nat → String} {region : String} {arn home : E → String}
    {drawn : Nat} {table : Table E} (rules : List (Rule E)) (parent : E → String)
    (hfiled : table.Filed ids region arn home drawn) (horder : table.Chronological ids) :
    Listed ids rules arn parent table (select rules parent table) where
  delivers := by
    intro parents filter arns harns
    rw [eq_of_select_eq_ok harns]
    exact Table.delivers_filter hfiled horder fun _ => chooses_eq_true_iff
  intersects := fun _ _ _ _ hparent hfilter => select_both hparent hfilter
  parents_alike := fun _ _ _ h => select_congr_parents h
  refused_iff := fun _ _ _ => select_eq_error_iff

theorem listTargets_eq_error_iff {store : Store} {filter : Filter} :
    (∃ error, store.listTargets (some filter) = .error error) ↔
      ∀ pattern, filter ≠ [("assessmentTargetNamePattern", .str pattern)] := by
  simp only [← Filter.targetPattern_eq_ok_iff, ne_eq, listTargets]
  cases filter.targetPattern <;> simp [bind, Except.bind, pure, Except.pure]

theorem listTargets_pattern {ids : Nat → String} {region : String} {drawn : Nat} {store : Store}
    (hfiled : store.targets.Filed ids region (·.arn) (·.region) drawn) (pattern : String) :
    store.listTargets (some [("assessmentTargetNamePattern", .str pattern)]) =
      .ok ((store.targets.entries.filter fun entry =>
        Text.contains entry.2.name pattern).map Prod.fst) :=
  congrArg Except.ok (hfiled.map_arn_values fun target => Text.contains target.name pattern)

end Store

namespace Session

/-- Whatever was done to a new store, its listings deliver the entities that
are asked for. -/
theorem listings_deliver {ids : Nat → String} (supply : IdSupply ids) (region account : String)
    (steps : List Step) :
    let store := ((start region account).run ids steps).store
    Store.Listed ids Filter.templateRules (·.arn) (·.targetArn) store.templates
        store.listTemplates ∧
      Store.Listed ids Filter.runRules (·.arn) (·.templateArn) store.runs store.listRuns ∧
      Store.Listed ids Filter.findingRules (·.arn) (·.runArn) store.findings
        store.listFindings ∧
      (∀ filter, (∃ error, store.listTargets (some filter) = .error error) ↔
        ∀ pattern, filter ≠ [("assessmentTargetNamePattern", .str pattern)]) ∧
      ∀ pattern, ∃ arns,
        store.listTargets (some [("assessmentTargetNamePattern", .str pattern)]) = .ok arns ∧
          store.targets.Delivers ids (·.arn)
            (fun target => pattern.toList <:+: target.name.toList) arns := by
  intro store
  have hcoherent := coherent_run supply region account steps
  have horder := chronological_run supply region account steps
  refine ⟨?_, ?_, ?_, fun filter => Store.listTargets_eq_error_iff, fun pattern => ?_⟩
  · exact Store.listed_select _ _ hcoherent.templates horder.templates
  · exact Store.listed_select _ _ hcoherent.runs horder.runs
  · exact Store.listed_select _ _ hcoherent.findings horder.findings
  · refine ⟨_, Store.listTargets_pattern hcoherent.targets pattern, ?_⟩
    exact Table.delivers_filter hcoherent.targets horder.targets fun target =>
      Text.occursIn_eq_true_iff _ _

/-- A template that is listed by its target, given twice, and by its name. -/
theorem listings_deliver_of_created_template :
    let made := Step.command (.ofSeconds 1700000000)
      (.createAssessmentTemplate "target" "nightly web" 900 [] [])
    let store := ((start "eu-west-1" "123456789012").run IdSupply.counted [made]).store
    IdSupply IdSupply.counted ∧
      ∃ arns, store.listTemplates (some ["target", "target"]) (some [("namePattern", .str "web")]) =
          .ok arns ∧ Arn.template "target" (IdSupply.counted 0) ∈ arns ∧ arns.Nodup := by
  intro made store
  have hlisted := (listings_deliver IdSupply.counted_isSupply "eu-west-1" "123456789012" [made]).1
  refine ⟨IdSupply.counted_isSupply, ?_⟩
  cases harns : store.listTemplates (some ["target", "target"])
      (some [("namePattern", .str "web")]) with
  | error error =>
      obtain ⟨given, hgiven, hrefuses, entity, -⟩ := (hlisted.refused_iff _ _ _).mp harns
      obtain rfl := Option.some.inj hgiven
      exact absurd (hrefuses entity) (by simp [Filter.accepts, Filter.recognised, Rule.find?,
        Filter.templateRules, Rule.judge, Shape.read?, Json.text?, bind, Except.bind, pure,
        Except.pure])
  | ok arns =>
      have hdelivers := hlisted.delivers _ _ _ harns
      refine ⟨arns, rfl, (hdelivers.mem_iff _).mpr ?_, hdelivers.nodup⟩
      refine ⟨_, List.mem_singleton_self _, rfl, ?_, ?_⟩
      · intro listed hgiven
        obtain rfl := Option.some.inj hgiven
        exact List.mem_cons_self
      · intro given hgiven
        obtain rfl := Option.some.inj hgiven
        rfl

end Session

end Inspection
