import Inspection.Answer
import Inspection.Proofs.Session.Growth
import Inspection.Proofs.Store.Selection

/-!
# Listings of a growing store

The actions that list read some parameters, which say what is listed, and then
answer with names of one table in its order.  A listing that was not empty is
never refused later, and a later listing begins with it.
-/

namespace Inspection

namespace Table

variable {E : Type} {view : E → E} {before after : Table E}

theorem Extends.map_filter (h : before.Extends view after) (test : E → Bool)
    (htest : ∀ value, test (view value) = test value) :
    (before.entries.filter fun entry => test entry.2).map Prod.fst <+:
      (after.entries.filter fun entry => test entry.2).map Prod.fst := by
  have hviewed : ∀ table : Table E,
      ((table.viewed view).filter fun entry => test entry.2).map Prod.fst =
        (table.entries.filter fun entry => test entry.2).map Prod.fst := by
    intro table
    simp [viewed, List.filter_map, Function.comp_def, htest]
  rw [← hviewed before, ← hviewed after]
  exact (List.IsPrefix.filter _ h).map _

end Table

namespace Store

variable {E : Type} {rules : List (Rule E)} {parent : E → String} {table before after : Table E}
  {parents : Option (List String)} {filter : Option Filter} {arns : List String}

theorem select_sublist (h : select rules parent table parents filter = .ok arns) :
    arns.Sublist table.keys := by
  rw [eq_of_select_eq_ok h]
  exact List.filter_sublist.map Prod.fst

/-- A selection that found something goes on succeeding, since its filter was
not refused. -/
theorem select_extends {view : E → E} (h : before.Extends view after)
    (hparent : ∀ entity, parent (view entity) = parent entity)
    (hrules : ∀ rule ∈ rules, ∀ entity value,
      rule.accepts (view entity) value = rule.accepts entity value)
    (hselect : select rules parent before parents filter = .ok arns) (hne : arns ≠ []) :
    ∃ later, select rules parent after parents filter = .ok later ∧ arns <+: later := by
  obtain rfl := eq_of_select_eq_ok hselect
  refine ⟨_, select_eq_ok ?_, h.map_filter _ ?_⟩
  · intro given error hgiven hrefuses
    obtain ⟨arn, harn⟩ := List.exists_mem_of_ne_nil _ hne
    obtain ⟨entry, hentry, -⟩ := List.mem_map.mp harn
    have hchosen := chooses_eq_true_iff.mp (List.mem_filter.mp hentry).2
    have haccepts := hchosen.2 given hgiven
    exact absurd ((hrefuses entry.2).symm.trans haccepts) (by simp)
  · intro entity
    have haccepts : ∀ given : Filter, given.approves rules (view entity) =
        given.approves rules entity := by
      intro given
      have hcongr := Filter.accepts_congr (fun rule hrule => hrules rule hrule entity) given
      rw [Filter.approves, Filter.approves, hcongr]
    simp only [chooses, hparent, haccepts]

section Targets

variable {ids : Nat → String} {region : String} {drawn : Nat} {store : Store}

theorem listTargets_none (hfiled : store.targets.Filed ids region (·.arn) (·.region) drawn) :
    store.listTargets none = .ok store.targets.keys := by
  have hall := hfiled.map_arn_values fun _ => true
  rw [List.filter_true, List.filter_true] at hall
  exact congrArg Except.ok hall

theorem listTargets_sublist (hfiled : store.targets.Filed ids region (·.arn) (·.region) drawn)
    (h : store.listTargets filter = .ok arns) : arns.Sublist store.targets.keys := by
  cases filter with
  | none =>
      obtain rfl := Except.ok.inj (h.symm.trans (listTargets_none hfiled))
      exact List.Sublist.refl _
  | some filter =>
      obtain ⟨pattern, -, hlist⟩ := Outcome.bind_eq_ok_iff.mp h
      obtain rfl := Except.ok.inj hlist
      rw [hfiled.map_arn_values]
      exact List.filter_sublist.map Prod.fst

end Targets

theorem listTargets_extends {before after : Store} (h : before.targets.Extends id after.targets)
    (hlist : before.listTargets filter = .ok arns) :
    ∃ later, after.listTargets filter = .ok later ∧ arns <+: later := by
  cases filter with
  | none =>
      obtain rfl := Except.ok.inj hlist
      exact ⟨_, rfl, h.values_prefix.map _⟩
  | some filter =>
      obtain ⟨pattern, hpattern, hnames⟩ := Outcome.bind_eq_ok_iff.mp hlist
      obtain rfl := Except.ok.inj hnames
      refine ⟨_, Outcome.bind_eq_ok_iff.mpr ⟨pattern, hpattern, rfl⟩, ?_⟩
      exact (h.values_prefix.filter _).map _

end Store

namespace AssessmentTemplate

theorem unsubscribed_targetArn (template : AssessmentTemplate) :
    template.unsubscribed.targetArn = template.targetArn :=
  rfl

theorem accepts_unsubscribed : ∀ rule ∈ Filter.templateRules, ∀ template value,
    rule.accepts (unsubscribed template) value = rule.accepts template value := by
  simp only [Filter.templateRules, List.forall_mem_cons]
  exact ⟨fun _ _ => rfl, fun _ _ => rfl, fun _ _ => rfl, by simp⟩

end AssessmentTemplate

namespace Catalog

theorem rulesPackageArns_nodup (region : String) : (rulesPackageArns region).Nodup := by
  have hinjective : Function.Injective (Arn.rulesPackage region publisher) := by
    intro package other h
    exact (String.append_right_inj _).mp ((String.append_right_inj _).mp h)
  have hids : (packages.map Prod.fst).Nodup := by decide
  have harns : rulesPackageArns region =
      (packages.map Prod.fst).map (Arn.rulesPackage region publisher) := by
    rw [rulesPackageArns, rulesPackages, List.map_map, List.map_map]
    rfl
  rw [harns]
  exact hids.map hinjective

end Catalog

/-- The actions whose answer is a page of names. -/
inductive Listing where
  | targets
  | templates
  | runs
  | findings
  | rulesPackages

namespace Listing

def action : Listing → Action
  | targets => .listAssessmentTargets
  | templates => .listAssessmentTemplates
  | runs => .listAssessmentRuns
  | findings => .listFindings
  | rulesPackages => .listRulesPackages

/-- The field of the answer that has the names. -/
def field : Listing → String
  | targets => "assessmentTargetArns"
  | templates => "assessmentTemplateArns"
  | runs => "assessmentRunArns"
  | findings => "findingArns"
  | rulesPackages => "rulesPackageArns"

/-- The parameters that say what is listed. -/
def asked : Listing → List String
  | targets => ["filter"]
  | templates => ["assessmentTargetArns", "filter"]
  | runs => ["assessmentTemplateArns", "filter"]
  | findings => ["assessmentRunArns", "filter"]
  | rulesPackages => []

/-- A listing by parents, which a parameter of some name gives, and a filter. -/
def byParents (parameters : Json) (name : String)
    (list : Option (List String) → Option Filter → Except ServiceError (List String)) :
    Except ServiceError (List String) := do
  let parents ← Parameters.texts? parameters name
  let filter ← Parameters.filter parameters
  list parents filter

/-- All names that a request is about, before they are cut into pages. -/
def results (listing : Listing) (store : Store) (parameters : Json) :
    Except ServiceError (List String) :=
  match listing with
  | targets => do
    let filter ← Parameters.filter parameters
    store.listTargets filter
  | templates => byParents parameters "assessmentTargetArns" store.listTemplates
  | runs => byParents parameters "assessmentTemplateArns" store.listRuns
  | findings => byParents parameters "assessmentRunArns" store.listFindings
  | rulesPackages => .ok (Catalog.rulesPackageArns store.region)

/-- Nothing else that is asked matters. -/
theorem results_congr {listing : Listing} {parameters others : Json}
    (h : ∀ key ∈ listing.asked, parameters.given? key = others.given? key) (store : Store) :
    listing.results store parameters = listing.results store others := by
  cases listing with
  | rulesPackages => rfl
  | targets | templates | runs | findings =>
      simp only [asked, List.forall_mem_cons] at h
      simp only [results, byParents, Parameters.texts?, Parameters.items?, Parameters.filter, h]

theorem byParents_eq_ok_iff {parameters : Json} {name : String}
    {list : Option (List String) → Option Filter → Except ServiceError (List String)}
    {arns : List String} :
    byParents parameters name list = .ok arns ↔ ∃ parents filter,
      Parameters.texts? parameters name = .ok parents ∧
        Parameters.filter parameters = .ok filter ∧ list parents filter = .ok arns := by
  simp only [byParents, Outcome.bind_eq_ok_iff]
  constructor
  · rintro ⟨parents, hparents, filter, hfilter, hlist⟩
    exact ⟨parents, filter, hparents, hfilter, hlist⟩
  · rintro ⟨parents, filter, hparents, hfilter, hlist⟩
    exact ⟨parents, hparents, filter, hfilter, hlist⟩

/-- What goes on for all parents and filters goes on for those of a request. -/
theorem byParents_extends {parameters : Json} {name : String}
    {before after : Option (List String) → Option Filter → Except ServiceError (List String)}
    (h : ∀ parents filter arns, before parents filter = .ok arns → arns ≠ [] →
      ∃ later, after parents filter = .ok later ∧ arns <+: later)
    {arns : List String} (hbefore : byParents parameters name before = .ok arns) (hne : arns ≠ []) :
    ∃ later, byParents parameters name after = .ok later ∧ arns <+: later := by
  obtain ⟨parents, filter, hparents, hfilter, hlist⟩ := byParents_eq_ok_iff.mp hbefore
  obtain ⟨later, hlater, hbegins⟩ := h parents filter arns hlist hne
  exact ⟨later, byParents_eq_ok_iff.mpr ⟨parents, filter, hparents, hfilter, hlater⟩, hbegins⟩

/-- The names among which a listing finds its results. -/
def names (listing : Listing) (store : Store) : List String :=
  match listing with
  | targets => store.targets.keys
  | templates => store.templates.keys
  | runs => store.runs.keys
  | findings => store.findings.keys
  | rulesPackages => Catalog.rulesPackageArns store.region

theorem names_nodup (listing : Listing) (store : Store) : (listing.names store).Nodup := by
  cases listing with
  | targets => exact store.targets.keys_nodup
  | templates => exact store.templates.keys_nodup
  | runs => exact store.runs.keys_nodup
  | findings => exact store.findings.keys_nodup
  | rulesPackages => exact Catalog.rulesPackageArns_nodup store.region

theorem results_sublist {ids : Nat → String} {region : String} {session : Session}
    (hcoherent : Session.Coherent ids region session) {listing : Listing} {parameters : Json}
    {arns : List String} (h : listing.results session.store parameters = .ok arns) :
    arns.Sublist (listing.names session.store) := by
  cases listing with
  | targets =>
      obtain ⟨filter, -, hlist⟩ := Outcome.bind_eq_ok_iff.mp h
      exact Store.listTargets_sublist hcoherent.targets hlist
  | templates | runs | findings =>
      obtain ⟨parents, filter, -, -, hlist⟩ := byParents_eq_ok_iff.mp h
      exact Store.select_sublist hlist
  | rulesPackages =>
      obtain rfl := Except.ok.inj h
      exact List.Sublist.refl _

theorem results_nodup {ids : Nat → String} {region : String} {session : Session}
    (hcoherent : Session.Coherent ids region session) {listing : Listing} {parameters : Json}
    {arns : List String} (h : listing.results session.store parameters = .ok arns) : arns.Nodup :=
  (results_sublist hcoherent h).nodup (names_nodup listing session.store)

/-- A listing that was not empty goes on, and what it gave comes first. -/
theorem results_extends {listing : Listing} {before after : Store} (h : before.Extends after)
    {parameters : Json} {arns : List String}
    (hresults : listing.results before parameters = .ok arns) (hne : arns ≠ []) :
    ∃ later, listing.results after parameters = .ok later ∧ arns <+: later := by
  cases listing with
  | targets =>
      obtain ⟨filter, hfilter, hlist⟩ := Outcome.bind_eq_ok_iff.mp hresults
      obtain ⟨later, hlater, hbegins⟩ := Store.listTargets_extends h.targets hlist
      exact ⟨later, Outcome.bind_eq_ok_iff.mpr ⟨filter, hfilter, hlater⟩, hbegins⟩
  | templates =>
      refine byParents_extends (fun _ _ _ => ?_) hresults hne
      exact Store.select_extends h.templates AssessmentTemplate.unsubscribed_targetArn
        AssessmentTemplate.accepts_unsubscribed
  | runs =>
      refine byParents_extends (fun _ _ _ => ?_) hresults hne
      exact Store.select_extends h.runs (fun _ => rfl) fun _ _ _ _ => rfl
  | findings =>
      refine byParents_extends (fun _ _ _ => ?_) hresults hne
      exact Store.select_extends h.findings (fun _ => rfl) fun _ _ _ _ => rfl
  | rulesPackages =>
      refine ⟨arns, ?_, List.prefix_refl _⟩
      rw [← hresults, results, results, h.region_eq]

end Listing

namespace Session

theorem invoke_listing (on : Occasion) (listing : Listing) (parameters : Json)
    (session : Session) :
    (session.invoke on listing.action.name parameters).1 =
      Store.listed listing.field (Parameters.paging parameters)
        (listing.results session.store parameters) := by
  rw [invoke_fst]
  cases listing <;>
    simp only [Listing.action, Listing.field, Listing.results, Listing.byParents, Request.read,
      Store.listed, bind_assoc, pure_bind, perform, Store.answer]

end Session

end Inspection
