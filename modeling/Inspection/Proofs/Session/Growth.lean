import Inspection.Proofs.Session.Coherence
import Inspection.Proofs.Session.Invocation

/-!
# What later calls keep

Without a reset, a table only grows: its entries stay where they are, and new
ones come after them.  An entity that is stored does not change, but for the
subscriptions of a template.  This is said through a view of the entities, by
which the earlier entries are a prefix of the later ones.
-/

namespace Inspection

namespace Table

variable {E V : Type} {view : E → V} {before middle after table : Table E}

/-- The entries of a table, of which only a view of the values is seen. -/
def viewed (view : E → V) (table : Table E) : List (String × V) :=
  table.entries.map fun (key, value) => (key, view value)

/-- A later table has the entries of an earlier one first. -/
def Extends (view : E → V) (before after : Table E) : Prop :=
  before.viewed view <+: after.viewed view

theorem Extends.refl (view : E → V) (table : Table E) : table.Extends view table :=
  List.prefix_refl _

theorem Extends.trans (h : before.Extends view middle) (hnext : middle.Extends view after) :
    before.Extends view after :=
  List.IsPrefix.trans h hnext

theorem keys_viewed (view : E → V) (table : Table E) :
    (table.viewed view).map Prod.fst = table.keys := by
  simp [viewed, keys]

theorem get?_viewed (view : E → V) (table : Table E) (key : String) :
    Keyed.get? key (table.viewed view) = (table.get? key).map view :=
  Keyed.get?_map key view table.entries

theorem extends_insert {key : String} (view : E → V) (value : E) (h : key ∉ table.keys) :
    table.Extends view (table.insert key value) := by
  rw [Extends, viewed, viewed, entries_insert_of_notMem value h, List.map_append]
  exact List.prefix_append _ _

theorem viewed_update {change : E → E} (hchange : ∀ value, view (change value) = view value)
    (table : Table E) (key : String) :
    (table.update key change).viewed view = table.viewed view := by
  simp only [viewed, update, Keyed.update, List.map_map]
  refine List.map_congr_left fun entry _ => ?_
  by_cases hkey : entry.1 = key <;> simp [hkey, hchange]

theorem extends_update {change : E → E} (hchange : ∀ value, view (change value) = view value)
    (table : Table E) (key : String) : table.Extends view (table.update key change) := by
  unfold Extends
  exact (viewed_update hchange table key).symm ▸ List.prefix_refl _

theorem Extends.keys_prefix (h : before.Extends view after) : before.keys <+: after.keys := by
  rw [← keys_viewed view, ← keys_viewed view]
  exact List.IsPrefix.map Prod.fst h

theorem Extends.values_prefix (h : before.Extends id after) : before.values <+: after.values := by
  have hviewed : ∀ table : Table E, (table.viewed id).map Prod.snd = table.values := by
    intro table
    simp [viewed, values]
  rw [← hviewed before, ← hviewed after]
  exact List.IsPrefix.map Prod.snd h

/-- A table extends another also in what is made of the view. -/
theorem Extends.comp {W : Type} (h : before.Extends view after) (see : V → W) :
    before.Extends (see ∘ view) after := by
  have hviewed : ∀ table : Table E, table.viewed (see ∘ view) =
      (table.viewed view).map fun (key, seen) => (key, see seen) := by
    intro table
    simp [viewed]
  rw [Extends, hviewed before, hviewed after]
  exact List.IsPrefix.map _ h

/-- What is stored stays under its key, as far as the view goes. -/
theorem Extends.get?_map (h : before.Extends view after) {key : String} {seen : V}
    (hseen : (before.get? key).map view = some seen) : (after.get? key).map view = some seen := by
  have hnodup : ∀ table : Table E, ((table.viewed view).map Prod.fst).Nodup := by
    intro table
    rw [keys_viewed]
    exact table.keys_nodup
  rw [← get?_viewed, Keyed.get?_eq_some_iff (hnodup _)] at hseen ⊢
  exact h.subset hseen

end Table

namespace AssessmentTemplate

/-- A template but for its subscriptions. -/
def unsubscribed (template : AssessmentTemplate) : AssessmentTemplate :=
  { template with subscriptions := [] }

end AssessmentTemplate

namespace Store

/-- A later store has what an earlier one of the same region has. -/
structure Extends (before after : Store) : Prop where
  region_eq : after.region = before.region
  groups : before.groups.Extends id after.groups
  targets : before.targets.Extends id after.targets
  templates : before.templates.Extends AssessmentTemplate.unsubscribed after.templates
  runs : before.runs.Extends id after.runs
  findings : before.findings.Extends id after.findings

theorem Extends.refl (store : Store) : store.Extends store :=
  ⟨rfl, .refl _ _, .refl _ _, .refl _ _, .refl _ _, .refl _ _⟩

theorem Extends.trans {before middle after : Store} (h : before.Extends middle)
    (hnext : middle.Extends after) : before.Extends after where
  region_eq := hnext.region_eq.trans h.region_eq
  groups := h.groups.trans hnext.groups
  targets := h.targets.trans hnext.targets
  templates := h.templates.trans hnext.templates
  runs := h.runs.trans hnext.runs
  findings := h.findings.trans hnext.findings

end Store

namespace Session

variable {ids : Nat → String} {region : String} {session next : Session}

theorem extends_of_effect (h : Coherent ids region session) (supply : IdSupply ids)
    {now : Instant} {command : Command} {answer : Except ServiceError Json}
    (heffect : Effect ⟨ids, now⟩ session command answer next) :
    session.store.Extends next.store := by
  cases heffect with
  | groupRefused | subscriptionRefused | runRefused => exact .refl _
  | groupAdded _ hgroup =>
      subst hgroup
      refine { Store.Extends.refl session.store with groups := Table.extends_insert _ _ ?_ }
      exact h.groups.notMem_keys supply (Nat.le_refl _) (Arn.endsIn_resourceGroup _ _ _)
  | targetAdded htarget =>
      subst htarget
      refine { Store.Extends.refl session.store with targets := Table.extends_insert _ _ ?_ }
      exact h.targets.notMem_keys supply (Nat.le_refl _) (Arn.endsIn_target _ _ _)
  | templateAdded htemplate =>
      subst htemplate
      refine { Store.Extends.refl session.store with templates := Table.extends_insert _ _ ?_ }
      exact h.templates.notMem_keys supply (Nat.le_refl _) (Arn.endsIn_template _ _)
  | @subscribed templateArn event topicArn _ _ =>
      refine { Store.Extends.refl session.store with templates := ?_ }
      apply Table.extends_update
      exact fun template => rfl
  | runAdded _ hrun hfinding =>
      subst hrun hfinding
      refine { Store.Extends.refl session.store with
        runs := Table.extends_insert _ _ ?_, findings := Table.extends_insert _ _ ?_ }
      · exact h.runs.notMem_keys supply (Nat.le_refl _) (Arn.endsIn_run _ _)
      · exact h.findings.notMem_keys supply (Nat.le_succ _) (Arn.endsIn_finding _ _)

/-! ## Calls by name -/

/-- An action that is called at some time, by any name and with any
parameters. -/
structure Call where
  now : Instant
  name : String
  parameters : Json

/-- The session after some calls, whether they are refused or not. -/
def calls (ids : Nat → String) (session : Session) (calls : List Call) : Session :=
  calls.foldl (fun session call =>
    (session.invoke ⟨ids, call.now⟩ call.name call.parameters).2) session

theorem kept_by_invoke (h : Coherent ids region session) (supply : IdSupply ids) (now : Instant)
    (name : String) (parameters : Json) :
    Coherent ids region (session.invoke ⟨ids, now⟩ name parameters).2 ∧
      session.store.Extends (session.invoke ⟨ids, now⟩ name parameters).2.store := by
  rcases invoke_cases ⟨ids, now⟩ name parameters session with
    hself | ⟨_, command, -, -, hexecute⟩
  · rw [hself]
    exact ⟨h, .refl _⟩
  · rw [hexecute]
    have heffect := effect_execute ⟨ids, now⟩ command session
    exact ⟨h.of_effect supply heffect, extends_of_effect h supply heffect⟩

theorem kept_by_calls (h : Coherent ids region session) (supply : IdSupply ids)
    (calls : List Call) :
    Coherent ids region (session.calls ids calls) ∧
      session.store.Extends (session.calls ids calls).store := by
  induction calls generalizing session with
  | nil => exact ⟨h, .refl _⟩
  | cons call rest ih =>
      have hcall := kept_by_invoke h supply call.now call.name call.parameters
      have hrest := ih hcall.1
      exact ⟨hrest.1, hcall.2.trans hrest.2⟩

end Session

end Inspection
