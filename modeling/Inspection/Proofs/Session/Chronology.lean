import Inspection.Proofs.Session.Coherence

/-!
# Order of creation

Ids are numbered in the order in which they are drawn, and a name ends in the
id that was drawn for it.  Hence two names tell which of them was given first.
In every table of a session the names stand in that order.
-/

namespace Inspection

namespace Arn

/-- One name was given before another. -/
def Before (ids : Nat → String) (arn other : String) : Prop :=
  ∃ m n, m < n ∧ EndsIn (ids m) arn ∧ EndsIn (ids n) other

end Arn

namespace Table

variable {E : Type} {ids : Nat → String} {region : String} {arn home : E → String} {drawn : Nat}
  {table : Table E}

def Chronological (ids : Nat → String) (table : Table E) : Prop :=
  table.keys.Pairwise (Arn.Before ids)

theorem Chronological.empty : (Table.empty : Table E).Chronological ids :=
  List.Pairwise.nil

theorem Chronological.update (h : table.Chronological ids) (key : String) (change : E → E) :
    (table.update key change).Chronological ids := by
  rw [Chronological, keys_update]
  exact h

/-- A name with an id that is drawn later comes after all names of the table. -/
theorem Chronological.insert (h : table.Chronological ids) (supply : IdSupply ids)
    (hfiled : table.Filed ids region arn home drawn) {entity : E} {n : Nat} (hn : drawn ≤ n)
    (hends : Arn.EndsIn (ids n) (arn entity)) :
    (table.insert (arn entity) entity).Chronological ids := by
  have hnew := hfiled.notMem_keys supply hn hends
  have hbefore : ∀ key ∈ table.keys, Arn.Before ids key (arn entity) := by
    intro key hkey
    obtain ⟨value, hentry⟩ := mem_keys_iff.mp hkey
    obtain ⟨m, hm, hissued⟩ := (hfiled _ hentry).issued
    exact ⟨m, n, Nat.lt_of_lt_of_le hm hn, hissued, hends⟩
  rw [Chronological, keys, entries_insert_of_notMem entity hnew, List.map_append]
  refine List.pairwise_append.mpr ⟨h, List.pairwise_singleton _ _, ?_⟩
  intro key hkey other hother
  obtain rfl : other = arn entity := by simpa using hother
  exact hbefore key hkey

end Table

namespace Store

structure Chronological (ids : Nat → String) (store : Store) : Prop where
  groups : store.groups.Chronological ids
  targets : store.targets.Chronological ids
  templates : store.templates.Chronological ids
  runs : store.runs.Chronological ids
  findings : store.findings.Chronological ids

theorem Chronological.empty (ids : Nat → String) (region account : String) :
    (Store.empty region account).Chronological ids :=
  ⟨.empty, .empty, .empty, .empty, .empty⟩

end Store

namespace Session

variable {ids : Nat → String} {region : String} {session next : Session}

theorem chronological_of_effect (h : session.store.Chronological ids)
    (hcoherent : Coherent ids region session) (supply : IdSupply ids) {now : Instant}
    {command : Command} {answer : Except ServiceError Json}
    (heffect : Effect ⟨ids, now⟩ session command answer next) :
    next.store.Chronological ids := by
  cases heffect with
  | groupRefused | subscriptionRefused | runRefused => exact h
  | groupAdded _ hgroup =>
      subst hgroup
      exact { h with
        groups := h.groups.insert supply hcoherent.groups (Nat.le_refl _)
          (Arn.endsIn_resourceGroup _ _ _) }
  | targetAdded htarget =>
      subst htarget
      exact { h with
        targets := h.targets.insert supply hcoherent.targets (Nat.le_refl _)
          (Arn.endsIn_target _ _ _) }
  | templateAdded htemplate =>
      subst htemplate
      exact { h with
        templates := h.templates.insert supply hcoherent.templates (Nat.le_refl _)
          (Arn.endsIn_template _ _) }
  | subscribed => exact { h with templates := h.templates.update _ _ }
  | runAdded _ hrun hfinding =>
      subst hrun hfinding
      exact { h with
        runs := h.runs.insert supply hcoherent.runs (Nat.le_refl _) (Arn.endsIn_run _ _)
        findings := h.findings.insert supply hcoherent.findings (Nat.le_succ _)
          (Arn.endsIn_finding _ _) }

theorem chronological_run (supply : IdSupply ids) (region account : String) (steps : List Step) :
    ((start region account).run ids steps).store.Chronological ids := by
  suffices h : Coherent ids region ((start region account).run ids steps) ∧
      ((start region account).run ids steps).store.Chronological ids from h.2
  apply run_preserves (P := fun session =>
    Coherent ids region session ∧ session.store.Chronological ids)
  · rintro now session command answer next ⟨hcoherent, h⟩ heffect
    exact ⟨hcoherent.of_effect supply heffect,
      chronological_of_effect h hcoherent supply heffect⟩
  · rintro session ⟨hcoherent, -⟩
    exact ⟨hcoherent.reset, .empty ids _ _⟩
  · exact ⟨.empty ids region account 0, .empty ids region account⟩

end Session

end Inspection
