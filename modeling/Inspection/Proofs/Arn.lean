import Inspection.Arn
import Inspection.Proofs.Decimal
import Mathlib.Data.List.Basic
import Mathlib.Logic.Function.Basic

/-!
# Ids in resource names

Every name that is given to a new entity ends in a slash, `0-` and the id that
was drawn for it.  An id has no slash, so that it can be read off the name
whatever text the parent is, and names of different ids differ.
-/

namespace Inspection

/-- A supply of ids: all are alphanumeric, and none is given out twice. -/
structure IdSupply (ids : Nat → String) : Prop where
  alphanumeric : ∀ n, ∀ c ∈ (ids n).toList, c.isAlphanum = true
  injective : Function.Injective ids

namespace Arn

theorem eq_and_eq_of_append_slash {xs ys as bs : List Char} (ha : '/' ∉ as) (hb : '/' ∉ bs)
    (h : xs ++ '/' :: as = ys ++ '/' :: bs) : xs = ys ∧ as = bs := by
  rcases List.append_eq_append_iff.mp h with ⟨cs, hys, htail⟩ | ⟨cs, hxs, htail⟩
  · cases cs with
    | nil =>
        have heq : as = bs := by simpa using htail
        exact ⟨by simpa using hys.symm, heq⟩
    | cons c cs =>
        obtain ⟨-, has⟩ := List.cons.inj htail
        exact absurd (has ▸ by simp) ha
  · cases cs with
    | nil =>
        have heq : bs = as := by simpa using htail
        exact ⟨by simpa using hxs, heq.symm⟩
    | cons c cs =>
        obtain ⟨-, hbs⟩ := List.cons.inj htail
        exact absurd (hbs ▸ by simp) hb

/-- A name ends in an id that was drawn for it. -/
def EndsIn (id arn : String) : Prop :=
  ∃ opening : List Char, arn.toList = opening ++ '/' :: '0' :: '-' :: id.toList

theorem EndsIn.append_left {id arn : String} (h : EndsIn id arn) (opening : String) :
    EndsIn id (opening ++ arn) := by
  obtain ⟨before, hbefore⟩ := h
  exact ⟨opening.toList ++ before, by rw [String.toList_append, hbefore, List.append_assoc]⟩

theorem endsIn_resourceGroup (region account id : String) :
    EndsIn id (resourceGroup region account id) := by
  apply EndsIn.append_left
  exact ⟨"resourcegroup".toList, by simp⟩

theorem endsIn_target (region account id : String) : EndsIn id (target region account id) := by
  apply EndsIn.append_left
  exact ⟨"target".toList, by simp⟩

theorem endsIn_template (target id : String) : EndsIn id (template target id) :=
  ⟨(target ++ "/template").toList, by simp [template]⟩

theorem endsIn_run (template id : String) : EndsIn id (run template id) :=
  ⟨(template ++ "/run").toList, by simp [run]⟩

theorem endsIn_finding (run id : String) : EndsIn id (finding run id) :=
  ⟨(run ++ "/finding").toList, by simp [finding]⟩

theorem EndsIn.id_unique {i j arn : String} (hi : EndsIn i arn) (hj : EndsIn j arn)
    (hislash : '/' ∉ i.toList) (hjslash : '/' ∉ j.toList) : i = j := by
  obtain ⟨xs, hxs⟩ := hi
  obtain ⟨ys, hys⟩ := hj
  have htails := (eq_and_eq_of_append_slash (by simpa using hislash) (by simpa using hjslash)
    (hxs.symm.trans hys)).2
  simp only [List.cons.injEq, true_and] at htails
  exact String.ext htails

end Arn

namespace IdSupply

variable {ids : Nat → String}

theorem slash_notMem (supply : IdSupply ids) (n : Nat) : '/' ∉ (ids n).toList := by
  intro hslash
  have halphanum := supply.alphanumeric n '/' hslash
  exact absurd halphanum (by decide)

theorem eq_of_endsIn (supply : IdSupply ids) {m n : Nat} {arn : String}
    (hm : Arn.EndsIn (ids m) arn) (hn : Arn.EndsIn (ids n) arn) : m = n :=
  supply.injective (hm.id_unique hn (supply.slash_notMem m) (supply.slash_notMem n))

/-- Ids that are counted from one, in six digits at least. -/
def counted (n : Nat) : String :=
  String.ofList ('I' :: 'd' :: Decimal.padded 6 (n + 1))

theorem counted_isSupply : IdSupply counted where
  alphanumeric := by
    intro n c hc
    simp only [counted, Decimal.padded, String.toList_ofList, List.mem_cons, List.mem_append,
      List.mem_replicate] at hc
    rcases hc with rfl | rfl | ⟨_, rfl⟩ | hc
    · decide
    · decide
    · decide
    · exact Decimal.isAlphanum_of_mem_digits hc
  injective := by
    intro m n h
    have hpadded : Decimal.padded 6 (m + 1) = Decimal.padded 6 (n + 1) := by
      simpa [counted] using congrArg String.toList h
    have hread : ∀ k, Decimal.extend? 0 (Decimal.padded 6 k) = some k := fun k => by
      rw [Decimal.padded, Decimal.extend?_replicate_zero, Decimal.extend?_digits]
    have hsucc := (hread (m + 1)).symm.trans ((congrArg _ hpadded).trans (hread (n + 1)))
    simpa using hsucc

end IdSupply

end Inspection
