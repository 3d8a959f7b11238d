import Inspection.Proofs.Decoding
import Inspection.Proofs.Filter.Grammar
import Inspection.Request

/-!
# When a parameter is read

The parameters from which each kind of reading gets a given value.  A parameter
that may be given and is not, or is null, is told apart from a faulty one.
-/

namespace Inspection

namespace Parameters

variable {α : Type} {parameters : Json} {name : String}

theorem text_eq_ok_iff {read : String} :
    text parameters name = .ok read ↔ parameters.given? name = some (.str read) := by
  unfold text
  split <;> simp_all

theorem text?_eq_some_iff {read : String} :
    text? parameters name = some read ↔ parameters.given? name = some (.str read) := by
  rw [text?, Option.bind_eq_some_iff]
  simp [Json.text?_eq_some_iff]

theorem integer_eq_ok_iff {read : Int} :
    integer parameters name = .ok read ↔
      parameters.given? name = some (.int read) ∧ -2 ^ 63 ≤ read ∧ read < 2 ^ 63 := by
  have hread : ∀ value : Json, value.signed? = some read ↔
      value = .int read ∧ -2 ^ 63 ≤ read ∧ read < 2 ^ 63 := fun value =>
    Json.signed?_eq_some_iff
  unfold integer
  cases parameters.given? name with
  | none => simp
  | some value =>
      rw [Option.some.injEq, ← hread]
      cases hsigned : value.signed? <;> simp [hsigned]

theorem duration_eq_ok_iff {read : Int} :
    duration parameters name = .ok read ↔ parameters.given? name = some (.int read) ∧
      (shortestDuration : Int) ≤ read ∧ read ≤ longestDuration := by
  simp only [duration, Outcome.bind_eq_ok_iff, integer_eq_ok_iff]
  constructor
  · rintro ⟨seconds, ⟨hgiven, -⟩, hrange⟩
    split at hrange
    · rename_i hbounds
      obtain rfl := Except.ok.inj hrange
      exact ⟨hgiven, hbounds⟩
    · exact absurd hrange (by simp)
  · rintro ⟨hgiven, hbounds⟩
    have hsmall : -2 ^ 63 ≤ read ∧ read < 2 ^ 63 := by
      simp only [shortestDuration, longestDuration] at hbounds
      omega
    exact ⟨read, ⟨hgiven, hsmall⟩, if_pos hbounds⟩

theorem items?_eq_ok_iff {decode : Decoder α} {read : Option (List α)} :
    items? decode parameters name = .ok read ↔
      parameters.given? name = none ∧ read = none ∨
        ∃ value values, parameters.given? name = some value ∧ read = some values ∧
          Decoder.list decode value = .ok values := by
  unfold items?
  cases parameters.given? name with
  | none => simp [eq_comm]
  | some value => cases hlist : Decoder.list decode value <;> simp [hlist, eq_comm]

theorem items_eq_ok_iff {decode : Decoder α} {read : List α} :
    items decode parameters name = .ok read ↔ ∃ entries,
      parameters.given? name = some (.arr entries) ∧
        List.Forall₂ (fun entry value => decode entry = .ok value) entries read := by
  simp only [items, Outcome.bind_eq_ok_iff, items?_eq_ok_iff]
  constructor
  · rintro ⟨_, ⟨-, rfl⟩ | ⟨value, values, hgiven, rfl, hlist⟩, hread⟩
    · exact absurd hread (by simp)
    · obtain rfl := Except.ok.inj hread
      obtain ⟨entries, rfl, hentries⟩ := Decoder.list_eq_ok_iff.mp hlist
      exact ⟨entries, hgiven, hentries⟩
  · rintro ⟨entries, hgiven, hentries⟩
    have hlist := Decoder.list_eq_ok_iff.mpr ⟨entries, rfl, hentries⟩
    exact ⟨some read, .inr ⟨_, read, hgiven, rfl, hlist⟩, rfl⟩

theorem texts_eq_ok_iff {read : List String} :
    texts parameters name = .ok read ↔ parameters.given? name = some (.texts read) := by
  simp only [texts, items_eq_ok_iff, Decoder.forall₂_text_iff, Json.texts]
  simp

end Parameters

end Inspection
