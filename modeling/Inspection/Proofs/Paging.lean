import Inspection.Paging
import Inspection.Proofs.Decimal
import Inspection.Proofs.Outcome
import Mathlib.Algebra.Group.Nat.Defs

/-!
# Tokens and pages

A token that was written for a number of results reads back as that number, and
a page that starts where the results so far end continues them.
-/

namespace Inspection

namespace Json

theorem unsigned?_eq_some_iff {value : Json} {n : Nat} :
    value.unsigned? = some n ↔ value = .int n ∧ n < 2 ^ 64 := by
  cases value with
  | int m =>
      rw [unsigned?, Option.ite_none_right_eq_some, Option.some.injEq, Json.int.injEq]
      omega
  | null | bool | float | str | arr | obj => simp [unsigned?]

end Json

namespace Paging

theorem size_eq_ok_iff {value : Json} {read : Option Nat} :
    size (some value) = .ok read ↔
      ∃ n : Nat, read = some n ∧ value = .int n ∧ 0 < n ∧ n < 2 ^ 64 := by
  have hunsigned : size (some value) = .ok read ↔
      ∃ n : Nat, read = some n ∧ value.unsigned? = some n ∧ 0 < n := by
    cases hvalue : value.unsigned? with
    | none => simp [size, hvalue]
    | some n => cases n <;> simp [size, hvalue, eq_comm]
  rw [hunsigned]
  refine exists_congr fun n => and_congr_right fun _ => ?_
  rw [Json.unsigned?_eq_some_iff, and_assoc, and_comm (a := n < 2 ^ 64)]

theorem offset_eq_ok_iff {token : String} {n : Nat} :
    offset (some token) = .ok n ↔ Decimal.Writes token n ∧ n < 2 ^ 64 := by
  have hoffset : offset? token = some n ↔ Decimal.Writes token n ∧ n < 2 ^ 64 := by
    rw [offset?, Option.filter_eq_some_iff, Decimal.unsigned?_eq_some_iff, decide_eq_true_eq]
    rfl
  rw [← hoffset, offset]
  cases offset? token <;> simp

theorem offset_lt {token : Option String} {n : Nat} (h : offset token = .ok n) : n < 2 ^ 64 := by
  cases token with
  | none =>
      obtain rfl := Except.ok.inj h
      decide
  | some token => exact (offset_eq_ok_iff.mp h).2

theorem offset_ofNat {n : Nat} (h : n < 2 ^ 64) : offset (some (Decimal.ofNat n)) = .ok n :=
  offset_eq_ok_iff.mpr ⟨Decimal.writes_ofNat n, h⟩

theorem eq_of_offset_ofNat {n offset : Nat}
    (h : Paging.offset (some (Decimal.ofNat n)) = .ok offset) :
    offset = n :=
  (offset_eq_ok_iff.mp h).1.unique (Decimal.writes_ofNat n)

theorem size_int {n : Nat} (hpos : 0 < n) (hlt : n < 2 ^ 64) :
    size (some (.int n)) = .ok (some n) :=
  size_eq_ok_iff.mpr ⟨n, rfl, rfl, hpos, hlt⟩

end Paging

namespace Window

variable {window : Window} {results : List String} {offset size : Nat}

theorem limit_le (window : Window) (length : Nat) : window.limit length ≤ length := by
  unfold limit
  split
  · exact Nat.min_le_right _ _
  · exact Nat.le_refl _

theorem limit_some {length : Nat} (h : length < 2 ^ 64) :
    limit ⟨offset, some size⟩ length = min (offset + size) length := by
  simp only [limit, saturated]
  omega

/-- A page does not end before it starts, however large its offset and its size
are: a sum that is cut down to 64 bits is still beyond the offset. -/
theorem start_le_limit {length : Nat} (h : window.offset < 2 ^ 64 ∨ length < 2 ^ 64) :
    min window.offset length ≤ window.limit length := by
  unfold limit saturated
  split <;> omega

/-- The stretch of a page is always within the results. -/
theorem slice?_page (h : window.offset < 2 ^ 64 ∨ results.length < 2 ^ 64) :
    slice? results (min window.offset results.length) (window.limit results.length) =
      some ((results.take (window.limit results.length)).drop window.offset) := by
  rw [slice?, if_pos ⟨start_le_limit h, window.limit_le _⟩]
  rcases Nat.le_total window.offset results.length with hle | hle
  · rw [Nat.min_eq_left hle]
  · have hnone : ∀ start, results.length ≤ start →
        (results.take (window.limit results.length)).drop start = [] := by
      intro start hstart
      exact List.drop_eq_nil_of_le (Nat.le_trans (List.length_take_le' _ _) hstart)
    rw [Nat.min_eq_right hle, hnone _ hle, hnone _ (Nat.le_refl _)]

theorem items_eq (h : window.offset < 2 ^ 64 ∨ results.length < 2 ^ 64) :
    (window.page results).items =
      (results.take (window.limit results.length)).drop window.offset := by
  rw [page, slice?_page h, Option.getD_some]

theorem items_sublist (window : Window) (results : List String) :
    (window.page results).items.Sublist results := by
  unfold page slice?
  split
  · exact (List.drop_sublist _ _).trans (List.take_sublist _ _)
  · exact List.nil_sublist _

/-- Without a size, a page goes on to the end. -/
theorem page_rest (h : offset < 2 ^ 64 ∨ results.length < 2 ^ 64) :
    page ⟨offset, none⟩ results = ⟨results.drop offset, none⟩ := by
  have hlimit : limit ⟨offset, none⟩ results.length = results.length := rfl
  have hitems := @items_eq ⟨offset, none⟩ results h
  rw [hlimit, List.take_length] at hitems
  rw [← hitems]
  simp [page, hlimit]

/-- With a size, a page ends there, or with the results. -/
theorem page_part (h : results.length < 2 ^ 64) :
    page ⟨offset, some size⟩ results = ⟨(results.drop offset).take size,
      if offset + size < results.length then some (offset + size) else none⟩ := by
  have hitems : (page ⟨offset, some size⟩ results).items = (results.drop offset).take size := by
    rw [items_eq (.inr h), limit_some h, ← List.take_eq_take_min, List.drop_take,
      Nat.add_sub_cancel_left]
  have hnext : (page ⟨offset, some size⟩ results).next =
      if offset + size < results.length then some (offset + size) else none := by
    simp only [page, limit_some h]
    by_cases hmore : offset + size < results.length
    · rw [Nat.min_eq_left (Nat.le_of_lt hmore)]
    · rw [Nat.min_eq_right (Nat.le_of_not_lt hmore), if_neg (Nat.lt_irrefl _), if_neg hmore]
  rw [← hitems, ← hnext]

/-- The results up to a page, and the page, are the results up to its end. -/
theorem take_append_items (hoffset : window.offset < 2 ^ 64)
    (h : window.offset ≤ results.length) :
    results.take window.offset ++ (window.page results).items =
      results.take (window.limit results.length) := by
  have hstart : min window.offset results.length ≤ window.limit results.length :=
    start_le_limit (.inl hoffset)
  rw [Nat.min_eq_left h] at hstart
  have htake : results.take window.offset =
      (results.take (window.limit results.length)).take window.offset := by
    rw [List.take_take, Nat.min_eq_left hstart]
  rw [htake, items_eq (.inl hoffset)]
  exact List.take_append_drop _ _

end Window

/-- The results that a client has are the first ones of a listing, and its
token, if it has one, is their number, when there are more. -/
structure Paging.Delivered (collected : List String) (token : Option String)
    (results : List String) : Prop where
  isPrefix : collected <+: results
  token_eq : token =
    if collected.length < results.length then some (Decimal.ofNat collected.length) else none

namespace Paging.Delivered

variable {collected results : List String} {token : Option String}

theorem eq_of_no_token (h : Delivered collected none results) : collected = results := by
  have hlength : results.length ≤ collected.length := by
    by_contra hlt
    have htoken := h.token_eq
    rw [if_pos (Nat.lt_of_not_le hlt)] at htoken
    exact absurd htoken (by simp)
  exact h.isPrefix.eq_of_length_le hlength

theorem token_spec {text : String} (h : Delivered collected (some text) results) :
    text = Decimal.ofNat collected.length ∧ collected.length < results.length := by
  have htoken := h.token_eq
  split at htoken
  · rename_i hlt
    exact ⟨Option.some.inj htoken, hlt⟩
  · exact absurd htoken (by simp)

/-- A token is given out of a listing that is not empty. -/
theorem results_ne_nil {text : String} (h : Delivered collected (some text) results) :
    results ≠ [] := by
  rintro rfl
  exact absurd h.token_spec.2 (Nat.not_lt_zero _)

theorem append_page (h : collected <+: results) (hcount : collected.length < 2 ^ 64) (size : Nat) :
    let page := Window.page ⟨collected.length, some size⟩ results
    Delivered (collected ++ page.items) (page.next.map Decimal.ofNat) results := by
  intro page
  have hcollected : results.take collected.length = collected :=
    (List.prefix_iff_eq_take.mp h).symm
  have happend : collected ++ page.items = results.take
      ((Window.mk collected.length (some size)).limit results.length) := by
    have htake := @Window.take_append_items ⟨collected.length, some size⟩ results hcount
      h.length_le
    rwa [hcollected] at htake
  have hlength : (collected ++ page.items).length =
      (Window.mk collected.length (some size)).limit results.length := by
    rw [happend, List.length_take, Nat.min_eq_left (Window.limit_le _ _)]
  refine ⟨?_, ?_⟩
  · rw [happend]
    exact List.take_prefix _ _
  · rw [hlength]
    simp only [page, Window.page]
    split <;> rfl

end Paging.Delivered

end Inspection
