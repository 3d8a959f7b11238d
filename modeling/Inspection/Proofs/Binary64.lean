import Inspection.Instant
import Inspection.Json
import Mathlib.Algebra.Order.Field.Basic
import Mathlib.Data.Rat.Cast.Order
import Mathlib.Tactic.Ring

/-!
# Comparing numbers with whole seconds

A whole number below `2^53` is a binary64 number, and a larger one is never
rounded below that bound.  Hence comparing the binary64 reading of a JSON
number with a whole number in that range gives the verdict of exact
arithmetic, whatever the number is.  Every second of the calendar is such a
whole number.
-/

namespace Inspection

namespace Binary64

theorem twoTo_eq (exponent : Nat) : twoTo exponent = 2 ^ exponent :=
  Nat.pow_eq

/-- What is proved about whole numbers needs no more than this. -/
theorem exists_one_eq_two_pow : ∃ e, one = 2 ^ e := ⟨1074, twoTo_eq 1074⟩

theorem spacing_eq (units : Nat) : spacing units = 2 ^ (units.log2 - 52) :=
  twoTo_eq _

theorem one_pos : 0 < one := by
  obtain ⟨e, he⟩ := exists_one_eq_two_pow
  rw [he]
  exact Nat.two_pow_pos e

theorem nearest_eq_div_of_dvd {n d : Nat} (hd : 0 < d) (hdvd : d ∣ n) :
    nearest n d = n / d := by
  have hmod : n % d = 0 := Nat.mod_eq_zero_of_dvd hdvd
  simp [nearest, hmod, hd]

theorem div_le_nearest (n d : Nat) : n / d ≤ nearest n d := by
  unfold nearest
  split
  · exact Nat.le_refl _
  · split
    · exact Nat.le_succ _
    · exact Nat.le_add_right _ _

theorem whole_eq_nearest (n : Nat) :
    whole n = nearest (n * one) (spacing (n * one)) * spacing (n * one) := by
  simp [whole, round]

/-- A whole number below `2^53` is represented exactly. -/
theorem whole_eq_mul_one {n : Nat} (hn : n < 2 ^ 53) : whole n = n * one := by
  have hdvd : spacing (n * one) ∣ n * one := by
    rcases Nat.eq_zero_or_pos n with rfl | hpos
    · simp
    · obtain ⟨e, he⟩ := exists_one_eq_two_pow
      have hne : n * one ≠ 0 := (Nat.mul_pos hpos one_pos).ne'
      have hlt : n * one < 2 ^ (53 + e) := by
        rw [he, Nat.pow_add]
        exact Nat.mul_lt_mul_of_pos_right hn (Nat.two_pow_pos e)
      have hlog : (n * one).log2 < 53 + e := (Nat.log2_lt hne).mpr hlt
      have hspacing : spacing (n * one) ∣ 2 ^ e := Nat.pow_dvd_pow 2 (by omega)
      have hunit : 2 ^ e ∣ n * one := Dvd.intro_left n (by rw [he])
      exact hspacing.trans hunit
  have hpos : 0 < spacing (n * one) := Nat.two_pow_pos _
  rw [whole_eq_nearest, nearest_eq_div_of_dvd hpos hdvd, Nat.div_mul_cancel hdvd]

theorem le_whole {n : Nat} (hn : 2 ^ 53 ≤ n) : 2 ^ 53 * one ≤ whole n := by
  obtain ⟨e, he⟩ := exists_one_eq_two_pow
  have hbound : 2 ^ 53 * one = 2 ^ (53 + e) := by rw [he, Nat.pow_add]
  have hle : 2 ^ (53 + e) ≤ n * one := hbound ▸ Nat.mul_le_mul_right one hn
  have hne : n * one ≠ 0 := (Nat.lt_of_lt_of_le (Nat.two_pow_pos _) hle).ne'
  have hlog : 53 + e ≤ (n * one).log2 := (Nat.le_log2 hne).mpr hle
  have hsplit : 2 ^ 52 * spacing (n * one) = 2 ^ (n * one).log2 := by
    rw [spacing_eq, ← Nat.pow_add, Nat.add_sub_cancel' (by omega)]
  have hpos : 0 < spacing (n * one) := Nat.two_pow_pos _
  have hquotient : 2 ^ 52 ≤ n * one / spacing (n * one) := by
    rw [Nat.le_div_iff_mul_le hpos, hsplit]
    exact Nat.log2_self_le hne
  calc
    2 ^ 53 * one = 2 ^ (53 + e) := hbound
    _ ≤ 2 ^ (n * one).log2 := Nat.pow_le_pow_right (by decide) hlog
    _ = 2 ^ 52 * spacing (n * one) := hsplit.symm
    _ ≤ nearest (n * one) (spacing (n * one)) * spacing (n * one) :=
      Nat.mul_le_mul_right _ (hquotient.trans (div_le_nearest _ _))
    _ = whole n := (whole_eq_nearest n).symm

theorem toUnits_ofInt (i : Int) :
    (ofInt i).toUnits = if i < 0 then -(whole i.natAbs : Int) else whole i.natAbs := by
  by_cases hi : i < 0 <;> simp [ofInt, toUnits, hi]

theorem toUnits_ofInt_of_lt {i : Int} (hi : i.natAbs < 2 ^ 53) :
    (ofInt i).toUnits = i * one := by
  rw [toUnits_ofInt, whole_eq_mul_one hi]
  push_cast
  split
  · rename_i hneg
    rw [abs_of_neg hneg, neg_mul, neg_neg]
  · rename_i hnonneg
    rw [abs_of_nonneg (not_lt.mp hnonneg)]

theorem toUnits_ofInt_of_le {i : Int} (hi : 2 ^ 53 ≤ i.natAbs) :
    (i < 0 → (ofInt i).toUnits ≤ -(2 ^ 53 * one : Nat)) ∧
      (0 ≤ i → ((2 ^ 53 * one : Nat) : Int) ≤ (ofInt i).toUnits) := by
  have hwhole : ((2 ^ 53 * one : Nat) : Int) ≤ whole i.natAbs := Int.ofNat_le.mpr (le_whole hi)
  rw [toUnits_ofInt]
  refine ⟨fun hneg => ?_, fun hnonneg => ?_⟩
  · rw [if_pos hneg]
    exact neg_le_neg hwhole
  · rw [if_neg (not_lt.mpr hnonneg)]
    exact hwhole

/-- Against a whole number below `2^53`, rounding never changes an order. -/
theorem toUnits_ofInt_le_iff (i : Int) {s : Int} (hs : s.natAbs < 2 ^ 53) :
    (ofInt i).toUnits ≤ s * one ↔ i ≤ s := by
  have hone : (0 : Int) < one := Int.ofNat_lt.mpr one_pos
  rcases Nat.lt_or_ge i.natAbs (2 ^ 53) with hi | hi
  · rw [toUnits_ofInt_of_lt hi]
    exact ⟨fun h => le_of_mul_le_mul_right h hone, fun h => mul_le_mul_of_nonneg_right h hone.le⟩
  · obtain ⟨hlow, hhigh⟩ := toUnits_ofInt_of_le hi
    rcases lt_or_ge i 0 with hneg | hnonneg
    · refine ⟨fun _ => by omega, fun _ => (hlow hneg).trans ?_⟩
      have hbound : -(2 ^ 53 : Int) ≤ s := by omega
      calc
        -((2 ^ 53 * one : Nat) : Int) = -(2 ^ 53) * one := by push_cast; ring
        _ ≤ s * one := mul_le_mul_of_nonneg_right hbound hone.le
    · refine ⟨fun h => absurd ((hhigh hnonneg).trans h) (not_le.mpr ?_), fun h => by omega⟩
      have hbound : s < 2 ^ 53 := by omega
      calc
        s * (one : Int) < 2 ^ 53 * one := mul_lt_mul_of_pos_right hbound hone
        _ = ((2 ^ 53 * one : Nat) : Int) := by push_cast; ring

theorem le_toUnits_ofInt_iff (i : Int) {s : Int} (hs : s.natAbs < 2 ^ 53) :
    s * one ≤ (ofInt i).toUnits ↔ s ≤ i := by
  have hneg : (ofInt (-i)).toUnits = -(ofInt i).toUnits := by
    rw [toUnits_ofInt, toUnits_ofInt, Int.natAbs_neg]
    rcases lt_trichotomy i 0 with hi | rfl | hi
    · rw [if_neg (by omega), if_pos hi, neg_neg]
    · simp [whole, round, nearest]
    · rw [if_pos (by omega), if_neg (by omega)]
  have hiff := toUnits_ofInt_le_iff (-i) (s := -s) (by rwa [Int.natAbs_neg])
  rw [hneg, neg_mul, neg_le_neg_iff, neg_le_neg_iff] at hiff
  exact hiff

/-- The exact value of a binary64 number. -/
def value (x : Binary64) : ℚ :=
  x.toUnits / one

theorem value_le_intCast_iff (x : Binary64) (s : Int) : x.value ≤ s ↔ x.toUnits ≤ s * one := by
  have hone : (0 : ℚ) < one := Nat.cast_pos.mpr one_pos
  rw [value, div_le_iff₀ hone]
  exact_mod_cast Iff.rfl

theorem intCast_le_value_iff (x : Binary64) (s : Int) : s ≤ x.value ↔ s * one ≤ x.toUnits := by
  have hone : (0 : ℚ) < one := Nat.cast_pos.mpr one_pos
  rw [value, le_div_iff₀ hone]
  exact_mod_cast Iff.rfl

end Binary64

namespace Json

def value? : Json → Option ℚ
  | .int n => some n
  | .float x => some x.value
  | _ => none

theorem exists_value?_iff_exists_number? (number : Json) :
    (∃ q, number.value? = some q) ↔ ∃ x, number.number? = some x := by
  cases number <;> simp [value?, number?]

/-- The binary64 reading of a number compares with a whole number below
`2^53` as its exact value does. -/
theorem number?_compares {number : Json} {q : ℚ} {x : Binary64} {s : Int}
    (hs : s.natAbs < 2 ^ 53) (hq : number.value? = some q) (hx : number.number? = some x) :
    (x.le (Binary64.ofInt s) = true ↔ q ≤ s) ∧ ((Binary64.ofInt s).le x = true ↔ s ≤ q) := by
  simp only [Binary64.le, decide_eq_true_eq, Binary64.toUnits_ofInt_of_lt hs]
  cases number with
  | int n =>
      obtain rfl : (n : ℚ) = q := by simpa [value?] using hq
      obtain rfl : Binary64.ofInt n = x := by simpa [number?] using hx
      rw [Binary64.toUnits_ofInt_le_iff n hs, Binary64.le_toUnits_ofInt_iff n hs]
      exact ⟨Int.cast_le.symm, Int.cast_le.symm⟩
  | float y =>
      obtain rfl : y.value = q := by simpa [value?] using hq
      obtain rfl : y = x := by simpa [number?] using hx
      exact ⟨(y.value_le_intCast_iff s).symm, (y.intCast_le_value_iff s).symm⟩
  | null | bool | str | arr | obj => simp [value?] at hq

end Json

namespace Instant

theorem InCalendar.natAbs_seconds_lt {t : Instant} (h : t.InCalendar) :
    t.seconds.natAbs < 2 ^ 53 := by
  obtain ⟨hfirst, hlast⟩ := h
  have hlow : earliest.seconds ≤ t.seconds := by
    rcases hfirst with hlt | ⟨heq, _⟩
    · exact hlt.le
    · exact heq.le
  have hhigh : t.seconds ≤ latest.seconds := by
    rcases hlast with hlt | ⟨heq, _⟩
    · exact hlt.le
    · exact heq.le
  simp only [earliest, latest] at hlow hhigh
  omega

end Instant

end Inspection
