import Inspection.Decimal
import Mathlib.Data.List.Induction

/-!
# Decimal texts of a number

A number is read from its digits, behind any zeros and behind a plus sign.  No
other text is read as that number.
-/

namespace Inspection

namespace Decimal

theorem digits_of_lt {d : Nat} (hd : d < 10) : digits d = [digitChar d] := by
  rw [digits, if_pos hd]

theorem digits_of_le {n : Nat} (hn : 10 ≤ n) :
    digits n = digits (n / 10) ++ [digitChar (n % 10)] := by
  rw [digits, if_neg (Nat.not_lt.mpr hn)]

/-- A digit that is appended to a number other than zero goes to its end. -/
theorem digits_append {n d : Nat} (hn : n ≠ 0) (hd : d < 10) :
    digits (10 * n + d) = digits n ++ [digitChar d] := by
  have hdiv : (10 * n + d) / 10 = n := by omega
  have hmod : (10 * n + d) % 10 = d := by omega
  rw [digits_of_le (by omega), hdiv, hmod]

theorem digitValue?_eq_some_iff {c : Char} {d : Nat} :
    digitValue? c = some d ↔ d < 10 ∧ c = digitChar d := by
  constructor
  · intro h
    simp only [digitValue?, Option.ite_none_right_eq_some, Option.some.injEq] at h
    obtain ⟨hdigit, rfl⟩ := h
    refine ⟨by omega, ?_⟩
    have hcode : 48 + (c.toNat - 48) = c.toNat := by omega
    rw [digitChar, hcode, Char.ofNat_toNat]
  · rintro ⟨hd, rfl⟩
    exact digitValue?_digitChar hd

theorem extend?_singleton_eq_some_iff {read n : Nat} {c : Char} :
    extend? read [c] = some n ↔ ∃ d < 10, c = digitChar d ∧ n = 10 * read + d := by
  cases hdigit : digitValue? c with
  | none =>
      simp only [extend?, hdigit, reduceCtorEq, false_iff]
      rintro ⟨d, hd, rfl, -⟩
      exact absurd ((digitValue?_digitChar hd).symm.trans hdigit) (by simp)
  | some d =>
      obtain ⟨hd, rfl⟩ := digitValue?_eq_some_iff.mp hdigit
      simp only [extend?, hdigit, Option.some.injEq]
      constructor
      · rintro rfl
        exact ⟨d, hd, rfl, rfl⟩
      · rintro ⟨other, hother, heq, rfl⟩
        rw [heq, digitValue?_digitChar hother, Option.some.injEq] at hdigit
        rw [hdigit]

theorem extend?_replicate_zero (width : Nat) (digits : List Char) :
    extend? 0 (List.replicate width '0' ++ digits) = extend? 0 digits := by
  induction width with
  | zero => rfl
  | succ width ih => simpa [List.replicate_succ, extend?, digitValue?] using ih

/-- What is read as a number are its digits behind zeros: by induction on the
last character, since the digits of a number come from the right. -/
theorem exists_zeros_of_extend? {chars : List Char} {n : Nat} (hne : chars ≠ [])
    (h : extend? 0 chars = some n) :
    ∃ zeros, chars = List.replicate zeros '0' ++ digits n := by
  induction chars using List.reverseRecOn generalizing n with
  | nil => exact absurd rfl hne
  | append_singleton opening c ih =>
      rw [extend?_append, Option.bind_eq_some_iff] at h
      obtain ⟨m, hopening, hlast⟩ := h
      obtain ⟨d, hd, rfl, rfl⟩ := extend?_singleton_eq_some_iff.mp hlast
      by_cases hnil : opening = []
      · subst hnil
        obtain rfl : 0 = m := Option.some.inj hopening
        refine ⟨0, ?_⟩
        rw [Nat.mul_zero, Nat.zero_add, digits_of_lt hd]
        rfl
      · obtain ⟨zeros, rfl⟩ := ih hnil hopening
        by_cases hzero : m = 0
        · subst hzero
          refine ⟨zeros + 1, ?_⟩
          rw [Nat.mul_zero, Nat.zero_add, digits_of_lt hd, List.replicate_succ',
            digits_of_lt (by decide)]
          rfl
        · exact ⟨zeros, by rw [digits_append hzero hd, List.append_assoc]⟩

theorem value?_eq_some_iff {chars : List Char} {n : Nat} :
    value? chars = some n ↔ ∃ zeros, chars = List.replicate zeros '0' ++ digits n := by
  have hvalue : chars ≠ [] → value? chars = extend? 0 chars := by
    cases chars with
    | nil => exact fun hne => absurd rfl hne
    | cons => exact fun _ => rfl
  constructor
  · intro h
    have hne : chars ≠ [] := by
      rintro rfl
      exact absurd h (by simp [value?])
    exact exists_zeros_of_extend? hne (hvalue hne ▸ h)
  · rintro ⟨zeros, rfl⟩
    rw [hvalue (by simp [digits_ne_nil]), extend?_replicate_zero, extend?_digits]

/-- A text writes a number in decimal: its digits, with any zeros before them
and perhaps a plus sign before these. -/
def Writes (text : String) (n : Nat) : Prop :=
  ∃ zeros, text.toList = List.replicate zeros '0' ++ digits n ∨
    text.toList = '+' :: (List.replicate zeros '0' ++ digits n)

theorem writes_ofNat (n : Nat) : Writes (ofNat n) n :=
  ⟨0, .inl (by rw [ofNat, String.toList_ofList]; rfl)⟩

theorem unsigned?_eq_some_iff {text : String} {n : Nat} :
    unsigned? text.toList = some n ↔ Writes text n := by
  rw [Writes, exists_or]
  unfold unsigned?
  split
  · rename_i rest hsign
    have hunsigned : ¬ ∃ zeros, '+' :: rest = List.replicate zeros '0' ++ digits n := by
      rw [← value?_eq_some_iff]
      simp [value?, extend?, digitValue?]
    simp only [hsign, hunsigned, false_or, List.cons.injEq, true_and, value?_eq_some_iff]
  · rename_i hsign
    have hplus : ¬ ∃ zeros, text.toList = '+' :: (List.replicate zeros '0' ++ digits n) := by
      rintro ⟨zeros, heq⟩
      exact hsign _ heq
    rw [value?_eq_some_iff]
    exact (or_iff_left hplus).symm

theorem Writes.unique {text : String} {m n : Nat} (hm : Writes text m) (hn : Writes text n) :
    m = n :=
  Option.some.inj ((unsigned?_eq_some_iff.mpr hm).symm.trans (unsigned?_eq_some_iff.mpr hn))

theorem isAlphanum_of_mem_digits {n : Nat} {c : Char} (h : c ∈ digits n) :
    c.isAlphanum = true := by
  have hdigit : ∀ d < 10, (digitChar d).isAlphanum = true := by decide
  induction n using digits.induct with
  | case1 n hn =>
      rw [digits, if_pos hn, List.mem_singleton] at h
      exact h ▸ hdigit n hn
  | case2 n hn ih =>
      rw [digits, if_neg hn, List.mem_append, List.mem_singleton] at h
      rcases h with h | rfl
      · exact ih h
      · exact hdigit _ (Nat.mod_lt n (by decide))

end Decimal

end Inspection
