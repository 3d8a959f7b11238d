import Inspection.Text
import Mathlib.Data.List.Basic

/-!
# Cutting text at marks and separators

Where a text is cut, said by what stands before the cut and what follows it.  A
mark whose first character does not come again in it cannot overlap itself, so
that an occurrence is the first one as soon as none lies wholly before it.
-/

namespace Inspection

namespace Text

variable {c separator : Char} {m mark text before rest piece : List Char}

/-- What follows is nothing, or another occurrence of the mark. -/
def EndsOrResumes (mark rest : List Char) : Prop :=
  rest = [] ∨ mark <+: rest

theorem prefix_of_prefix_append_cons (hc : c ∉ mark) (h : mark <+: before ++ c :: rest) :
    mark <+: before := by
  rcases List.prefix_or_prefix_of_prefix h (List.prefix_append before _) with hbefore | ⟨after, rfl⟩
  · exact hbefore
  · rw [List.prefix_append_right_inj, List.prefix_cons_iff] at h
    rcases h with rfl | ⟨_, rfl, -⟩
    · simp
    · exact absurd (List.mem_append_right before List.mem_cons_self) hc

/-- A mark is on one side of a character that it does not have. -/
theorem infix_append_cons_iff (hc : c ∉ mark) :
    mark <:+: before ++ c :: rest ↔ mark <:+: before ∨ mark <:+: rest := by
  constructor
  · intro h
    induction before with
    | nil =>
        rcases List.infix_cons_iff.mp h with hstarts | hrest
        · have hnil : mark <+: [] := prefix_of_prefix_append_cons hc hstarts
          exact .inl hnil.isInfix
        · exact .inr hrest
    | cons b before ih =>
        rcases List.infix_cons_iff.mp h with hstarts | hlater
        · exact .inl (prefix_of_prefix_append_cons hc hstarts).isInfix
        · exact (ih hlater).imp_left fun hbefore => List.infix_cons hbefore
  · rintro (h | h)
    · exact h.trans (List.prefix_append _ _).isInfix
    · exact h.trans ((List.suffix_cons _ _).trans (List.suffix_append _ _)).isInfix

/-- No occurrence begins in a text without the mark that only the mark can
follow. -/
theorem not_prefix_append (hc : c ∉ m) (hne : before ≠ []) (hbefore : ¬ c :: m <:+: before)
    (hrest : EndsOrResumes (c :: m) rest) : ¬ c :: m <+: before ++ rest := by
  rintro ⟨after, h⟩
  rcases List.append_eq_append_iff.mp h with ⟨gap, hgap, -⟩ | ⟨gap, hmark, hgap⟩
  · exact hbefore ⟨[], gap, by rw [hgap, List.nil_append]⟩
  · obtain ⟨first, before, rfl⟩ := List.exists_cons_of_ne_nil hne
    obtain ⟨-, rfl⟩ := List.cons.inj hmark
    cases gap with
    | nil => exact hbefore ⟨[], [], by simpa using hmark⟩
    | cons d gap =>
        rcases hrest with rfl | ⟨further, rfl⟩
        · exact absurd hgap (by simp)
        · obtain ⟨rfl, -⟩ := List.cons.inj hgap
          exact hc (by simp)

theorem afterFirst?_append (hc : c ∉ m) (hbefore : ¬ c :: m <:+: before) :
    afterFirst? (c :: m) (before ++ c :: m ++ rest) = some rest := by
  induction before with
  | nil => simp [afterFirst?]
  | cons b before ih =>
      have hnot : ¬ c :: m <+: b :: (before ++ (c :: m ++ rest)) :=
        not_prefix_append hc (List.cons_ne_nil b before) hbefore (.inr (List.prefix_append _ _))
      have hlater : ¬ c :: m <:+: before := fun h => hbefore (List.infix_cons h)
      rw [List.append_assoc, List.cons_append, afterFirst?, if_neg, ← List.append_assoc, ih hlater]
      simpa only [List.isPrefixOf_iff_prefix] using hnot

theorem exists_of_afterFirst?_eq_some (hmark : mark ≠ []) (h : afterFirst? mark text = some rest) :
    ∃ before, text = before ++ mark ++ rest ∧ ¬ mark <:+: before := by
  induction text with
  | nil => simp [afterFirst?, hmark] at h
  | cons t text ih =>
      rw [afterFirst?] at h
      split at h
      case isTrue hprefix =>
        obtain ⟨after, hafter⟩ := List.isPrefixOf_iff_prefix.mp hprefix
        rw [← hafter, List.drop_left] at h
        obtain rfl := Option.some.inj h
        exact ⟨[], by simpa using hafter.symm, by simpa using hmark⟩
      case isFalse hprefix =>
        obtain ⟨before, rfl, hbefore⟩ := ih h
        refine ⟨t :: before, rfl, fun hinfix => ?_⟩
        rcases List.infix_cons_iff.mp hinfix with hstarts | hinfix
        · apply hprefix
          rw [List.isPrefixOf_iff_prefix]
          exact hstarts.trans ⟨mark ++ rest, by simp⟩
        · exact hbefore hinfix

theorem beforeFirst_append (hc : c ∉ m) (hbefore : ¬ c :: m <:+: before)
    (hrest : EndsOrResumes (c :: m) rest) : beforeFirst (c :: m) (before ++ rest) = before := by
  induction before with
  | nil =>
      rcases hrest with rfl | ⟨further, rfl⟩
      · rfl
      · simp [beforeFirst]
  | cons b before ih =>
      have hnot : ¬ c :: m <+: b :: (before ++ rest) :=
        not_prefix_append hc (List.cons_ne_nil b before) hbefore hrest
      have hlater : ¬ c :: m <:+: before := fun h => hbefore (List.infix_cons h)
      rw [List.cons_append, beforeFirst, if_neg, ih hlater]
      simpa only [List.isPrefixOf_iff_prefix] using hnot

theorem exists_beforeFirst (hmark : mark ≠ []) (text : List Char) :
    ∃ rest, text = beforeFirst mark text ++ rest ∧ EndsOrResumes mark rest ∧
      ¬ mark <:+: beforeFirst mark text := by
  induction text with
  | nil => exact ⟨[], rfl, .inl rfl, by simpa [beforeFirst] using hmark⟩
  | cons t text ih =>
      rw [beforeFirst]
      split
      case isTrue hprefix =>
        exact ⟨t :: text, rfl, .inr (List.isPrefixOf_iff_prefix.mp hprefix), by simpa using hmark⟩
      case isFalse hprefix =>
        obtain ⟨rest, htext, hrest, hbefore⟩ := ih
        refine ⟨rest, by rw [List.cons_append, ← htext], hrest, fun hinfix => ?_⟩
        rcases List.infix_cons_iff.mp hinfix with hstarts | hinfix
        · apply hprefix
          rw [List.isPrefixOf_iff_prefix, htext]
          exact hstarts.trans ⟨rest, rfl⟩
        · exact hbefore hinfix

theorem pieces_of_notMem (h : separator ∉ text) : pieces separator text = [text] := by
  induction text with
  | nil => rfl
  | cons t text ih =>
      obtain ⟨ht, htext⟩ := not_or.mp (mt List.mem_cons.mpr h)
      rw [pieces, if_neg (Ne.symm ht), ih htext]

theorem pieces_append_cons (h : separator ∉ piece) :
    pieces separator (piece ++ separator :: rest) = piece :: pieces separator rest := by
  induction piece with
  | nil => rw [List.nil_append, pieces, if_pos rfl]
  | cons p piece ih =>
      obtain ⟨hp, hpiece⟩ := not_or.mp (mt List.mem_cons.mpr h)
      rw [List.cons_append, pieces, if_neg (Ne.symm hp), ih hpiece]

/-- The first piece ends with the text, or at the first separator. -/
theorem pieces_eq_cons_iff {others : List (List Char)} :
    pieces separator text = piece :: others ↔ separator ∉ piece ∧
      (text = piece ∧ others = [] ∨
        ∃ rest, text = piece ++ separator :: rest ∧ pieces separator rest = others) := by
  constructor
  · intro h
    by_cases hmem : separator ∈ text
    · obtain ⟨first, rest, rfl, hfirst⟩ := List.eq_append_cons_of_mem hmem
      rw [pieces_append_cons hfirst] at h
      obtain ⟨rfl, rfl⟩ := List.cons.inj h
      exact ⟨hfirst, .inr ⟨rest, rfl, rfl⟩⟩
    · rw [pieces_of_notMem hmem] at h
      obtain ⟨rfl, rfl⟩ := List.cons.inj h
      exact ⟨hmem, .inl ⟨rfl, rfl⟩⟩
  · rintro ⟨hpiece, ⟨rfl, rfl⟩ | ⟨rest, rfl, rfl⟩⟩
    · exact pieces_of_notMem hpiece
    · exact pieces_append_cons hpiece

end Text

end Inspection
