/-!
# Searching and cutting text

Occurrences of one text in another, the parts of a text around the first
occurrence of a mark, and the pieces between separators.
-/

namespace Inspection

namespace Text

/-- Whether a pattern occurs in a text as a contiguous part. -/
def occursIn (pattern : List Char) : List Char → Bool
  | [] => pattern.isEmpty
  | c :: rest => pattern.isPrefixOf (c :: rest) || occursIn pattern rest

def contains (text pattern : String) : Bool :=
  occursIn pattern.toList text.toList

def afterFirst? (mark : List Char) : List Char → Option (List Char)
  | [] => if mark.isEmpty then some [] else none
  | c :: rest =>
    if mark.isPrefixOf (c :: rest) then some ((c :: rest).drop mark.length)
    else afterFirst? mark rest

/-- What precedes the first occurrence of a mark; all of a text without it. -/
def beforeFirst (mark : List Char) : List Char → List Char
  | [] => []
  | c :: rest => if mark.isPrefixOf (c :: rest) then [] else c :: beforeFirst mark rest

/-- The pieces of a text between occurrences of a separator, of which there is
always at least one. -/
def pieces (separator : Char) : List Char → List (List Char)
  | [] => [[]]
  | c :: rest =>
    if c = separator then [] :: pieces separator rest
    else
      match pieces separator rest with
      | [] => [[c]]
      | piece :: others => (c :: piece) :: others

/-- What follows an opening that a text starts with. -/
def afterOpening? : List Char → List Char → Option (List Char)
  | [], text => some text
  | _ :: _, [] => none
  | o :: opening, c :: text => if o = c then afterOpening? opening text else none

theorem occursIn_eq_true_iff (pattern text : List Char) :
    occursIn pattern text = true ↔ pattern <:+: text := by
  induction text with
  | nil => cases pattern <;> simp [occursIn]
  | cons c rest ih =>
    simp only [occursIn, Bool.or_eq_true, List.isPrefixOf_iff_prefix, ih]
    exact List.infix_cons_iff.symm

theorem afterOpening?_eq_some_iff {opening text rest : List Char} :
    afterOpening? opening text = some rest ↔ text = opening ++ rest := by
  induction opening generalizing text with
  | nil => simp [afterOpening?]
  | cons o opening ih =>
    cases text with
    | nil => simp [afterOpening?]
    | cons c text =>
      by_cases h : o = c
      · simp [afterOpening?, h, ih]
      · simp [afterOpening?, h, Ne.symm h]

end Text

end Inspection
