import Inspection.Decimal

/-!
# Instants

Moments on the UTC time line, counted in seconds from 1970 and nanoseconds.
The calendar holds the instants from `Instant.earliest` to `Instant.latest`.
-/

namespace Inspection

/-- A moment: whole seconds since the start of 1970, rounded down, and the
nanoseconds after them. -/
structure Instant where
  seconds : Int
  nanos : Nat
  nanos_lt : nanos < 1000000000
deriving DecidableEq, Repr

namespace Instant

def ofSeconds (seconds : Int) : Instant :=
  ⟨seconds, 0, by decide⟩

instance : Inhabited Instant := ⟨ofSeconds 0⟩

/-- The first instant of the calendar, at the start of the year -262143. -/
def earliest : Instant := ⟨-8334601228800, 0, by decide⟩

/-- The last instant of the calendar, at the end of the year 262142. -/
def latest : Instant := ⟨8210266876799, 999999999, by decide⟩

def le (s t : Instant) : Prop :=
  s.seconds < t.seconds ∨ (s.seconds = t.seconds ∧ s.nanos ≤ t.nanos)

instance : LE Instant := ⟨le⟩

instance (s t : Instant) : Decidable (s ≤ t) :=
  inferInstanceAs (Decidable (_ ∨ _))

theorem le_iff {s t : Instant} :
    s ≤ t ↔ s.seconds < t.seconds ∨ (s.seconds = t.seconds ∧ s.nanos ≤ t.nanos) :=
  Iff.rfl

theorem le_trans {s t u : Instant} (hst : s ≤ t) (htu : t ≤ u) : s ≤ u := by
  rw [le_iff] at hst htu ⊢
  omega

def InCalendar (t : Instant) : Prop :=
  earliest ≤ t ∧ t ≤ latest

instance (t : Instant) : Decidable t.InCalendar :=
  inferInstanceAs (Decidable (_ ∧ _))

/-- The longest span of time, in seconds, that can be added to an instant. -/
def longestSpan : Nat := 9223372036854775

/-- The instant some seconds later or, for a negative span, earlier. -/
def shift (t : Instant) (span : Int) : Instant :=
  { t with seconds := t.seconds + span }

theorem shift_le_shift (t : Instant) {span other : Int} (h : span ≤ other) :
    t.shift span ≤ t.shift other := by
  rw [le_iff]
  simp only [shift]
  omega

theorem le_shift (t : Instant) {span : Int} (h : 0 ≤ span) : t ≤ t.shift span := by
  rw [le_iff]
  simp only [shift]
  omega

/-- The instant some seconds later, when the span can be added and the
calendar holds the result. -/
def after? (t : Instant) (span : Int) : Option Instant :=
  if span.natAbs ≤ longestSpan ∧ (t.shift span).InCalendar then some (t.shift span) else none

theorem inCalendar_of_after?_eq_some {t u : Instant} {span : Int} (h : t.after? span = some u) :
    u.InCalendar := by
  rw [after?, Option.ite_none_right_eq_some, Option.some.injEq] at h
  obtain ⟨⟨_, hcalendar⟩, rfl⟩ := h
  exact hcalendar

/-- Where the calendar has room for a span, it has room for a shorter one. -/
theorem after?_eq_some_of_le {t : Instant} {span room : Int} (hearliest : earliest ≤ t)
    (hlatest : t.shift room ≤ latest) (hspan : 0 ≤ span) (hle : span ≤ room)
    (hroom : room ≤ longestSpan) : t.after? span = some (t.shift span) := by
  have hlong : span.natAbs ≤ longestSpan := by omega
  have hcalendar : (t.shift span).InCalendar :=
    ⟨le_trans hearliest (le_shift t hspan), le_trans (shift_le_shift t hle) hlatest⟩
  exact if_pos ⟨hlong, hcalendar⟩

structure Day where
  year : Int
  month : Nat
  day : Nat
deriving DecidableEq, Repr

/-- The day some days after the first of January 1970.  Years are taken to
begin in March and are counted in cycles of 400 years, 146097 days each. -/
def Day.ofDays (days : Int) : Day :=
  let shifted := days + 719468
  let cycle := shifted / 146097
  let dayOfCycle := (shifted % 146097).toNat
  let yearOfCycle :=
    (dayOfCycle - dayOfCycle / 1460 + dayOfCycle / 36524 - dayOfCycle / 146096) / 365
  let dayOfYear := dayOfCycle - (365 * yearOfCycle + yearOfCycle / 4 - yearOfCycle / 100)
  let monthFromMarch := (5 * dayOfYear + 2) / 153
  let month := if monthFromMarch < 10 then monthFromMarch + 3 else monthFromMarch - 9
  { year := yearOfCycle + cycle * 400 + (if month ≤ 2 then 1 else 0)
    month := month
    day := dayOfYear - (153 * monthFromMarch + 2) / 5 + 1 }

/-- The text of a year: four digits, with a sign outside 0 to 9999. -/
def yearText (year : Int) : List Char :=
  let digits := Decimal.padded 4 year.natAbs
  if year < 0 then '-' :: digits
  else if 9999 < year then '+' :: digits
  else digits

/-- The date and time of an instant to the second, as `2024-01-31T23:59:59`. -/
def text (t : Instant) : String :=
  let day := Day.ofDays (t.seconds / 86400)
  let second := (t.seconds % 86400).toNat
  String.ofList <|
    yearText day.year ++ '-' :: Decimal.padded 2 day.month ++ '-' :: Decimal.padded 2 day.day
      ++ 'T' :: Decimal.padded 2 (second / 3600) ++ ':' :: Decimal.padded 2 (second / 60 % 60)
      ++ ':' :: Decimal.padded 2 (second % 60)

end Instant

end Inspection
