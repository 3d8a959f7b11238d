import Inspection.Filter.Shape
import Inspection.Proofs.Binary64

/-!
# The grammar of filter parameters

Which JSON values are parameters of a shape, said without the readers: a text,
a list of texts, or a range that is an object with its two bounds or the list
of them.  The bounds of durations are integer literals of 64 bits and those of
times are numbers of any kind, taken at their exact value.  Reading succeeds
exactly on these values.
-/

namespace Inspection

namespace Json

def IsSigned (value : Json) (n : Int) : Prop :=
  value = .int n ∧ -2 ^ 63 ≤ n ∧ n < 2 ^ 63

theorem signed?_eq_some_iff {value : Json} {n : Int} :
    value.signed? = some n ↔ value.IsSigned n := by
  cases value with
  | int m =>
      rw [signed?, Option.ite_none_right_eq_some, IsSigned, Json.int.injEq, Option.some.injEq]
      constructor
      · rintro ⟨hrange, rfl⟩
        exact ⟨rfl, by omega⟩
      · rintro ⟨rfl, hrange⟩
        exact ⟨by omega, rfl⟩
  | null | bool | float | str | arr | obj => simp [signed?, IsSigned]

theorem text?_eq_some_iff {value : Json} {text : String} :
    value.text? = some text ↔ value = .str text := by
  cases value <;> simp [text?]

theorem texts_injective : Function.Injective texts := by
  intro values others h
  have hstr : ∀ x y, Json.str x = Json.str y → x = y := fun _ _ heq => Json.str.inj heq
  exact (List.map_inj_right hstr).mp (Json.arr.inj h)

/-- The two bounds of a range: fields of an object, other fields ignored, or
the items of a list. -/
inductive GivesBounds (first last : String) : Json → Json → Json → Prop
  | fields {entries : List (String × Json)} {a b : Json}
      (hfirst : Keyed.get? first entries = some a) (hlast : Keyed.get? last entries = some b) :
      GivesBounds first last (.obj entries) a b
  | items (a b : Json) : GivesBounds first last (.arr [a, b]) a b

end Json

namespace DurationRange

/-- The durations between which a parameter asks for. -/
def Gives (parameter : Json) (least most : Int) : Prop :=
  ∃ a b, parameter.GivesBounds "minSeconds" "maxSeconds" a b ∧ a.IsSigned least ∧ b.IsSigned most

theorem read?_eq_some_iff {parameter : Json} {range : DurationRange} :
    read? parameter = some range ↔ Gives parameter range.least range.most := by
  constructor
  · intro h
    match parameter, h with
    | .obj fields, h =>
        simp only [read?, Option.bind_eq_bind, Option.bind_eq_some_iff, Option.pure_def,
          Option.some.injEq] at h
        obtain ⟨a, ha, least, hleast, b, hb, most, hmost, rfl⟩ := h
        exact ⟨a, b, .fields ha hb, Json.signed?_eq_some_iff.mp hleast,
          Json.signed?_eq_some_iff.mp hmost⟩
    | .arr [a, b], h =>
        simp only [read?, Option.bind_eq_bind, Option.bind_eq_some_iff, Option.pure_def,
          Option.some.injEq] at h
        obtain ⟨least, hleast, most, hmost, rfl⟩ := h
        exact ⟨a, b, .items a b, Json.signed?_eq_some_iff.mp hleast,
          Json.signed?_eq_some_iff.mp hmost⟩
  · rintro ⟨a, b, hbounds, hleast, hmost⟩
    rw [← Json.signed?_eq_some_iff] at hleast hmost
    cases hbounds with
    | fields hfirst hlast => simp [read?, hfirst, hlast, hleast, hmost]
    | items => simp [read?, hleast, hmost]

end DurationRange

namespace TimeRange

/-- The moments between which a parameter asks for, in exact seconds. -/
def Gives (parameter : Json) (first last : ℚ) : Prop :=
  ∃ a b, parameter.GivesBounds "beginDate" "endDate" a b ∧ a.value? = some first ∧
    b.value? = some last

theorem read?_eq_some_iff {parameter : Json} {range : TimeRange} :
    read? parameter = some range ↔ ∃ a b, parameter.GivesBounds "beginDate" "endDate" a b ∧
      a.number? = some range.first ∧ b.number? = some range.last := by
  constructor
  · intro h
    match parameter, h with
    | .obj fields, h =>
        simp only [read?, Option.bind_eq_bind, Option.bind_eq_some_iff, Option.pure_def,
          Option.some.injEq] at h
        obtain ⟨a, ha, first, hfirst, b, hb, last, hlast, rfl⟩ := h
        exact ⟨a, b, .fields ha hb, hfirst, hlast⟩
    | .arr [a, b], h =>
        simp only [read?, Option.bind_eq_bind, Option.bind_eq_some_iff, Option.pure_def,
          Option.some.injEq] at h
        obtain ⟨first, hfirst, last, hlast, rfl⟩ := h
        exact ⟨a, b, .items a b, hfirst, hlast⟩
  · rintro ⟨a, b, hbounds, hfirst, hlast⟩
    cases hbounds with
    | fields ha hb => simp [read?, ha, hb, hfirst, hlast]
    | items => simp [read?, hfirst, hlast]

/-- A time range holds of an instant of the calendar exactly when the second
of the instant lies between the exact values of the bounds. -/
theorem exists_read?_holds_iff {parameter : Json} {t : Instant} (ht : t.InCalendar) :
    (∃ range, read? parameter = some range ∧ range.holds t = true) ↔
      ∃ first last, Gives parameter first last ∧ first ≤ t.seconds ∧ t.seconds ≤ last := by
  have hsmall := ht.natAbs_seconds_lt
  constructor
  · rintro ⟨range, hread, hholds⟩
    obtain ⟨a, b, hbounds, ha, hb⟩ := read?_eq_some_iff.mp hread
    obtain ⟨first, hfirst⟩ := a.exists_value?_iff_exists_number?.mpr ⟨_, ha⟩
    obtain ⟨last, hlast⟩ := b.exists_value?_iff_exists_number?.mpr ⟨_, hb⟩
    rw [holds, Bool.and_eq_true, (Json.number?_compares hsmall hfirst ha).1,
      (Json.number?_compares hsmall hlast hb).2] at hholds
    exact ⟨first, last, ⟨a, b, hbounds, hfirst, hlast⟩, hholds⟩
  · rintro ⟨first, last, ⟨a, b, hbounds, hfirst, hlast⟩, hholds⟩
    obtain ⟨x, ha⟩ := a.exists_value?_iff_exists_number?.mp ⟨_, hfirst⟩
    obtain ⟨y, hb⟩ := b.exists_value?_iff_exists_number?.mp ⟨_, hlast⟩
    refine ⟨⟨x, y⟩, read?_eq_some_iff.mpr ⟨a, b, hbounds, ha, hb⟩, ?_⟩
    rw [holds, Bool.and_eq_true, (Json.number?_compares hsmall hfirst ha).1,
      (Json.number?_compares hsmall hlast hb).2]
    exact hholds

end TimeRange

namespace Shape

theorem texts?_eq_some_iff {parameter : Json} {listed : List String} :
    texts? parameter = some listed ↔ parameter = .texts listed := by
  cases parameter with
  | arr items =>
      rw [texts?, Json.texts, Json.arr.injEq]
      induction items generalizing listed with
      | nil => cases listed <;> simp
      | cons item rest ih =>
          rw [List.mapM_cons]
          cases listed <;>
            simp [Option.bind_eq_some_iff, Json.text?_eq_some_iff, ih]
  | null | bool | int | float | str | obj => simp [texts?, Json.texts]

def Admits : Shape → Json → Prop
  | text, parameter => ∃ pattern, parameter = .str pattern
  | textList, parameter => ∃ listed, parameter = .texts listed
  | durationRange, parameter => ∃ least most, DurationRange.Gives parameter least most
  | timeRange, parameter => ∃ first last, TimeRange.Gives parameter first last

theorem exists_read?_iff_admits (shape : Shape) (parameter : Json) :
    (∃ value, shape.read? parameter = some value) ↔ shape.Admits parameter := by
  cases shape with
  | text => simp only [read?, Json.text?_eq_some_iff, Admits]
  | textList => simp only [read?, texts?_eq_some_iff, Admits]
  | durationRange =>
      simp only [read?, DurationRange.read?_eq_some_iff, Admits]
      constructor
      · rintro ⟨range, h⟩
        exact ⟨range.least, range.most, h⟩
      · rintro ⟨least, most, h⟩
        exact ⟨⟨least, most⟩, h⟩
  | timeRange =>
      simp only [read?, TimeRange.read?_eq_some_iff, Admits, TimeRange.Gives]
      constructor
      · rintro ⟨range, a, b, hbounds, ha, hb⟩
        obtain ⟨first, hfirst⟩ := a.exists_value?_iff_exists_number?.mpr ⟨_, ha⟩
        obtain ⟨last, hlast⟩ := b.exists_value?_iff_exists_number?.mpr ⟨_, hb⟩
        exact ⟨first, last, a, b, hbounds, hfirst, hlast⟩
      · rintro ⟨first, last, a, b, hbounds, hfirst, hlast⟩
        obtain ⟨x, ha⟩ := a.exists_value?_iff_exists_number?.mp ⟨_, hfirst⟩
        obtain ⟨y, hb⟩ := b.exists_value?_iff_exists_number?.mp ⟨_, hlast⟩
        exact ⟨⟨x, y⟩, a, b, hbounds, ha, hb⟩

end Shape

end Inspection
