import Inspection.Instant
import Inspection.Json

/-!
# Shapes of filter parameters

What the parameter of a filter key may look like, and the typed value that is
read from it.  A range is an object with its two bounds, other fields ignored,
or the list of the two bounds.
-/

namespace Inspection

structure DurationRange where
  least : Int
  most : Int
deriving DecidableEq, Repr

/-- An inclusive range of moments, in seconds since 1970. -/
structure TimeRange where
  first : Binary64
  last : Binary64
deriving DecidableEq, Repr

inductive Shape where
  | text
  | textList
  | durationRange
  | timeRange
deriving DecidableEq, Repr

namespace DurationRange

/-- The bounds are integer literals of 64 bits. -/
def read? : Json → Option DurationRange
  | .obj fields => do
    let least ← (← Keyed.get? "minSeconds" fields).signed?
    let most ← (← Keyed.get? "maxSeconds" fields).signed?
    return ⟨least, most⟩
  | .arr [least, most] => do return ⟨← least.signed?, ← most.signed?⟩
  | _ => none

def holds (range : DurationRange) (duration : Int) : Bool :=
  range.least ≤ duration && duration ≤ range.most

end DurationRange

namespace TimeRange

/-- The bounds are numbers of any kind. -/
def read? : Json → Option TimeRange
  | .obj fields => do
    let first ← (← Keyed.get? "beginDate" fields).number?
    let last ← (← Keyed.get? "endDate" fields).number?
    return ⟨first, last⟩
  | .arr [first, last] => do return ⟨← first.number?, ← last.number?⟩
  | _ => none

/-- Whether the second of an instant lies in the range. -/
def holds (range : TimeRange) (t : Instant) : Bool :=
  range.first.le (Binary64.ofInt t.seconds) && (Binary64.ofInt t.seconds).le range.last

end TimeRange

namespace Shape

/-- The typed parameters of a shape. -/
@[reducible]
def Value : Shape → Type
  | text => String
  | textList => List String
  | durationRange => DurationRange
  | timeRange => TimeRange

/-- A list that holds texts only. -/
def texts? : Json → Option (List String)
  | .arr items => items.mapM Json.text?
  | _ => none

/-- The typed parameter, when a value has the shape. -/
def read? : (shape : Shape) → Json → Option shape.Value
  | text, value => value.text?
  | textList, value => texts? value
  | durationRange, value => DurationRange.read? value
  | timeRange, value => TimeRange.read? value

def description : Shape → String
  | text => "a string"
  | textList => "a list of strings"
  | durationRange => "an object with integer minSeconds and maxSeconds"
  | timeRange => "an object with numeric beginDate and endDate"

end Shape

end Inspection
