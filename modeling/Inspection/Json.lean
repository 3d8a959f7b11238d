import Inspection.Keyed
import Inspection.Binary64

/-!
# JSON values

The values that requests and answers are made of.  Integers and floating-point
numbers are told apart, as they are in JSON text.  The fields of an object that
was read ascend by key; in an object that is built here their order has no
meaning.
-/

namespace Inspection

inductive Json where
  | null
  | bool (value : Bool)
  | int (value : Int)
  | float (value : Binary64)
  | str (value : String)
  | arr (items : List Json)
  | obj (fields : List (String × Json))
deriving Inhabited

namespace Json

/-- The value of a field; only objects have fields. -/
def field? (value : Json) (key : String) : Option Json :=
  match value with
  | .obj fields => Keyed.get? key fields
  | _ => none

/-- The value of a field that is there and not null. -/
def given? (value : Json) (key : String) : Option Json :=
  match value.field? key with
  | some .null => none
  | found => found

def text? : Json → Option String
  | .str value => some value
  | _ => none

/-- The value of an integer literal between `-2^63` and `2^63 - 1`. -/
def signed? : Json → Option Int
  | .int value =>
    if -9223372036854775808 ≤ value ∧ value ≤ 9223372036854775807 then some value else none
  | _ => none

/-- The value of an integer literal between `0` and `2^64 - 1`. -/
def unsigned? : Json → Option Nat
  | .int value =>
    if 0 ≤ value ∧ value ≤ 18446744073709551615 then some value.toNat else none
  | _ => none

/-- The value of any number, as a binary64 number. -/
def number? : Json → Option Binary64
  | .int value => some (Binary64.ofInt value)
  | .float value => some value
  | _ => none

def texts (values : List String) : Json :=
  .arr (values.map .str)

def optionalText : Option String → Json
  | some value => .str value
  | none => .null

end Json

end Inspection
