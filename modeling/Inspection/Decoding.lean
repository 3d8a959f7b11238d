import Inspection.Binary64.Shortest
import Inspection.Entity
import Inspection.Json.Equality
import Inspection.Text.Quoted

/-!
# Decoding values

Typed values from JSON, or the first fault on the way.  A record may be given
as an object or as the list of its fields; the fields of an object are read in
the order of their names, and missing ones are noticed after that.
-/

namespace Inspection

inductive Fault where
  | wrongKind (found : Json) (wanted : String)
  | missingField (name : String)
  | wrongLength (length : Nat) (wanted : String)
  | unknownVariant (name : String) (known : List String)
  | notOneEntry
deriving DecidableEq

namespace Fault

def kind : Json → String
  | .null => "null"
  | .bool true => "boolean `true`"
  | .bool false => "boolean `false`"
  | .int value => "integer `" ++ Decimal.ofInt value ++ "`"
  | .float value => "floating point `" ++ value.text ++ "`"
  | .str value => "string " ++ Text.quote Text.valueQuoting value
  | .arr _ => "sequence"
  | .obj _ => "map"

def marked (name : String) : String :=
  "`" ++ name ++ "`"

def message : Fault → String
  | .wrongKind found wanted => "invalid type: " ++ kind found ++ ", expected " ++ wanted
  | .missingField name => "missing field " ++ marked name
  | .wrongLength length wanted =>
    "invalid length " ++ Decimal.ofNat length ++ ", expected " ++ wanted
  | .unknownVariant name known =>
    "unknown variant " ++ marked name ++ ", expected one of "
      ++ String.intercalate ", " (known.map marked)
  | .notOneEntry => "invalid value: map, expected map with a single key"

end Fault

abbrev Decoder (α : Type) := Json → Except Fault α

namespace Decoder

def text : Decoder String
  | .str value => .ok value
  | other => .error (.wrongKind other "a string")

/-- Null stands for an absent value. -/
def optional {α : Type} (decode : Decoder α) : Decoder (Option α)
  | .null => .ok none
  | value => (decode value).map some

def list {α : Type} (decode : Decoder α) : Decoder (List α)
  | .arr items => items.mapM decode
  | other => .error (.wrongKind other "a sequence")

/-- A value by its name, or by an object whose only key is the name and whose
value is null. -/
def variant {α : Type} (all : List α) (name : α → String) : Decoder α
  | .str given => find given
  | .obj [(given, value)] =>
    match find given with
    | .error fault => .error fault
    | .ok found => if value = .null then .ok found else .error (.wrongKind value "unit")
  | .obj _ => .error .notOneEntry
  | other => .error (.wrongKind other "string or map")
where
  find (given : String) : Except Fault α :=
    match all.find? (fun value => name value == given) with
    | some found => .ok found
    | none => .error (.unknownVariant given (all.map name))

/-- A field of a record, with the value that stands in when it is missing. -/
structure Field (α : Type) where
  name : String
  decode : Decoder α
  absent : Option α

namespace Field

variable {α : Type}

/-- The value of the field in an object, when it is there. -/
def find (field : Field α) (fields : List (String × Json)) : Except Fault (Option α) :=
  match Keyed.get? field.name fields with
  | some value => (field.decode value).map some
  | none => .ok none

/-- The value that was found, or the one that stands in. -/
def settle (field : Field α) (found : Option α) : Except Fault α :=
  match found.or field.absent with
  | some value => .ok value
  | none => .error (.missingField field.name)

/-- Takes the value of the field from the front of a list. -/
def take (field : Field α) (record : String) (position : Nat) :
    List Json → Except Fault (α × List Json)
  | item :: rest => (field.decode item).map fun value => (value, rest)
  | [] =>
    match field.absent with
    | some value => .ok (value, [])
    | none => .error (.wrongLength position ("struct " ++ record ++ " with 2 elements"))

end Field

/-- A record of two fields, the first one before the other by name. -/
def record {α β : Type} (name : String) (first : Field α) (second : Field β) : Decoder (α × β)
  | .obj fields => do
    let foundFirst ← first.find fields
    let foundSecond ← second.find fields
    let one ← first.settle foundFirst
    let two ← second.settle foundSecond
    return (one, two)
  | .arr items => do
    let (one, afterFirst) ← first.take name 0 items
    let (two, afterSecond) ← second.take name 1 afterFirst
    if afterSecond.isEmpty then
      return (one, two)
    else
      .error (.wrongLength items.length "fewer elements in array")
  | other => .error (.wrongKind other ("struct " ++ name))

/-- A field that must be there and hold a text. -/
def requiredText (name : String) : Field String := ⟨name, text, none⟩

def optionalText (name : String) : Field (Option String) := ⟨name, optional text, some none⟩

end Decoder

/-- A tag as a request gives it, perhaps without its key or its value. -/
structure TagEntry where
  key : Option String
  value : Option String
deriving DecidableEq, Repr

namespace TagEntry

def decode : Decoder TagEntry := fun value =>
  (Decoder.record "TagEntry" (Decoder.optionalText "key") (Decoder.optionalText "value") value).map
    fun (key, value) => ⟨key, value⟩

/-- The tag, when key and value are both there. -/
def complete? (entry : TagEntry) : Option Tag :=
  match entry.key, entry.value with
  | some key, some value => some ⟨key, value⟩
  | _, _ => none

end TagEntry

namespace Tag

def decode : Decoder Tag := fun value =>
  (Decoder.record "ResourceGroupTag" (Decoder.requiredText "key") (Decoder.requiredText "value")
    value).map fun (key, value) => ⟨key, value⟩

end Tag

namespace Attribute

def decode : Decoder Attribute := fun value =>
  (Decoder.record "Attribute" (Decoder.requiredText "key") (Decoder.optionalText "value")
    value).map fun (key, value) => ⟨key, value⟩

end Attribute

namespace RunState

def decode : Decoder RunState := Decoder.variant all text

end RunState

namespace Severity

def decode : Decoder Severity := Decoder.variant all text

end Severity

end Inspection
