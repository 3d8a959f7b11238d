import Inspection.Catalog
import Inspection.Json.Reader
import Inspection.Logging

/-!
# Settings

The optional settings file and the values in effect.  A setting of the command
line comes before one of the file, and that before the environment and the
built-in default.  Fields that the file has beyond the known ones are ignored,
whatever they hold.
-/

namespace Inspection

/-- The settings of a file; none of them has to be there. -/
structure Settings where
  host : Option String
  port : Option Nat
  defaultRegion : Option String
  regions : Option (List String)
  account : Option String
  logLevel : Option String
deriving DecidableEq, Repr

inductive SettingsError where
  | unreadable
  | invalid
deriving DecidableEq, Repr

abbrev Environment := List (String × String)

structure Arguments where
  host : Option String
  port : Option Nat
  region : Option String
  logLevel : Option LogLevel
  logFile : Option String
deriving DecidableEq, Repr

structure Effective where
  host : String
  port : Nat
  defaultRegion : String
  regions : List String
  account : String
deriving DecidableEq, Repr

namespace SettingsError

def message : SettingsError → String
  | unreadable => "Failed to read config"
  | invalid => "Invalid config"

end SettingsError

namespace Environment

/-- The value of a variable; an empty one counts as unset. -/
def get? (environment : Environment) (name : String) : Option String :=
  (Keyed.get? name environment).filter fun value => !value.isEmpty

end Environment

namespace Arguments

def unset : Arguments := ⟨none, none, none, none, none⟩

end Arguments

namespace Settings

open Json

def unset : Settings := ⟨none, none, none, none, none, none⟩

def text? : Tree → Option (Option String)
  | .null => some none
  | .text pieces => (Piece.text? pieces).map some
  | _ => none

def port? : Tree → Option (Option Nat)
  | .null => some none
  | .numeral numeral =>
    match numeral.toNumber? with
    | some (.int n) => if 0 ≤ n ∧ n < 65536 then some (some n.toNat) else none
    | _ => none
  | _ => none

def element? : Tree → Option String
  | .text pieces => Piece.text? pieces
  | _ => none

/-- A setting that is a list of texts or null. -/
def texts? : Tree → Option (Option (List String))
  | .null => some none
  | .list items => (items.mapM element?).map some
  | _ => none

/-- The value of a known field, which may be missing but not repeated. -/
def field? (fields : List (String × Tree)) (name : String) : Option Tree :=
  match fields.filter fun field => field.1 == name with
  | [] => some .null
  | [(_, value)] => some value
  | _ => none

/-- The settings from the values of the fields in order. -/
def ofValues? (host port defaultRegion regions account logLevel : Tree) : Option Settings := do
  return {
    host := ← text? host
    port := ← port? port
    defaultRegion := ← text? defaultRegion
    regions := ← texts? regions
    account := ← text? account
    logLevel := ← text? logLevel }

/-- The settings of a syntax tree: an object, or the list of its fields. -/
def ofTree? : Tree → Option Settings
  | .record fields => do
    let named ← fields.mapM fun (key, value) => (Piece.text? key).map fun key => (key, value)
    ofValues? (← field? named "host") (← field? named "port") (← field? named "default_region")
      (← field? named "regions") (← field? named "account_id") (← field? named "log_level")
  | .list items =>
    if items.length ≤ 6 then
      let item := fun i => (items[i]?).getD .null
      ofValues? (item 0) (item 1) (item 2) (item 3) (item 4) (item 5)
    else none
  | _ => none

def load : Option ByteArray → Except SettingsError Settings
  | none => .ok unset
  | some content =>
    match String.fromUTF8? content with
    | none => .error .unreadable
    | some text =>
      match (Tree.ofText? text).bind ofTree? with
      | none => .error .invalid
      | some settings => .ok settings

def defaults : Effective where
  host := "127.0.0.1"
  port := 5000
  defaultRegion := "us-east-1"
  regions := Catalog.regions
  account := "123456789012"

/-- The regions of a file; an empty list counts as unset. -/
def listedRegions (settings : Settings) : Option (List String) :=
  settings.regions.filter fun regions => !regions.isEmpty

def effective (settings : Settings) (arguments : Arguments) (environment : Environment) :
    Effective where
  host := (arguments.host.or settings.host).getD defaults.host
  port := (arguments.port.or settings.port).getD defaults.port
  defaultRegion :=
    (((arguments.region.or settings.defaultRegion).or
      (environment.get? "AWS_DEFAULT_REGION")).or (environment.get? "AWS_REGION")).getD
        defaults.defaultRegion
  regions := settings.listedRegions.getD defaults.regions
  account := (settings.account.or (environment.get? "INSPECTOR_MOCK_ACCOUNT_ID")).getD
    defaults.account

/-- The log level in effect: that of the command line, or that of the file, in
any case, or the level of information. -/
def effectiveLevel (settings : Settings) (arguments : Arguments) : LogLevel :=
  (arguments.logLevel.or (settings.logLevel.bind LogLevel.ofAnyCase?)).getD .info

end Settings

end Inspection
