import Inspection.Settings

/-!
# The command line

Options with a value, by their long name or for some by a letter, and the two
options that only ask for information.  The words are taken from left to right,
and the first one that asks for information or is wrong decides.
-/

namespace Inspection

namespace CommandLine

inductive Setting where
  | host
  | port
  | region
  | logLevel
  | logFile
deriving DecidableEq, Repr

inductive Switch where
  | setting (setting : Setting)
  | help
  | version
deriving DecidableEq, Repr

inductive Outcome where
  | run (arguments : Arguments)
  | help
  | version
  | refused
deriving DecidableEq, Repr

/-- The words read so far: the settings, one that still waits for its value,
and whether only operands may follow. -/
structure Reading where
  arguments : Arguments
  pending : Option Setting
  operandsOnly : Bool

def ofLongName? : String → Option Switch
  | "host" => some (.setting .host)
  | "port" => some (.setting .port)
  | "region" => some (.setting .region)
  | "log-level" => some (.setting .logLevel)
  | "log-file" => some (.setting .logFile)
  | "help" => some .help
  | "version" => some .version
  | _ => none

def ofLetter? : Char → Option Switch
  | 'p' => some (.setting .port)
  | 'r' => some (.setting .region)
  | 'h' => some .help
  | 'V' => some .version
  | _ => none

def port? (value : String) : Option Nat :=
  match Decimal.signed? value.toList with
  | some n => if 0 ≤ n ∧ n < 65536 then some n.toNat else none
  | none => none

/-- Gives a value to a setting, which must not have one yet. -/
def assign? (arguments : Arguments) (setting : Setting) (value : String) : Option Arguments :=
  match setting with
  | .host => if arguments.host.isSome then none else some { arguments with host := value }
  | .port =>
    if arguments.port.isSome then none
    else (port? value).map fun port => { arguments with port := port }
  | .region => if arguments.region.isSome then none else some { arguments with region := value }
  | .logLevel =>
    if arguments.logLevel.isSome then none
    else (LogLevel.ofName? value).map fun level => { arguments with logLevel := level }
  | .logFile =>
    if arguments.logFile.isSome || value.isEmpty then none
    else some { arguments with logFile := value }

def settle (reading : Reading) (setting : Setting) (value : String) : Except Outcome Reading :=
  match assign? reading.arguments setting value with
  | some arguments => .ok { reading with arguments := arguments, pending := none }
  | none => .error .refused

/-- Takes an option by its long name, perhaps with a value after an equals
sign. -/
def takeLong (reading : Reading) (word : List Char) : Except Outcome Reading :=
  let name := word.takeWhile (· != '=')
  match ofLongName? (String.ofList name), word.drop name.length with
  | some (.setting setting), [] => .ok { reading with pending := setting }
  | some (.setting setting), _ :: value => settle reading setting (String.ofList value)
  | some .help, [] => .error .help
  | some .version, [] => .error .version
  | _, _ => .error .refused

/-- Takes the first of some letters; a setting takes those after it as its
value, with or without an equals sign. -/
def takeLetters (reading : Reading) : List Char → Except Outcome Reading
  | [] => .error .refused
  | letter :: rest =>
    match ofLetter? letter with
    | some .help => .error .help
    | some .version => .error .version
    | some (.setting setting) =>
      match rest with
      | [] => .ok { reading with pending := setting }
      | '=' :: value => settle reading setting (String.ofList value)
      | value => settle reading setting (String.ofList value)
    | none => .error .refused

def take (reading : Reading) (word : String) : Except Outcome Reading :=
  if reading.operandsOnly then .error .refused
  else
    match reading.pending, word.toList with
    | _, ['-', '-'] => .ok { reading with operandsOnly := true }
    | none, '-' :: '-' :: name => takeLong reading name
    | none, '-' :: letter :: rest => takeLetters reading (letter :: rest)
    | none, _ => .error .refused
    | some _, '-' :: _ :: _ => .error .refused
    | some setting, _ => settle reading setting word

/-- Reads a command line; no setting may be left without its value. -/
def read (words : List String) : Outcome :=
  match words.foldlM take ⟨.unset, none, false⟩ with
  | .error outcome => outcome
  | .ok reading =>
    match reading.pending with
    | none => .run reading.arguments
    | some _ => .refused

end CommandLine

end Inspection
