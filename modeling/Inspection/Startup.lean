import Inspection.CommandLine
import Inspection.Logging.Directive
import Inspection.Registry
import Inspection.Startup.Machine
import Inspection.Text.Quoted

/-!
# Starting the server

What a start of the server writes, from the command line, the settings file,
the environment and the machine: the log records it keeps, and the error that
ends it when the log cannot be opened or the address cannot be bound.
-/

namespace Inspection

namespace Startup

/-- The records that are kept, and the file they go to unless it is the
standard output. -/
structure Log where
  file : Option String
  records : List LogRecord
deriving DecidableEq, Repr

inductive Outcome where
  | help
  | version
  | refused
  | failed (log : Log) (error : String)
  | serving (log : Log)
deriving DecidableEq, Repr

def versionText : String := "inspector-mock 0.1.0"

def helpText : String := "In-memory mock of the Amazon Inspector API"

/-- The version of the build, as it is logged. -/
def buildVersion : String := "dev"

def mainTarget : String := "inspector_mock"

def registryTarget : String := "inspector_mock::service::regions"

/-- Paths in messages have their apostrophes escaped. -/
def pathQuoting : Text.Quoting := ⟨true⟩

def quotedPath (path : String) : String :=
  Text.quote pathQuoting path

/-- The directives in effect: those of the environment, unless they are unset
or one of them is wrong, and else the log level. -/
def directives (environment : Environment) (level : LogLevel) : List Directive :=
  ((Keyed.get? "RUST_LOG" environment).bind Directive.ofText?).getD [⟨none, none, level⟩]

/-- The records of a start, in order, before any is left out or written. -/
def records (level : LogLevel) (logFile : Option String) (fault : Option SettingsError)
    (effective : Effective) : List LogRecord :=
  let registry := Registry.build effective.regions effective.defaultRegion effective.account
  [⟨.info, mainTarget,
      "inspector-mock " ++ buildVersion ++ " started with log level: " ++ level.title⟩]
    ++ logFile.toList.map (fun path => ⟨.info, mainTarget, "Log file: " ++ quotedPath path⟩)
    ++ fault.toList.map (fun _ => ⟨.warn, mainTarget, "Ignoring config file, using defaults:"⟩)
    ++ [⟨.info, mainTarget,
        "Using account: " ++ effective.account ++ ", default region: "
          ++ effective.defaultRegion⟩,
      ⟨.info, registryTarget,
        "Region registry ready: " ++ Decimal.ofNat registry.regions.length
          ++ " regions, default " ++ registry.defaultRegion⟩]

/-- The error of a log that cannot be opened. -/
def logError? (machine : Machine) (path : String) : Option String :=
  match machine.openLog path with
  | .opened => none
  | .directoryFailed directory =>
    some ("Error: Failed to create log directory " ++ quotedPath directory)
  | .fileFailed => some ("Error: Failed to open log file " ++ quotedPath path)

def launch (machine : Machine) (arguments : Arguments) (environment : Environment)
    (file : Option ByteArray) : Outcome :=
  let loaded := Settings.load file
  let settings := match loaded with
    | .ok settings => settings
    | .error _ => Settings.unset
  let fault := match loaded with
    | .ok _ => none
    | .error fault => some fault
  let level := settings.effectiveLevel arguments
  match arguments.logFile.bind (logError? machine) with
  | some error => .failed ⟨none, []⟩ error
  | none =>
    let effective := settings.effective arguments environment
    let kept := (records level arguments.logFile fault effective).filter
      (Directive.keep (directives environment level))
    let log : Log := ⟨arguments.logFile, kept.map LogRecord.shown⟩
    if machine.canBind effective.host effective.port then
      .serving log
    else
      .failed log
        ("Error: Failed to bind " ++ effective.host ++ ":" ++ Decimal.ofNat effective.port)

def start (machine : Machine) (words : List String) (environment : Environment)
    (file : Option ByteArray) : Outcome :=
  match CommandLine.read words with
  | .help => .help
  | .version => .version
  | .refused => .refused
  | .run arguments => launch machine arguments environment file

end Startup

end Inspection
