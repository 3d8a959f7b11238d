import Inspection.Startup

/-!
# The program

The command line program around `Startup.start`: it reads the settings file
and the environment, opens the log, and writes the records and the error.  It
has no listener of its own, so every address counts as one that cannot be
bound.
-/

namespace Inspection

namespace Program

def variableNames : List String :=
  ["AWS_DEFAULT_REGION", "AWS_REGION", "INSPECTOR_MOCK_ACCOUNT_ID", "RUST_LOG"]

def readEnvironment : IO Environment := do
  let mut found : Environment := []
  for name in variableNames do
    if let some value ← IO.getEnv name then
      found := found ++ [(name, value)]
  return found

/-- The content of the settings file, if there is one. -/
def readSettingsFile : IO (Option ByteArray) := do
  let base ← match ← IO.getEnv "XDG_CONFIG_HOME" with
    | some path => pure (some path)
    | none => pure ((← IO.getEnv "HOME").map fun home => home ++ "/.config")
  match base with
  | none => return none
  | some path =>
    try
      let content ← IO.FS.readBinFile (path ++ "/inspector-mock/config.json")
      return some content
    catch _ => return none

def openLog (path : String) : IO Startup.LogOpening := do
  let directory := Startup.Path.directory path
  let made ← try
      if !directory.isEmpty then IO.FS.createDirAll directory
      pure true
    catch _ => pure false
  if made then
    try
      let handle ← IO.FS.Handle.mk path .append
      handle.flush
      return .opened
    catch _ => return .fileFailed
  else
    return .directoryFailed directory

/-- Writes the records of a log, one a line. -/
def writeLog (log : Startup.Log) : IO Unit := do
  let lines := log.records.map fun record =>
    record.level.label ++ " " ++ record.target ++ ": " ++ record.message
  match log.file with
  | none => lines.forM fun line => IO.println line
  | some path =>
    if !lines.isEmpty then
      let handle ← IO.FS.Handle.mk path .append
      lines.forM fun line => handle.putStrLn line

/-- A run of the program, and its exit code. -/
def run (words : List String) : IO UInt32 := do
  let opening ← match CommandLine.read words with
    | .run arguments =>
      match arguments.logFile with
      | some path => openLog path
      | none => pure Startup.LogOpening.opened
    | _ => pure Startup.LogOpening.opened
  let machine : Startup.Machine := ⟨fun _ _ => false, fun _ => opening⟩
  match Startup.start machine words (← readEnvironment) (← readSettingsFile) with
  | .help =>
    IO.println Startup.helpText
    return 0
  | .version =>
    IO.println Startup.versionText
    return 0
  | .refused =>
    IO.eprintln "error: the command line is not understood"
    return 2
  | .failed log error =>
    writeLog log
    IO.eprintln error
    return 1
  | .serving log =>
    writeLog log
    return 0

end Program

end Inspection

def main (words : List String) : IO UInt32 :=
  Inspection.Program.run words
