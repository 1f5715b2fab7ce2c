import Groundplan.CommandLine.Run

/-!
# The program

The files that the arguments name are copied from the disk into a file system, the command runs on it,
and what the command wrote goes back to the disk.
-/

namespace Groundplan.Program

/-! ### Copying from the disk -/

/-- The path of a location on the disk. -/
def diskPath (names : List String) : String := "/" ++ "/".intercalate names

/-- The locations that segments pass from some location on, the last one included. -/
def passed (names : List String) : List String → List (List String)
  | [] => [names]
  | segment :: segments =>
    if segment = "" ∨ segment = "." then passed names segments
    else
      names ::
        passed (if segment = ".." then names.dropLast else names ++ [segment]) segments

/-- The locations that a path passes. -/
def locations (fs : FileSystem) (path : String) : List (List String) :=
  passed (fs.startOf path) (Path.segments path)

/-- What is at a location. -/
def kindAt? (names : List String) : IO (Option IO.FS.FileType) := do
  let path := (← IO.currentDir) / diskPath names
  try return some (← path.metadata).type catch _ => return none

/-- Copies a file or marks a directory; a file that cannot be read is copied without its content. -/
def copyOne (fs : FileSystem) (names : List String) : IO FileSystem := do
  match ← kindAt? names with
  | some .dir => return fs.withDirectory names
  | some .file =>
    let content ← try IO.FS.readBinFile (diskPath names) catch _ => pure ByteArray.empty
    return fs.withFile names content.toList
  | _ => return fs

/-- Copies what is at a location and at most `depth` levels below, but nothing that a discovery passes
over. -/
def copyAll (depth : Nat) (fs : FileSystem) (names : List String) : IO FileSystem := do
  let fs ← copyOne fs names
  match depth, ← kindAt? names with
  | depth + 1, some .dir =>
    let mut fs := fs
    for entry in ← ((← IO.currentDir) / diskPath names).readDir do
      unless Discovery.isSkippedName entry.fileName do
        fs ← copyAll depth fs (names ++ [entry.fileName])
    return fs
  | _, _ => return fs

/-- More levels than a path of the disk can have. -/
def maxLevels : Nat := 4096

/-- Copies what a command line reads or writes. -/
def copyFor (c : CommandLine) (fs : FileSystem) : IO FileSystem := do
  let mut fs := fs
  for path in c.settingsPaths ++ c.writtenPaths ++ c.documentPaths do
    for names in locations fs path do
      fs ← copyOne fs names
  for path in c.documentPaths do
    if let .ok names := fs.locate path then
      fs ← copyAll maxLevels fs names
  return fs

/-! ### Surroundings -/

/-- The variables of some names that are set. -/
def environment (names : List String) : IO Environment :=
  names.filterMapM fun name => do
    return (← IO.getEnv name).map (name, ·)

/-- The variables that hold for every command line. -/
def fixedVariables : List String :=
  [CommandLine.configVariable, "CLICOLOR_FORCE", "NO_COLOR", "CLICOLOR"]

/-- The variables that the settings of a command line name. -/
def settingsVariables (c : CommandLine) (fs : FileSystem) : List String :=
  c.settingsPaths.flatMap fun path =>
    match fs.readText path with
    | .ok text => Expansion.names text
    | .error _ => []

/-! ### Running -/

/-- Writes to the disk what a command wrote. -/
def writeBack (c : CommandLine) (before after : FileSystem) : IO Unit := do
  for path in c.writtenPaths do
    match before.readText path, after.readText path with
    | .ok old, .ok new => if old != new then IO.FS.writeFile path new
    | .error _, .ok new => IO.FS.writeFile path new
    | _, .error _ => pure ()

/-- Prints an outcome. -/
def print (o : Outcome) : IO Unit := do
  IO.print o.output
  IO.eprint o.errors

/-- Runs a command line in the working directory. -/
def runHere (c : CommandLine) (env : Environment) : IO Outcome := do
  let working := (Path.segments (toString (← IO.currentDir))).filter (· != "")
  let files ← copyFor c (FileSystem.empty working)
  let named ← environment (settingsVariables c files)
  -- the width of a terminal is not known here, so that tables are laid out as elsewhere
  let terminal := if ← (← IO.getStdout).isTty then some Table.text else none
  let outcome := c.run { env := env ++ named, terminal, files }
  writeBack c files outcome.files
  return outcome

end Groundplan.Program

open Groundplan in
/-- Runs the arguments of the program. -/
def main (arguments : List String) : IO UInt32 := do
  let env ← Program.environment Program.fixedVariables
  let outcome ←
    match CommandLine.read env arguments with
    | .ok c => Program.runHere c env
    | .error refusal => pure (refusal.outcome (FileSystem.empty []))
  Program.print outcome
  return outcome.exitCode.toUInt32
