import Groundplan.CommandLine.Reader
import Groundplan.CommandLine.Usage
import Groundplan.Survey.Surveyor
import Groundplan.Settings.Document
import Groundplan.Settings.Example

/-!
# Running commands

A command turns a file system and an environment into an outcome: an exit code, what is printed, and
the file system afterwards.  `convert` ends with 0 when every file was converted and with 2 when some
failed, and then its report is printed or written to a file; otherwise it ends with 1 and changes
nothing.  `init` writes nothing but a settings file that is not there yet, and the other commands
write nothing at all.
-/

namespace Groundplan

/-- What a run leaves. -/
structure Outcome where
  exitCode : Nat := 0
  output : String := ""
  errors : String := ""
  files : FileSystem
  deriving Repr

/-- What surrounds a run. -/
structure Surroundings where
  env : Environment := []
  /-- How the terminal that the output goes to lays out tables; none when it goes to no terminal. -/
  terminal : Option (Table → String) := none
  files : FileSystem

/-- Whether colours may be written: when a variable forces them, or when none forbids them and the output
goes to a terminal. -/
def Surroundings.allowsColour (s : Surroundings) : Bool :=
  if (s.env.get? "CLICOLOR_FORCE").any (· != "0") then true
  else if (s.env.get? "NO_COLOR").isSome then false
  else (s.env.get? "CLICOLOR").all (· != "0") && s.terminal.isSome

/-- How tables are laid out. -/
def Surroundings.layout (s : Surroundings) : Table → String := s.terminal.getD Table.text

namespace CommandLine

/-! ### Failures -/

/-- Why a command ends without doing its work. -/
inductive Failure where
  | error (e : Error)
  /-- The system does not let a file be written. -/
  | unwritable (fault : FileSystem.Fault)
  /-- There are settings already. -/
  | settingsExist (path : String)
  deriving Repr

/-- The message of a failure. -/
def Failure.message : Failure → String
  | error e => e.message
  | unwritable fault => fault.message
  | settingsExist path => "Configuration file already exists: " ++ path

/-- The text of the error underneath, where there is one. -/
def Failure.cause? : Failure → Option String
  | error e => e.cause?
  | unwritable _ | settingsExist _ => none

/-- What is printed on a failure. -/
def Failure.report (f : Failure) : String :=
  "Error: " ++ f.message ++ "\n" ++
    match f.cause? with
    | some cause => "\nCaused by:\n  0: " ++ cause ++ "\n"
    | none => ""

/-- The outcome of a failure: nothing is changed. -/
def Failure.outcome (f : Failure) (files : FileSystem) : Outcome :=
  { exitCode := 1, errors := f.report, files }

end CommandLine

/-- The exit code for a survey. -/
def Survey.exitCode (survey : Survey) : Nat := if survey.anyFailed then 2 else 0

/-! ### Converting -/

namespace ConvertRequest

/-- The settings of a request to convert. -/
def settings (r : ConvertRequest) (s : Surroundings) (config : Option String) :
    Except Error Settings := do
  let settings ← Settings.discover s.files s.env config
  let settings := settings.overridden r.overrides
  settings.validate
  return settings

/-- The surveyor of a request to convert. -/
def surveyor (r : ConvertRequest) (s : Surroundings) (config : Option String) :
    Except Error Surveyor := do
  let settings ← r.settings s config
  Surveyor.ofSettings settings

/-- The report on a survey; colours need the settings and the surroundings to allow them. -/
def report (r : ConvertRequest) (s : Surroundings) (output : OutputSettings) (survey : Survey) :
    String :=
  survey.report r.format { output with colored := output.colored && s.allowsColour } s.layout

/-- The survey that a request asks for, and the report on it. -/
def reported (r : ConvertRequest) (s : Surroundings) (config : Option String) :
    Except Error (Survey × String) := do
  let surveyor ← r.surveyor s config
  let survey ← surveyor.survey s.files r.paths
  return (survey, r.report s surveyor.settings.output survey)

/-- The outcome of a report: it is written to the file that is asked for, or else printed. -/
def deliver (r : ConvertRequest) (s : Surroundings) (survey : Survey) (report : String) : Outcome :=
  match r.output with
  | none => { exitCode := survey.exitCode, output := report ++ "\n", files := s.files }
  | some path =>
    match s.files.writeText path report with
    | .ok files => { exitCode := survey.exitCode, files }
    | .error fault => (CommandLine.Failure.unwritable fault).outcome s.files

end ConvertRequest

/-! ### Commands -/

namespace CommandLine

/-- Converts files. -/
def convert (r : ConvertRequest) (s : Surroundings) (config : Option String) : Outcome :=
  match r.reported s config with
  | .ok (survey, report) => r.deliver s survey report
  | .error e => (Failure.error e).outcome s.files

/-- The table of the registered dialects. -/
def dialectTable (r : Registry) : Table where
  header := ["Dialect", "Version", "Default"]
  rows := r.entries.map fun (name, version, isDefault) =>
    [name, version, if isDefault then "yes" else ""]

/-- Lists the dialects. -/
def listDialects (s : Surroundings) : Outcome :=
  { output := s.layout (dialectTable .builtin) ++ "\n", files := s.files }

/-- Writes a settings file to start from. -/
def writeExample (s : Surroundings) : Outcome :=
  if s.files.holds defaultConfig then (Failure.settingsExist defaultConfig).outcome s.files
  else
    match s.files.writeText defaultConfig Settings.exampleText with
    | .ok files =>
      { output := "Created example configuration: " ++ defaultConfig ++ "\n", files }
    | .error fault => (Failure.unwritable fault).outcome s.files

/-- The surveyor of the settings that a file says. -/
def surveyorOfFile (s : Surroundings) (file : String) : Except Error Surveyor := do
  let settings ← Settings.ofFile s.files s.env file
  Surveyor.ofSettings settings

/-- Checks a settings file: it can be read, and its dialect is registered. -/
def validate (s : Surroundings) (file : String) : Outcome :=
  match surveyorOfFile s file with
  | .ok _ => { output := "Configuration is valid: " ++ file ++ "\n", files := s.files }
  | .error e =>
    { exitCode := 1, errors := "Configuration error: " ++ e.message ++ "\n", files := s.files }

/-- Runs a command line. -/
def run (c : CommandLine) (s : Surroundings) : Outcome :=
  match c.command with
  | .convert request => convert request s c.config
  | .dialects => listDialects s
  | .init => writeExample s
  | .validate file => validate s file

/-- The paths of settings that a command line may read. -/
def settingsPaths (c : CommandLine) : List String :=
  match c.command with
  | .convert _ => c.config.elim Settings.defaultFiles ([·])
  | .validate file => [file]
  | .dialects | .init => []

/-- The paths of documents that a command line reads. -/
def documentPaths (c : CommandLine) : List String :=
  match c.command with
  | .convert request => request.paths
  | .dialects | .init | .validate _ => []

/-- The paths that a command line may write to. -/
def writtenPaths (c : CommandLine) : List String :=
  match c.command with
  | .convert request => request.output.toList
  | .init => [defaultConfig]
  | .dialects | .validate _ => []

/-- The outcome of arguments that are not run. -/
def Refusal.outcome (r : Refusal) (files : FileSystem) : Outcome :=
  if r.isAnswer then { output := r.message, files }
  else { exitCode := 2, errors := r.message, files }

/-- Reads arguments and runs them. -/
def runArguments (arguments : List String) (s : Surroundings) : Outcome :=
  match read s.env arguments with
  | .ok c => c.run s
  | .error refusal => refusal.outcome s.files

end CommandLine
end Groundplan
