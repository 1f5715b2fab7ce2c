import Groundplan.CommandLine.Basic
import Groundplan.CommandLine.Level
import Groundplan.Settings.Expansion

/-!
# Reading command lines

A command line is read level by level.  What holds for all commands may be given on both levels, and
then the level of the command counts.  The settings file may also come from the environment.
-/

namespace Groundplan.CommandLine

/-- The variable that names a settings file. -/
def configVariable : String := "IAC_CANON_CONFIG"

/-- The file that `validate` checks when none is given. -/
def defaultConfig : String := "iac-canon.yaml"

/-- The settings file that the environment names for a level on which none is given. -/
def environmentConfig (env : Environment) (g : Given) : Except Refusal (Option String) :=
  match g.has .config, env.get? configVariable with
  | false, some value => if value = "" then .error (.valueInvalid .config) else .ok (some value)
  | _, _ => .ok none

/-- What is given on the level of a command. -/
def commandGiven (env : Environment) (name : CommandName) (arguments : List String) :
    Except Refusal Given := do
  let level := Level.ofCommand name
  let (s, _) ← ({} : Progress).read level arguments
  let s ← s.settle
  if level.options.contains .config then
    let _ ← environmentConfig env s.given
  if level.positional = some .paths ∧ !s.given.has .paths then .error .pathsMissing
  return s.given

/-- What a request to convert says. -/
def convertRequest (g : Given) : ConvertRequest where
  paths := g.values .paths
  format := ((g.value? .format).bind ReportFormat.ofName?).getD .json
  output := g.value? .output
  overrides :=
    { excludePatterns := g.values .exclude
      failFast := g.has .failFast
      maxDepth := (g.value? .maxDepth).bind natural?
      maxNestingDepth := (g.value? .maxNestingDepth).bind natural?
      dialect := g.value? .dialect
      dialectVersion := g.value? .dialectVersion }

/-- What is refused when help on some commands is asked for: commands have none below them. -/
def helpRefusal : List String → Refusal
  | [] => .help
  | name :: rest =>
    if (CommandName.ofName? name).isNone then .commandUnknown name
    else
      match rest with
      | [] => .help
      | other :: _ => .commandUnknown other

/-- How often `verbose` is given, up to the largest octet. -/
def Given.verbosity (g : Given) : Nat := min (g.count .verbose) 255

/-- Reads a command line. -/
def read (env : Environment) (arguments : List String) : Except Refusal CommandLine := do
  let (s, command) ← ({} : Progress).read .top arguments
  match command with
  | none =>
    let s ← s.settle
    let fromEnvironment ← environmentConfig env s.given
    if s.given.isEmpty && fromEnvironment.isNone then .error .nothingGiven
    else .error .commandMissing
  | some (.help, names) => .error (helpRefusal names)
  | some (name, rest) =>
    let inner ← commandGiven env name rest
    let s ← s.settle
    let fromEnvironment ← environmentConfig env s.given
    let outer := s.given
    let config := (inner.value? .config).or ((outer.value? .config).or fromEnvironment)
    let file := (inner.value? .file).getD (config.getD defaultConfig)
    return {
      config := if name = .validate then some file else config
      verbosity := if inner.has .verbose then inner.verbosity else outer.verbosity
      quiet := inner.has .quiet || outer.has .quiet
      command :=
        match name with
        | .convert => .convert (convertRequest inner)
        | .dialects => .dialects
        | .init => .init
        | .validate | .help => .validate file }

end Groundplan.CommandLine
