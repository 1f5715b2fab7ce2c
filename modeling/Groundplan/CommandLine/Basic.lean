import Groundplan.Report.Basic

/-!
# Command lines

What a command line asks for once it has been read: one of four commands, with the settings file to
use and how much to say about the work.
-/

namespace Groundplan

/-- What to convert and where to write the report. -/
structure ConvertRequest where
  /-- Files or directories. -/
  paths : List String
  format : ReportFormat := .json
  /-- The file of the report; printed when there is none. -/
  output : Option String := none
  overrides : Overrides := {}
  deriving DecidableEq, Repr

/-- The commands of the program. -/
inductive Command where
  | convert (request : ConvertRequest)
  /-- Lists the dialects. -/
  | dialects
  /-- Writes a settings file to start from. -/
  | init
  /-- Checks a settings file. -/
  | validate (file : String)
  deriving DecidableEq, Repr

/-- A command with what holds for all commands. -/
structure CommandLine where
  /-- The settings file. -/
  config : Option String := none
  verbosity : Nat := 0
  quiet : Bool := false
  command : Command
  deriving DecidableEq, Repr

end Groundplan
