import Groundplan.Error
import Groundplan.Glob
import Groundplan.Text.Blank

/-!
# Settings

What a scan looks for, how deep conversion goes, which dialect documents are in, and how reports
look.  `faults` lists every setting that is out of range, in a fixed order; `overridden` puts
the choices of one run on top.
-/

namespace Groundplan

/-- Which files a scan finds, and whether it goes on after a failure. -/
structure ScanSettings where
  /-- Glob patterns of what is left out. -/
  excludePatterns : List String := ["**/.terraform/**"]
  /-- Whether failing files are recorded instead of ending the scan. -/
  continueOnError : Bool := true
  /-- How many levels below a root are searched. -/
  maxDepth : Nat := 100
  deriving DecidableEq, Repr

/-- How deep documents may nest. -/
structure DepthSettings where
  maxNestingDepth : Nat := 64
  deriving DecidableEq, Repr

/-- The dialect of documents. -/
structure DialectSettings where
  name : String := "terraform"
  /-- The version; the default one of the dialect when there is none. -/
  version : Option String := none
  deriving DecidableEq, Repr

/-- How reports look. -/
structure OutputSettings where
  colored : Bool := true
  pretty : Bool := true
  deriving DecidableEq, Repr

/-- All settings. -/
structure Settings where
  scan : ScanSettings := {}
  conversion : DepthSettings := {}
  dialect : DialectSettings := {}
  output : OutputSettings := {}
  deriving DecidableEq, Repr

/-- What one run chooses in place of the settings. -/
structure Overrides where
  /-- Patterns besides those of the settings. -/
  excludePatterns : List String := []
  /-- Whether the first failing file ends the scan. -/
  failFast : Bool := false
  maxDepth : Option Nat := none
  maxNestingDepth : Option Nat := none
  dialect : Option String := none
  dialectVersion : Option String := none
  deriving DecidableEq, Repr

namespace Settings

/-! ### Checks -/

/-- The fault of a pattern, if it has one. -/
def patternFault? (pattern : String) : Option Error :=
  match Glob.Pattern.read pattern with
  | .ok _ => none
  | .error fault =>
    some (.badSetting "scan.exclude_patterns" s!"invalid glob '{pattern}': {fault.message}")

/-- The fault of a nesting depth of nothing. -/
def nestingFaults (s : Settings) : List Error :=
  if s.conversion.maxNestingDepth = 0 then
    [.badSetting "conversion.max_nesting_depth" "must be at least 1"]
  else []

/-- The fault of a dialect without a name. -/
def nameFaults (s : Settings) : List Error :=
  if Text.allBlank s.dialect.name then [.badSetting "dialect.name" "must not be empty"] else []

/-- Every setting that is out of range: the nesting depth, the name, then each pattern. -/
def faults (s : Settings) : List Error :=
  s.nestingFaults ++ s.nameFaults ++ s.scan.excludePatterns.filterMap patternFault?

/-- Succeeds when every setting is in range. -/
def validate (s : Settings) : Except Error Unit := Error.gather s.faults

/-! ### Overrides -/

/-- The settings with the choices of a run. -/
def overridden (s : Settings) (o : Overrides) : Settings where
  scan :=
    { excludePatterns := s.scan.excludePatterns ++ o.excludePatterns
      continueOnError := s.scan.continueOnError && !o.failFast
      maxDepth := o.maxDepth.getD s.scan.maxDepth }
  conversion := ⟨o.maxNestingDepth.getD s.conversion.maxNestingDepth⟩
  dialect := ⟨o.dialect.getD s.dialect.name, o.dialectVersion.or s.dialect.version⟩
  output := s.output

end Settings
end Groundplan
