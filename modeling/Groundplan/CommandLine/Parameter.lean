import Groundplan.Report.Basic
import Groundplan.Text.Digit

/-!
# Parameters of the command line

The options and positional arguments that commands know: their names, how often they may be given,
and which values they take.
-/

namespace Groundplan.CommandLine

/-- What can be given to a command. -/
inductive Parameter where
  | config
  | verbose
  | quiet
  | help
  | version
  | format
  | output
  | dialect
  | dialectVersion
  | exclude
  | maxDepth
  | maxNestingDepth
  | failFast
  /-- The files or directories to convert. -/
  | paths
  /-- The settings file to check. -/
  | file
  deriving DecidableEq, Repr

/-- The values that a parameter takes. -/
inductive ValueKind where
  | text
  /-- A path, which is not empty. -/
  | path
  /-- A number of 64 bits without a sign. -/
  | number
  | format
  deriving DecidableEq, Repr

/-- The natural that decimal digits spell, with an optional plus before them. -/
def natural? (text : String) : Option Nat :=
  let digits := match text.toList with
    | '+' :: rest => rest
    | all => all
  if !digits.isEmpty && digits.all Char.isDigit && Text.decimalValue digits < twoPow 64 then
    some (Text.decimalValue digits)
  else none

/-- Whether a text is a value. -/
def ValueKind.accepts : ValueKind → String → Bool
  | text, _ => true
  | path, value => value != ""
  | number, value => (natural? value).isSome
  | format, value => (ReportFormat.ofName? value).isSome

namespace Parameter

/-- The name after two dashes. -/
def long? : Parameter → Option String
  | config => some "config"
  | verbose => some "verbose"
  | quiet => some "quiet"
  | help => some "help"
  | version => some "version"
  | format => some "format"
  | output => some "output"
  | dialect => some "dialect"
  | dialectVersion => some "dialect-version"
  | exclude => some "exclude"
  | maxDepth => some "max-depth"
  | maxNestingDepth => some "max-nesting-depth"
  | failFast => some "fail-fast"
  | paths | file => none

/-- The letter after one dash. -/
def short? : Parameter → Option Char
  | config => some 'c'
  | verbose => some 'v'
  | quiet => some 'q'
  | help => some 'h'
  | version => some 'V'
  | format => some 'f'
  | output => some 'o'
  | exclude => some 'e'
  | dialect | dialectVersion | maxDepth | maxNestingDepth | failFast | paths | file => none

/-- The values of a parameter; none when it stands for itself. -/
def value? : Parameter → Option ValueKind
  | config | output | paths | file => some .path
  | format => some .format
  | dialect | dialectVersion | exclude => some .text
  | maxDepth | maxNestingDepth => some .number
  | verbose | quiet | help | version | failFast => none

/-- Whether a parameter may be given more than once at one level. -/
def repeats : Parameter → Bool
  | verbose | exclude | paths => true
  | config | quiet | help | version | format | output | dialect | dialectVersion | maxDepth
  | maxNestingDepth | failFast | file => false

end Parameter

/-- Why arguments are not run as a command. -/
inductive Refusal where
  /-- The usage is asked for. -/
  | help
  /-- The version is asked for. -/
  | version
  /-- Nothing is given. -/
  | nothingGiven
  | commandMissing
  | commandUnknown (argument : String)
  | argumentUnknown (argument : String)
  | repeated (p : Parameter)
  /-- A value is missing, or is none of those that are taken. -/
  | valueInvalid (p : Parameter)
  | numberInvalid (p : Parameter)
  /-- A value is given to what takes none. -/
  | valueUnneeded (p : Parameter)
  | pathsMissing
  deriving DecidableEq, Repr

/-- The refusal of a value. -/
def Parameter.refuse (p : Parameter) : Refusal :=
  if p.value? = some .number then .numberInvalid p else .valueInvalid p

end Groundplan.CommandLine
