/-!
# Errors

One type holds every cause for which loading, converting, configuring or reporting can fail.  An
error has a category, an answer to whether a scan may go on to the next file, and a message; a list
of errors collapses to nothing, to the only one, or to one that holds them all.
-/

namespace Groundplan

/-- Why an operation failed. -/
inductive Error where
  /-- The system could not read a file. -/
  | inaccessible (path cause : String)
  | missingFile (path : String)
  | missingDirectory (path : String)
  /-- A document could not be read as a tree, or the tree does not fit its source. -/
  | unreadable (file message : String)
  /-- The label path of a block runs into a value that is not an object. -/
  | ambiguousBlock (path message : String)
  /-- A tree is deeper than the limit. -/
  | tooDeep (limit : Nat)
  /-- An expression has no value where it stands. -/
  | noValue (expression message : String)
  /-- No dialect has this name and version. -/
  | unknownDialect (name version : String)
  /-- Settings could not be read. -/
  | malformedSettings (message : String) (cause : Option String)
  /-- A setting has a value out of range. -/
  | badSetting (key message : String)
  | unreportable (message : String)
  /-- Several errors. -/
  | several (count : Nat) (errors : List Error)
  deriving Repr

/-- The categories that reports name. -/
inductive Category where
  | structural
  | evaluation
  | reading
  | files
  | settings
  | report
  | several
  deriving DecidableEq, Repr

/-- The name of a category. -/
def Category.name : Category → String
  | structural => "structural"
  | evaluation => "evaluation"
  | reading => "upstream"
  | files => "io"
  | settings => "config"
  | report => "report"
  | several => "multiple"

namespace Error

/-- The category of an error. -/
def category : Error → Category
  | ambiguousBlock .. | tooDeep .. => .structural
  | noValue .. => .evaluation
  | unreadable .. => .reading
  | inaccessible .. | missingFile .. | missingDirectory .. => .files
  | unknownDialect .. | malformedSettings .. | badSetting .. => .settings
  | unreportable .. => .report
  | several .. => .several

/-- Whether the error concerns one document only, so that a scan may go on with the next. -/
def isLocal : Error → Bool
  | inaccessible .. | missingFile .. | unreadable .. | ambiguousBlock .. | tooDeep ..
  | noValue .. => true
  | missingDirectory .. | unknownDialect .. | malformedSettings .. | badSetting ..
  | unreportable .. | several .. => false

/-- The place in the program that is printed for an error whose place is not recorded. -/
def unplaced : String := "@"

/-- The message of an error that was raised at `place`. -/
def message (e : Error) (place : String := unplaced) : String :=
  match e with
  | inaccessible path cause => s!"I/O error at '{path}' ({place}): {cause}"
  | missingFile path => s!"File not found: {path} ({place})"
  | missingDirectory path => s!"Directory not found: {path} ({place})"
  | unreadable file message => s!"Failed to load '{file}' \n\t({place}): {message}"
  | ambiguousBlock path message => s!"Unable to convert block '{path}' ({place}): {message}"
  | tooDeep limit => s!"Nesting depth exceeds the limit of {limit} ({place})"
  | noValue expression message =>
    s!"Failed to evaluate expression '{expression}' ({place}): {message}"
  | unknownDialect name version =>
    s!"Unsupported IaC dialect '{name}' version '{version}' ({place})"
  | malformedSettings message _ => s!"Failed to parse configuration ({place}): {message}"
  | badSetting key message => s!"Invalid configuration value for '{key}' ({place}): {message}"
  | unreportable message => s!"Failed to generate report ({place}): {message}"
  | several count _ => s!"Multiple errors occurred ({count} total)"

/-- The text of the error underneath, where there is one. -/
def cause? : Error → Option String
  | inaccessible _ cause => some cause
  | malformedSettings _ cause => cause
  | _ => none

/-- The error for a text that should be JSON and is not. -/
def notJson (cause : String) : Error := .unreportable s!"JSON serialization error: {cause}"

/-- The outcome of a list of errors: success when there is none, the only one, or one that holds
them all. -/
def gather : List Error → Except Error Unit
  | [] => .ok ()
  | [only] => .error only
  | errors => .error (.several errors.length errors)

end Error
end Groundplan
