import Groundplan.FileSystem
import Groundplan.Settings.Basic
import Groundplan.Settings.Expansion
import Groundplan.Yaml.Implicit
import Groundplan.Yaml.Reader

/-!
# Settings documents

Settings are written as a YAML mapping of sections.  What a document leaves out keeps its default, and
names that are no settings are passed over; a setting named twice or with a value of the wrong kind is
an error that names its place.
-/

namespace Groundplan.Settings

open Yaml (Node)

/-! ### Values -/

/-- The tag of a type of scalars. -/
def coreTag (name : String) : String := "tag:yaml.org,2002:" ++ name

/-- The text of a scalar that can be read as a value of the type with the given tag: a plain one,
whatever its tag is, or a literal one with this tag. -/
def typedText? (tag : String) : Node → Option String
  | .scalar _ .plain text => some text
  | .scalar (some t) .literal text => if t = tag then some text else none
  | _ => none

/-- A number of 64 bits without a sign. -/
def natural? (node : Node) : Option Nat := do
  let text ← typedText? (coreTag "int") node
  let n ← Yaml.unsignedInteger? text
  if n < twoPow 64 then some n else none

/-- A boolean. -/
def bool? (node : Node) : Option Bool := do
  let text ← typedText? (coreTag "bool") node
  Yaml.bool? text

/-- A text: any scalar, as it is written. -/
def text? : Node → Option String
  | .scalar _ _ text => some text
  | _ => none

/-- Whether nothing is written. -/
def isBlank : Node → Bool
  | .scalar _ .plain text => text == ""
  | _ => false

/-- A list of texts. -/
def texts? (d : Yaml.Document) : Node → Option (List String)
  | .sequence items => items.mapM fun item => text? (d.follow item)
  | node => if isBlank node then some [] else none

/-! ### Sections -/

/-- What is wrong in a place; the document as a whole has no name. -/
def complaint (place wrong : String) : String :=
  if place = "" then wrong else place ++ ": " ++ wrong

/-- The value that was read in a place, or what was expected there. -/
def expect {α : Type} (what : String) (read : Node → Option α) (place : String) (node : Node) :
    Except String α :=
  match read node with
  | some value => .ok value
  | none => .error (complaint place ("expected " ++ what))

/-- Reads what may be missing: nothing and null are, and a tag says that nothing but null is. -/
def readOptional {α : Type} (read : String → Node → Except String α) (place : String) :
    Node → Except String (Option α)
  | .scalar (some tag) .plain text =>
    if tag = coreTag "null" then
      if Yaml.isNull text then .ok none else .error (complaint place "expected null")
    else some <$> read place (.scalar (some tag) .plain text)
  | .scalar none .plain text =>
    if text == "" || Yaml.isNull text then .ok none
    else some <$> read place (.scalar none .plain text)
  | node => some <$> read place node

/-- The entries of a mapping with texts as keys; no text in `names` may be a key twice. -/
def readEntries (d : Yaml.Document) (names : List String) (place : String)
    (entries : List (Node × Node)) : Except String (List (String × Node)) := do
  let entries ← entries.mapM fun (key, value) =>
    (·, value) <$> expect "a text as a key" text? place (d.follow key)
  match names.find? fun name => (entries.filter (·.1 == name)).length > 1 with
  | some name => .error (complaint place s!"duplicate field '{name}'")
  | none => .ok entries

/-- The entries of a section; an empty one has none. -/
def readSection (d : Yaml.Document) (names : List String) (place : String) :
    Node → Except String (List (String × Node))
  | .mapping pairs => readEntries d names place pairs
  | node => if isBlank node then .ok [] else .error (complaint place "expected a mapping")

/-- The value of an entry, or the default one when there is no entry. -/
def readEntry {α : Type} (d : Yaml.Document) (entries : List (String × Node)) (place name : String)
    (read : String → Node → Except String α) (default : α) : Except String α :=
  match entries.find? (·.1 == name) with
  | some (_, node) => read (if place = "" then name else place ++ "." ++ name) (d.follow node)
  | none => .ok default

/-- A number in a place. -/
def readNatural : String → Node → Except String Nat := expect "an unsigned integer" natural?

/-- A boolean in a place. -/
def readBool : String → Node → Except String Bool := expect "a boolean" bool?

/-- The section on scanning. -/
def readScan (d : Yaml.Document) (place : String) (node : Node) : Except String ScanSettings := do
  let default : ScanSettings := {}
  let entries ← readSection d ["exclude_patterns", "continue_on_error", "max_depth"] place node
  let excludePatterns ←
    readEntry d entries place "exclude_patterns" (expect "a list of texts" (texts? d))
      default.excludePatterns
  let continueOnError ← readEntry d entries place "continue_on_error" readBool default.continueOnError
  let maxDepth ← readEntry d entries place "max_depth" readNatural default.maxDepth
  return { excludePatterns, continueOnError, maxDepth }

/-- The section on conversion. -/
def readConversion (d : Yaml.Document) (place : String) (node : Node) :
    Except String DepthSettings := do
  let default : DepthSettings := {}
  let entries ← readSection d ["max_nesting_depth"] place node
  let maxNestingDepth ←
    readEntry d entries place "max_nesting_depth" readNatural default.maxNestingDepth
  return { maxNestingDepth }

/-- The section on the dialect. -/
def readDialect (d : Yaml.Document) (place : String) (node : Node) :
    Except String DialectSettings := do
  let default : DialectSettings := {}
  let entries ← readSection d ["name", "version"] place node
  let name ← readEntry d entries place "name" (expect "a text" text?) default.name
  let version ←
    readEntry d entries place "version" (readOptional (expect "a text" text?)) default.version
  return { name, version }

/-- The section on output. -/
def readOutput (d : Yaml.Document) (place : String) (node : Node) :
    Except String OutputSettings := do
  let default : OutputSettings := {}
  let entries ← readSection d ["colored", "pretty"] place node
  let colored ← readEntry d entries place "colored" readBool default.colored
  let pretty ← readEntry d entries place "pretty" readBool default.pretty
  return { colored, pretty }

/-- The settings of a document's mapping. -/
def readSections (d : Yaml.Document) (place : String) (node : Node) : Except String Settings := do
  let entries ← readSection d ["scan", "conversion", "dialect", "output"] place node
  let scan ← readEntry d entries place "scan" (readScan d) {}
  let conversion ← readEntry d entries place "conversion" (readConversion d) {}
  let dialect ← readEntry d entries place "dialect" (readDialect d) {}
  let output ← readEntry d entries place "output" (readOutput d) {}
  return { scan, conversion, dialect, output }

/-- The settings of the documents of a text: the defaults when there is none. -/
def ofDocuments : List Yaml.Document → Except String Settings
  | [] => .ok {}
  | [d] => (·.getD {}) <$> readOptional (readSections d) "" (d.follow d.root)
  | _ => .error "deserializing from YAML containing more than one document is not supported"

/-! ### Texts and files -/

/-- The settings that a text says, once its variables are expanded. -/
def ofText (env : Environment) (text : String) : Except Error Settings :=
  match Yaml.read (env.expand text) >>= ofDocuments with
  | .error message => .error (.malformedSettings message (some message))
  | .ok settings => do
    settings.validate
    return settings

/-- The settings that a file says. -/
def ofFile (fs : FileSystem) (env : Environment) (path : String) : Except Error Settings :=
  if fs.isFile path then
    match fs.readText path with
    | .ok text => ofText env text
    | .error fault => .error (.inaccessible path fault.message)
  else .error (.missingFile path)

/-- The files that settings are looked for in, in order. -/
def defaultFiles : List String := ["iac-canon.yaml", "iac-canon.yml", ".iac-canon.yaml"]

/-- The settings of the given file, or else of the first default file that is there; the defaults when
there is none. -/
def discover (fs : FileSystem) (env : Environment) (explicit : Option String) :
    Except Error Settings :=
  match explicit with
  | some path => ofFile fs env path
  | none =>
    match defaultFiles.find? fs.holds with
    | some path => ofFile fs env path
    | none => .ok {}

end Groundplan.Settings
