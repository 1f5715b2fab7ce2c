import Groundplan.Canonical.Resource
import Groundplan.Dialect.Registry
import Groundplan.Survey.Discovery
import Groundplan.Survey.Basic
import Groundplan.Settings.Basic

/-!
# Surveyors

A surveyor converts documents of one dialect under some settings: one text at a time, or all files
below some roots.  The roots are searched before any file is read; each file then succeeds or fails
by itself.
-/

namespace Groundplan

/-- Settings with the dialect that they ask for. -/
structure Surveyor where
  settings : Settings
  dialect : Dialect

namespace Surveyor

/-- The surveyor of some settings with the dialects of a registry. -/
def ofRegistry (settings : Settings) (registry : Registry) : Except Error Surveyor :=
  (fun dialect => ⟨settings, dialect⟩) <$>
    registry.select settings.dialect.name settings.dialect.version

/-- The surveyor of some settings. -/
def ofSettings (settings : Settings) : Except Error Surveyor := ofRegistry settings .builtin

/-! ### Documents -/

/-- The conversion of a document. -/
def conversion (s : Surveyor) (d : Document) : Conversion :=
  ⟨d.source, s.settings.conversion.maxNestingDepth⟩

/-- The canonical value of a document. -/
def value (s : Surveyor) (d : Document) : Except Error Value :=
  .object <$> (s.conversion d).body d.body

/-- The resource records of a document. -/
def resources (s : Surveyor) (d : Document) : Except Error (List ResourceRecord) :=
  (s.conversion d).resources d.path d.body

/-- The canonical value of a text. -/
def valueOfText (s : Surveyor) (text path : String) : Except Error Value := do
  let d ← s.dialect.load path text
  s.value d

/-- The canonical document of a text. -/
def documentOfText (s : Surveyor) (text path : String) : Except Error ConvertedDocument := do
  let d ← s.dialect.load path text
  let value ← s.value d
  let resources ← s.resources d
  return ⟨d.path, value, resources⟩

/-! ### Files -/

/-- The canonical document of the file at a path. -/
def documentOfFile (s : Surveyor) (fs : FileSystem) (path : String) : Except Error ConvertedDocument :=
  match fs.readText path with
  | .ok text => s.documentOfText text path
  | .error fault => .error (.inaccessible path fault.message)

/-- The documents below a root. -/
def discover (s : Surveyor) (fs : FileSystem) (root : String) : Except Error (List String) :=
  Discovery.discover fs s.dialect s.settings.scan.excludePatterns s.settings.scan.maxDepth root

/-- The documents below roots, one root after the other. -/
def discoverAll (s : Surveyor) (fs : FileSystem) : List String → Except Error (List String)
  | [] => .ok []
  | root :: roots => do
    let first ← s.discover fs root
    let others ← discoverAll s fs roots
    return first ++ others

/-- Whether a survey goes on after an error. -/
def tolerates (s : Surveyor) (e : Error) : Bool :=
  s.settings.scan.continueOnError && e.isLocal

/-- Converts files and puts each into the documents or the failures. -/
def convertAll (s : Surveyor) (fs : FileSystem) :
    List String → Except Error (List ConvertedDocument × List FailedFile)
  | [] => .ok ([], [])
  | file :: files =>
    match s.documentOfFile fs file with
    | .ok document => do
      let (documents, failures) ← convertAll s fs files
      return (document :: documents, failures)
    | .error e =>
      if s.tolerates e then do
        let (documents, failures) ← convertAll s fs files
        return (documents, .ofError file e :: failures)
      else .error e

/-- The survey of the files below roots. -/
def survey (s : Surveyor) (fs : FileSystem) (roots : List String) : Except Error Survey := do
  let files ← s.discoverAll fs roots
  let (documents, failures) ← s.convertAll fs files
  return ⟨documents, failures, files, ⟨s.dialect.name, s.dialect.version⟩⟩

end Surveyor
end Groundplan
