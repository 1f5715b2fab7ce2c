import Groundplan.Canonical.Resource
import Groundplan.Path

/-!
# Surveys

A survey holds the canonical form of each document that was converted, the files that failed, and all
files in the order in which they were found.  `merge` puts one survey after another.
-/

namespace Groundplan

/-- The canonical form of a document. -/
structure ConvertedDocument where
  path : String
  value : Value
  resources : List ResourceRecord := []
  deriving Repr

/-- A file that could not be converted. -/
structure FailedFile where
  file : String
  category : String
  message : String
  deriving DecidableEq, Repr

/-- The failure of a file with an error. -/
def FailedFile.ofError (file : String) (e : Error) : FailedFile :=
  ⟨file, e.category.name, e.message⟩

/-- The dialect of a survey. -/
structure DialectVersion where
  name : String := ""
  version : String := ""
  deriving DecidableEq, Repr

/-- What was found and converted. -/
structure Survey where
  documents : List ConvertedDocument := []
  failures : List FailedFile := []
  /-- All files, in the order in which they were found. -/
  files : List String := []
  dialect : DialectVersion := {}
  deriving Repr

namespace Survey

/-- The survey with another one after it; the dialect is the first one that has a name. -/
def merge (a b : Survey) : Survey where
  documents := a.documents ++ b.documents
  failures := a.failures ++ b.failures
  files := a.files ++ b.files
  dialect := if a.dialect.name = "" then b.dialect else a.dialect

/-- Whether a file failed. -/
def anyFailed (r : Survey) : Bool := !r.failures.isEmpty

/-- The value of the first document at a path. -/
def document? (r : Survey) (path : String) : Option Value :=
  (r.documents.find? fun d => Path.same d.path path).map (·.value)

/-- The records of all documents, in order. -/
def records (r : Survey) : List ResourceRecord := r.documents.flatMap (·.resources)

/-- Puts a record at the end of the group of its type. -/
def addRecord (groups : Entries (List ResourceRecord)) (record : ResourceRecord) :
    Entries (List ResourceRecord) :=
  groups.insert record.type (((Entries.find? groups record.type).getD []) ++ [record])

/-- The records of all documents, grouped by type. -/
def recordsByType (r : Survey) : Entries (List ResourceRecord) :=
  r.records.foldl addRecord []

end Survey
end Groundplan
