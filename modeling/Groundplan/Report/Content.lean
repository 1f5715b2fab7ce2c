import Groundplan.Json.Writer
import Groundplan.Survey.Basic
import Groundplan.Yaml.Writer

/-!
# Structured reports

The report of a survey as data: what was surveyed, the canonical value of every path, the resources by
type, and the failures.  JSON and YAML reports are two ways of writing the same value, whose fields
stand in a fixed order.
-/

namespace Groundplan

/-- The version that reports name. -/
def reportVersion : String := "0.1.0"

/-- What a report says about its survey. -/
structure ReportHeading where
  version : String
  dialect : String
  dialectVersion : String
  fileCount : Nat
  deriving DecidableEq, Repr

/-- The report of a survey. -/
structure ReportContent where
  metadata : ReportHeading
  /-- The value of each path, by path. -/
  documents : Entries Value
  /-- The records of each type, by type. -/
  resources : Entries (List ResourceRecord)
  failures : List FailedFile
  deriving Repr

/-- The report of a survey; of several documents at one path the last one counts. -/
def Survey.content (r : Survey) : ReportContent where
  metadata := ⟨reportVersion, r.dialect.name, r.dialect.version, r.files.length⟩
  documents := Entries.ofPairs (r.documents.map fun d => (d.path, d.value))
  resources := r.recordsByType
  failures := r.failures

/-! ### Reports as values -/

/-- A natural number as a value. -/
def Value.nat (n : Nat) : Value := .number (.integer n)

/-- The metadata as a value. -/
def ReportHeading.toValue (m : ReportHeading) : Value :=
  .object [("version", .string m.version), ("dialect", .string m.dialect),
    ("dialect_version", .string m.dialectVersion), ("files_scanned", .nat m.fileCount)]

/-- A record as a value. -/
def ResourceRecord.toValue (r : ResourceRecord) : Value :=
  .object [("id", .string r.id), ("name", .string r.name), ("type", .string r.type),
    ("source", .string r.source), ("line", .nat r.line), ("config", r.config)]

/-- A failure as a value. -/
def FailedFile.toValue (f : FailedFile) : Value :=
  .object [("file", .string f.file), ("category", .string f.category),
    ("message", .string f.message)]

namespace ReportContent

/-- A report as a value. -/
def toValue (r : ReportContent) : Value :=
  .object
    [("metadata", r.metadata.toValue),
      ("documents", .object r.documents),
      ("resources", .object (r.resources.map fun group =>
        (group.1, .array (group.2.map ResourceRecord.toValue)))),
      ("failures", .array (r.failures.map FailedFile.toValue))]

/-- The JSON text of a report. -/
def json (r : ReportContent) (pretty : Bool) : String :=
  Json.text (if pretty then .pretty else .compact) r.toValue

/-- The YAML text of a report. -/
def yaml (r : ReportContent) : String := Yaml.text r.toValue

end ReportContent
end Groundplan
