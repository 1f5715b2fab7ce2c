import Groundplan.Report.Summary
import Groundplan.Settings.Basic

/-!
# Reports

A survey is reported in one of three formats; the settings say how the report looks.
-/

namespace Groundplan

/-- The formats of a report. -/
inductive ReportFormat where
  | json
  | yaml
  | text
  deriving DecidableEq, Repr

namespace ReportFormat

/-- The name of a format. -/
def name : ReportFormat → String
  | json => "json"
  | yaml => "yaml"
  | text => "text"

/-- The format of a name. -/
def ofName? (name : String) : Option ReportFormat :=
  [json, yaml, text].find? (·.name == name)

end ReportFormat

/-- The report of a survey. -/
def Survey.report (r : Survey) (format : ReportFormat) (output : OutputSettings := {})
    (layout : Table → String := Table.text) : String :=
  match format with
  | .json => r.content.json output.pretty
  | .yaml => r.content.yaml
  | .text => r.summary output.colored layout

end Groundplan
