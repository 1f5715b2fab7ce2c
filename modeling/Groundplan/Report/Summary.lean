import Groundplan.Report.Content
import Groundplan.Report.Ink
import Groundplan.Report.Table

/-!
# Text reports

A report for people: how many files were converted and failed, and a table of the failures.  Colours
add nothing but their sequences.
-/

namespace Groundplan.Survey

/-- A line of one character. -/
def ruler (c : Char) : String := String.ofList (List.replicate 80 c)

/-- The title of a section with the line under it. -/
def sectionHead (colored : Bool) (title : String) : String :=
  "\n" ++ Ink.heading.paint colored title ++ "\n" ++ ruler '-' ++ "\n"

/-- The head of a report. -/
def summaryHead (r : Survey) (colored : Bool) : String :=
  "\n" ++ Ink.title.paint colored "iac-canon Conversion" ++ " "
    ++ Ink.faint.paint colored ("v" ++ reportVersion) ++ " "
    ++ Ink.faint.paint colored ("(" ++ r.dialect.name ++ " " ++ r.dialect.version ++ ")") ++ "\n"
    ++ Ink.rule.paint colored (ruler '=') ++ "\n"

/-- How many records the documents have. -/
def recordCount (r : Survey) : Nat := r.records.length

/-- The counts of a survey. -/
def summaryCounts (r : Survey) (colored : Bool) : String :=
  let failed := toString r.failures.length
  sectionHead colored "Summary" ++ "  "
    ++ Ink.good.paint colored (toString r.documents.length) ++ " converted | "
    ++ (if r.failures.isEmpty then failed else Ink.bad.paint colored failed) ++ " failed\n"
    ++ "  " ++ toString r.recordCount ++ " resources\n"
    ++ "  " ++ toString r.files.length ++ " files scanned\n"

/-- The table of the failures; their categories are in red. -/
def failureTable (r : Survey) (colored : Bool) : Table where
  header := ["File", "Category", "Message"]
  rows := r.failures.map fun f => [f.file, f.category, f.message]
  red := if colored then [1] else []

/-- The failures of a survey; nothing when there are none. -/
def summaryFailures (r : Survey) (colored : Bool) (layout : Table → String := Table.text) : String :=
  if r.failures.isEmpty then ""
  else sectionHead colored "Failures" ++ layout (r.failureTable colored) ++ "\n" ++ "\n"

/-- The last line of a report. -/
def summaryEnd (r : Survey) (colored : Bool) : String :=
  let status :=
    if r.failures.isEmpty then Ink.good.paint colored "All files converted"
    else Ink.bad.paint colored (toString r.failures.length ++ " file(s) could not be converted")
  "\n" ++ status ++ "\n"

/-- The text report of a survey. -/
def summary (r : Survey) (colored : Bool) (layout : Table → String := Table.text) : String :=
  r.summaryHead colored ++ "\n" ++ r.summaryCounts colored ++ "\n"
    ++ r.summaryFailures colored layout ++ r.summaryEnd colored

end Groundplan.Survey
