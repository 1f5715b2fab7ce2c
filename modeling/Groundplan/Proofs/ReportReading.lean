import Groundplan.Proofs.MergedSurveys
import Groundplan.Proofs.WrittenJson
import Groundplan.Report.Basic

/-!
# Reading reports

A report says of a survey what `Survey.IsReport` lists: of each path the value of the last document
there, and the records grouped by their type.  Written as a value it keeps all of this, since its
fields can be looked up again (`ReportContent.ofValue?_toValue`), and so does its JSON text in either
layout, as long as its numbers are integers.  `report_readable` puts this together: the JSON report of
a survey is read back to its content, and different contents have different texts.
-/

namespace Groundplan

/-! ### What a report says -/

open Entries

namespace Survey

/-- What the report of a survey says. -/
structure IsReport (r : Survey) (c : ReportContent) : Prop where
  metadata : c.metadata = ⟨reportVersion, r.dialect.name, r.dialect.version, r.files.length⟩
  /-- Each path stands there once. -/
  paths : c.documents.Ordered
  /-- A path has the value of the last document at it. -/
  documents : ∀ path,
    find? c.documents path = (r.documents.reverse.find? (·.path = path)).map (·.value)
  resources : IsGrouping c.resources (r.documents.flatMap (·.resources))
  failures : c.failures = r.failures

theorem isReport_content (r : Survey) : r.IsReport r.content where
  metadata := rfl
  paths := ordered_ofPairs _
  documents path := by
    rw [content, find?_ofPairs, ← List.map_reverse, List.find?_map, Option.map_map]
    rfl
  resources := r.isGrouping_recordsByType
  failures := rfl

/-- Every number in the survey is an integer of the range that is kept, lines and the number of its
files included. -/
structure Integral (r : Survey) : Prop where
  values : ∀ d ∈ r.documents, d.value.Integral
  configs : ∀ d ∈ r.documents, ∀ record ∈ d.resources, record.config.Integral
  lines : ∀ d ∈ r.documents, ∀ record ∈ d.resources, (record.line : Int) ≤ Number.greatestInteger
  count : (r.files.length : Int) ≤ Number.greatestInteger

end Survey

/-! ### Reports as values -/

theorem Value.integral_nat {n : Nat} (h : (n : Int) ≤ Number.greatestInteger) :
    (Value.nat n).Integral := by
  refine .number ⟨?_, h⟩
  have : Number.leastInteger ≤ 0 := by decide
  omega

theorem ReportHeading.integral_toValue {m : ReportHeading}
    (h : (m.fileCount : Int) ≤ Number.greatestInteger) : m.toValue.Integral := by
  refine .object ?_
  simp only [List.forall_mem_cons]
  exact ⟨.string _, .string _, .string _, Value.integral_nat h, List.forall_mem_nil _⟩

theorem ResourceRecord.integral_toValue {r : ResourceRecord}
    (hline : (r.line : Int) ≤ Number.greatestInteger) (hconfig : r.config.Integral) :
    r.toValue.Integral := by
  refine .object ?_
  simp only [List.forall_mem_cons]
  exact ⟨.string _, .string _, .string _, .string _, Value.integral_nat hline, hconfig,
    List.forall_mem_nil _⟩

theorem FailedFile.integral_toValue (f : FailedFile) : f.toValue.Integral := by
  refine .object ?_
  simp only [List.forall_mem_cons]
  exact ⟨.string _, .string _, .string _, List.forall_mem_nil _⟩

/-- The report of a survey without other numbers than integers has none. -/
theorem Survey.Integral.content {r : Survey} (h : r.Integral) : r.content.toValue.Integral := by
  have hdocuments : ∀ p ∈ r.content.documents, p.2.Integral := by
    intro p hp
    obtain ⟨d, hd, rfl⟩ := List.mem_map.mp (mem_of_mem_ofPairs hp)
    exact h.values d hd
  have hrecords : ∀ group ∈ r.content.resources, ∀ record ∈ group.2, record.toValue.Integral := by
    intro group hgroup record hrecord
    have hgrouped := List.mem_flatMap.mpr ⟨group, hgroup, hrecord⟩
    obtain ⟨d, hd, hrecord⟩ :=
      List.mem_flatMap.mp (r.isGrouping_recordsByType.perm.mem_iff.mp hgrouped)
    exact ResourceRecord.integral_toValue (h.lines d hd record hrecord) (h.configs d hd record hrecord)
  refine .object ?_
  simp only [List.forall_mem_cons]
  refine ⟨ReportHeading.integral_toValue h.count, .object hdocuments, .object fun p hp => ?_,
    .array fun v hv => ?_, List.forall_mem_nil _⟩
  · obtain ⟨group, hgroup, rfl⟩ := List.mem_map.mp hp
    refine .array fun v hv => ?_
    obtain ⟨record, hrecord, rfl⟩ := List.mem_map.mp hv
    exact hrecords group hgroup record hrecord
  · obtain ⟨f, -, rfl⟩ := List.mem_map.mp hv
    exact f.integral_toValue

/-! ### Looking up fields -/

namespace Value

/-- The natural number that a value is. -/
def nat? : Value → Option Nat
  | number (.integer (.ofNat n)) => some n
  | _ => none

/-- The text that a value is. -/
def text? : Value → Option String
  | string s => some s
  | _ => none

/-- The elements of an array. -/
def items? : Value → Option (List Value)
  | array items => some items
  | _ => none

/-- The entries of an object. -/
def entries? : Value → Option (Entries Value)
  | object entries => some entries
  | _ => none

/-- The value of a field of an object. -/
def field? (v : Value) (key : String) : Option Value := v.entries?.bind (Entries.find? · key)

end Value

/-- The metadata that a value says. -/
def ReportHeading.ofValue? (v : Value) : Option ReportHeading := do
  let version ← (← v.field? "version").text?
  let dialect ← (← v.field? "dialect").text?
  let dialectVersion ← (← v.field? "dialect_version").text?
  let fileCount ← (← v.field? "files_scanned").nat?
  return ⟨version, dialect, dialectVersion, fileCount⟩

/-- The record that a value says. -/
def ResourceRecord.ofValue? (v : Value) : Option ResourceRecord := do
  let id ← (← v.field? "id").text?
  let name ← (← v.field? "name").text?
  let type ← (← v.field? "type").text?
  let source ← (← v.field? "source").text?
  let line ← (← v.field? "line").nat?
  let config ← v.field? "config"
  return ⟨id, name, type, source, line, config⟩

/-- The failure that a value says. -/
def FailedFile.ofValue? (v : Value) : Option FailedFile := do
  let file ← (← v.field? "file").text?
  let category ← (← v.field? "category").text?
  let message ← (← v.field? "message").text?
  return ⟨file, category, message⟩

namespace ReportContent

/-- The group that an entry of the resources says. -/
def group? (p : String × Value) : Option (String × List ResourceRecord) := do
  let records ← (← p.2.items?).mapM ResourceRecord.ofValue?
  return (p.1, records)

/-- The report that a value says. -/
def ofValue? (v : Value) : Option ReportContent := do
  let metadata ← ReportHeading.ofValue? (← v.field? "metadata")
  let documents ← (← v.field? "documents").entries?
  let resources ← (← (← v.field? "resources").entries?).mapM group?
  let failures ← (← (← v.field? "failures").items?).mapM FailedFile.ofValue?
  return ⟨metadata, documents, resources, failures⟩

/-- The report that a JSON text says. -/
def ofJson? (text : String) : Option ReportContent := (Json.read text).bind ofValue?

end ReportContent

theorem ReportHeading.ofValue?_toValue (m : ReportHeading) : ofValue? m.toValue = some m := rfl

theorem ResourceRecord.ofValue?_toValue (r : ResourceRecord) : ofValue? r.toValue = some r := rfl

theorem FailedFile.ofValue?_toValue (f : FailedFile) : ofValue? f.toValue = some f := rfl

/-- What is written element by element is read so. -/
theorem mapM_map_of_leftInverse {α β : Type} {write : α → β} {read : β → Option α}
    (h : ∀ a, read (write a) = some a) (as : List α) : (as.map write).mapM read = some as := by
  induction as with
  | nil => rfl
  | cons a as ih =>
    rw [List.map_cons, List.mapM_cons, h, ih]
    rfl

namespace ReportContent

/-- **Reports as values**: a report is what its value says. -/
theorem ofValue?_toValue (c : ReportContent) : ofValue? c.toValue = some c := by
  have hgroup : ∀ group : String × List ResourceRecord,
      group? (group.1, .array (group.2.map ResourceRecord.toValue)) = some group := by
    rintro ⟨type, records⟩
    have hrecords := mapM_map_of_leftInverse ResourceRecord.ofValue?_toValue records
    simp only [group?, Value.items?, hrecords, Option.bind_eq_bind, Option.bind_some]
    rfl
  have hresources := mapM_map_of_leftInverse hgroup c.resources
  have hfailures := mapM_map_of_leftInverse FailedFile.ofValue?_toValue c.failures
  have hfields : c.toValue.field? "metadata" = some c.metadata.toValue ∧
      c.toValue.field? "documents" = some (.object c.documents) ∧
      c.toValue.field? "resources" = some (.object (c.resources.map fun group =>
        (group.1, .array (group.2.map ResourceRecord.toValue)))) ∧
      c.toValue.field? "failures" = some (.array (c.failures.map FailedFile.toValue)) :=
    ⟨rfl, rfl, rfl, rfl⟩
  simp only [ofValue?, hfields, ReportHeading.ofValue?_toValue, Value.entries?, Value.items?,
    hresources, hfailures, Option.bind_eq_bind, Option.bind_some]
  rfl

end ReportContent

/-! ### JSON reports -/

namespace Survey

variable {r : Survey}

theorem read_report (h : r.Integral) (output : OutputSettings) :
    Json.read (r.report .json output) = some r.content.toValue := Json.read_text h.content _

theorem ofJson?_report (h : r.Integral) (output : OutputSettings) :
    ReportContent.ofJson? (r.report .json output) = some r.content := by
  rw [ReportContent.ofJson?, read_report h, Option.bind_some, ReportContent.ofValue?_toValue]

/-- **Reading JSON reports.**  The JSON report of a survey whose numbers are integers is read back, in
either layout, to the value of its content and to the content itself, which says of the survey what a
report has to say.  So two such surveys have equal reports, whatever the layouts, only if they have
equal contents. -/
theorem report_readable (h : r.Integral) :
    (∀ output, Json.read (r.report .json output) = some r.content.toValue ∧
      ReportContent.ofJson? (r.report .json output) = some r.content) ∧
    r.IsReport r.content ∧
    ∀ r' : Survey, r'.Integral → ∀ output output',
      r.report .json output = r'.report .json output' → r.content = r'.content := by
  refine ⟨fun output => ⟨read_report h output, ofJson?_report h output⟩, r.isReport_content, ?_⟩
  intro r' h' output output' hreport
  have hcontent := ofJson?_report h output
  rw [hreport, ofJson?_report h'] at hcontent
  exact (Option.some.inj hcontent).symm

/-- Two documents at one path, quotes, backslashes and control characters in keys, texts and paths,
empty containers, the least integer, and a failure. -/
theorem report_readable_escapes :
    let config : Value := .object [("\t\x01", .string "\"\\\x7f\u2028é😀"), ("b", .array [])]
    let least : Value := .array [.number (.integer Number.leastInteger), .object [], .bool false]
    let r : Survey :=
      { documents :=
          [⟨"a.tf", .null, []⟩, ⟨"b\n.tf", least, [⟨"t.n", "n", "t", "b\n.tf", 3, config⟩]⟩,
            ⟨"a.tf", .string "\x00", []⟩]
        failures := [⟨"c.tf", "upstream", "line 1\n\tline 2"⟩]
        files := ["a.tf", "b\n.tf", "c.tf", "a.tf"]
        dialect := ⟨"terraform", "v14"⟩ }
    r.Integral ∧
      ReportContent.ofJson? (r.report .json { pretty := true }) = some r.content ∧
      ReportContent.ofJson? (r.report .json { pretty := false }) = some r.content ∧
      r.content.metadata = ⟨"0.1.0", "terraform", "v14", 4⟩ ∧
      find? r.content.documents "a.tf" = some (.string "\x00") ∧
      find? r.content.documents "b\n.tf" = some least := by
  intro config least r
  have hconfig : config.Integral := by
    refine .object ?_
    simp only [List.forall_mem_cons]
    exact ⟨.string _, .array (List.forall_mem_nil _), List.forall_mem_nil _⟩
  have hleast : least.Integral := by
    refine .array ?_
    simp only [List.forall_mem_cons]
    exact ⟨.number (by decide), .object (List.forall_mem_nil _), .bool _, List.forall_mem_nil _⟩
  have hr : r.Integral := by
    constructor
    · simp only [r, List.forall_mem_cons]
      exact ⟨.null, hleast, .string _, List.forall_mem_nil _⟩
    · simp only [r, List.forall_mem_cons]
      exact ⟨List.forall_mem_nil _, ⟨hconfig, List.forall_mem_nil _⟩, List.forall_mem_nil _,
        List.forall_mem_nil _⟩
    · simp only [r, List.forall_mem_cons]
      exact ⟨List.forall_mem_nil _, ⟨by decide, List.forall_mem_nil _⟩, List.forall_mem_nil _,
        List.forall_mem_nil _⟩
    · decide
  obtain ⟨hread, hsays, -⟩ := report_readable hr
  exact ⟨hr, (hread _).2, (hread _).2, hsays.metadata, hsays.documents _, hsays.documents _⟩

end Survey
end Groundplan
