import Groundplan.Proofs.ReportReading
import Groundplan.Proofs.SurveyRoots
import Mathlib.Algebra.Ring.Nat

/-!
# Documents in a report and in its survey

A report has the documents under the texts of their paths, and of those at one text the last one.
`document?` compares paths by their components and gives the first document.  Where no two documents
have the same path (`PathsDiffer`), neither choice arises: the report has every document
(`PathsDiffer.documents_perm`), and `document?` finds it under each spelling of its path
(`PathsDiffer.document?_of_same`).

How many there are follows from how surveys come about.  Each file of a survey has its verdict
(`reports_of_survey`), so its documents and failures interleave to its files, and merging keeps this
(`Gathered.interleaved`).  `content_matches_documents` states all of it.
-/

namespace Groundplan

/-! ### Spellings of a path -/

namespace Path

theorem same_iff {a b : String} : same a b = true ↔ components a = components b := beq_iff_eq

theorem same_self (path : String) : same path path = true := same_iff.mpr rfl

end Path

/-! ### Every file has its verdict -/

namespace Surveyor

variable {s : Surveyor} {fs : FileSystem}

theorem reports_of_survey {roots : List String} {r : Survey} (h : s.survey fs roots = .ok r) :
    s.Reports fs r := by
  obtain ⟨-, hconvert, -⟩ := survey_eq_ok.mp h
  obtain ⟨-, hout⟩ := convertAll_eq_ok_iff.mp hconvert
  obtain ⟨hdocuments, hfailures⟩ := Prod.mk.inj hout
  refine ⟨hdocuments, hfailures, ?_⟩
  rw [hdocuments, hfailures]
  exact interleaved_verdicts fs r.files

end Surveyor

/-! ### Surveys that come about -/

namespace Survey

open Entries

/-- The surveys of roots and what is merged from them. -/
inductive Gathered : Survey → Prop where
  | empty : Gathered {}
  | survey {s : Surveyor} {fs : FileSystem} {roots : List String} {r : Survey}
    (h : s.survey fs roots = .ok r) : Gathered r
  | merge {a b : Survey} (ha : Gathered a) (hb : Gathered b) : Gathered (a.merge b)

variable {r : Survey}

/-- The documents and the failures of a survey are its files, each of them once. -/
theorem Gathered.interleaved (h : r.Gathered) :
    Interleaved (r.documents.map (·.path)) (r.failures.map (·.file)) r.files := by
  -- by how the survey came about: a scan has it, and merging appends on all three sides
  induction h with
  | empty => exact .nil
  | survey h => exact (Surveyor.reports_of_survey h).interleaved
  | merge ha hb iha ihb =>
    simp only [Survey.merge, List.map_append]
    exact iha.append ihb

theorem Gathered.length_files (h : r.Gathered) :
    r.files.length = r.documents.length + r.failures.length := by
  rw [h.interleaved.length_eq, List.length_map, List.length_map]

/-! ### Documents with different paths -/

/-- No two documents have the same path. -/
def PathsDiffer (r : Survey) : Prop :=
  r.documents.Pairwise fun d d' => Path.same d.path d'.path = false

namespace PathsDiffer

/-- Different paths have different texts. -/
theorem nodup_paths (h : r.PathsDiffer) : (r.documents.map (·.path)).Nodup := by
  rw [List.nodup_iff_pairwise_ne, List.pairwise_map]
  refine List.Pairwise.imp (fun hdiffer heq => ?_) h
  -- one text is no two paths
  rw [heq, Path.same_self] at hdiffer
  cases hdiffer

theorem documents_perm (h : r.PathsDiffer) :
    r.content.documents.Perm (r.documents.map fun d => (d.path, d.value)) := by
  refine ofPairs_perm ?_
  rw [List.map_map]
  exact h.nodup_paths

theorem length_documents (h : r.PathsDiffer) :
    r.content.documents.length = r.documents.length := by
  rw [h.documents_perm.length_eq, List.length_map]

variable {d : ConvertedDocument}

theorem find?_content (h : r.PathsDiffer) (hd : d ∈ r.documents) :
    find? r.content.documents d.path = some d.value := by
  refine (ordered_ofPairs _).find?_of_mem ?_
  exact h.documents_perm.mem_iff.mpr (List.mem_map.mpr ⟨d, hd, rfl⟩)

/-- A document is found under each spelling of its path. -/
theorem document?_of_same (h : r.PathsDiffer) (hd : d ∈ r.documents) {path : String}
    (hsame : Path.same d.path path = true) : r.document? path = some d.value := by
  obtain ⟨before, after, hsplit⟩ := List.append_of_mem hd
  rw [PathsDiffer, hsplit, List.pairwise_append] at h
  obtain ⟨-, -, hbefore⟩ := h
  -- a document before it with the same path would have the same path as it
  have hnone : before.find? (fun d' => Path.same d'.path path) = none := by
    rw [List.find?_eq_none]
    intro d' hd' hsame'
    have hcomponents : Path.components d'.path = Path.components d.path :=
      (Path.same_iff.mp hsame').trans (Path.same_iff.mp hsame).symm
    have hdiffer : Path.same d'.path d.path = false := hbefore d' hd' d List.mem_cons_self
    rw [Path.same_iff.mpr hcomponents] at hdiffer
    cases hdiffer
  rw [document?, hsplit, List.find?_append, hnone, Option.none_or,
    List.find?_cons_of_pos (by simpa using hsame)]
  rfl

end PathsDiffer

theorem document?_of_none_same {path : String}
    (h : ∀ d ∈ r.documents, Path.same d.path path = false) : r.document? path = none := by
  rw [document?, Option.map_eq_none_iff, List.find?_eq_none]
  intro d hd hsame
  rw [h d hd] at hsame
  cases hsame

/-- The groups have as many records as the documents. -/
theorem sum_length_resources (r : Survey) :
    (r.content.resources.map (·.2.length)).sum = (r.documents.map (·.resources.length)).sum := by
  have hgroups := r.isGrouping_recordsByType.perm.length_eq
  rw [records, List.length_flatMap, List.length_flatMap] at hgroups
  exact hgroups

/-- **The documents of a report.**  Where no two documents of a survey have the same path, its report
has one entry for each of them, at the text of its path and with the value that `document?` gives for
any spelling of the path; for all other paths `document?` gives nothing.  The groups of the report have
as many records as the documents, and its failures are those of the survey.  If the survey is one of
roots or merged from such, the report counts as many files as it has documents and failures. -/
theorem content_matches_documents (h : r.PathsDiffer) :
    r.content.documents.Perm (r.documents.map fun d => (d.path, d.value)) ∧
    (∀ d ∈ r.documents, find? r.content.documents d.path = some d.value ∧
      r.document? d.path = some d.value ∧
      ∀ path, Path.same d.path path = true → r.document? path = some d.value) ∧
    (∀ path, (∀ d ∈ r.documents, Path.same d.path path = false) → r.document? path = none) ∧
    (r.content.resources.map (·.2.length)).sum = (r.documents.map (·.resources.length)).sum ∧
    r.content.failures = r.failures ∧
    (r.Gathered →
      r.content.metadata.fileCount = r.content.documents.length + r.content.failures.length) := by
  refine ⟨h.documents_perm, fun d hd => ?_, fun path => document?_of_none_same,
    r.sum_length_resources, rfl, fun hgathered => ?_⟩
  · have hfound : ∀ path, Path.same d.path path = true → r.document? path = some d.value :=
      fun path => h.document?_of_same hd
    exact ⟨h.find?_content hd, hfound d.path (Path.same_self d.path), hfound⟩
  · rw [h.length_documents]
    exact hgathered.length_files

/-- Three paths that differ by a point and a slash at the start, with records of one type and other
spellings to look under, and two surveys, one of them with a failure, that are merged. -/
theorem content_matches_documents_spellings :
    let record (source : String) (line : Nat) : ResourceRecord :=
      ⟨"t.n", "n", "t", source, line, .object []⟩
    let r : Survey :=
      { documents :=
          [⟨"a//b.tf", .null, [record "a//b.tf" 1, record "a//b.tf" 2]⟩, ⟨"./a/b.tf", .bool true, []⟩,
            ⟨"/a/b.tf", .bool false, [record "/a/b.tf" 1]⟩] }
    let fs : FileSystem := ⟨.directory [("p", .directory [("a.tf", .file [])]),
      ("q", .directory [("a.tf", .file []), ("b.tf", .file [0xFF])])], []⟩
    let s : Surveyor := ⟨{}, .terraform "v14"⟩
    (r.PathsDiffer ∧ r.content.documents.length = 3 ∧
      r.document? "a/./b.tf/" = find? r.content.documents "a//b.tf" ∧
      r.document? "//a/b.tf" = some (.bool false) ∧ r.document? "../a/b.tf" = none ∧
      (r.content.resources.map (·.2.length)).sum = 3) ∧
    ∃ a b, s.survey fs ["/p"] = .ok a ∧ s.survey fs ["/q", "/q/b.tf"] = .ok b ∧
      (a.merge b).PathsDiffer ∧ (a.merge b).content.metadata.fileCount = 4 ∧
      (a.merge b).content.documents.length + (a.merge b).content.failures.length = 4 := by
  intro record r fs s
  have hr : r.PathsDiffer := by
    unfold PathsDiffer
    decide
  obtain ⟨hperm, hfound, hnone, hsum, -⟩ := content_matches_documents hr
  obtain ⟨a, b, ha, hb, hdiffer, hcount⟩ : ∃ a b, s.survey fs ["/p"] = .ok a ∧
      s.survey fs ["/q", "/q/b.tf"] = .ok b ∧ (a.merge b).PathsDiffer ∧
        (a.merge b).content.metadata.fileCount = 4 := by
    refine ⟨_, _, by rfl, by rfl, ?_, by rfl⟩
    unfold PathsDiffer
    decide
  refine ⟨⟨hr, hperm.length_eq, ?_, ?_, hnone _ (by decide), hsum⟩, a, b, ha, hb, hdiffer, hcount, ?_⟩
  · obtain ⟨hentry, -, hspelling⟩ := hfound _ List.mem_cons_self
    rw [hentry, hspelling _ (by decide)]
  · obtain ⟨-, -, hspelling⟩ :=
      hfound _ (List.mem_cons_of_mem _ (List.mem_cons_of_mem _ List.mem_cons_self))
    exact hspelling _ (by decide)
  · obtain ⟨-, -, -, -, -, hfiles⟩ := content_matches_documents hdiffer
    rw [← hfiles (.merge (.survey ha) (.survey hb)), hcount]

end Survey
end Groundplan
