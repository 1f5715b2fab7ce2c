import Groundplan.Proofs.ConversionErrors
import Groundplan.Proofs.ReadingErrors
import Groundplan.Survey.Surveyor

/-!
# What becomes of one file

The path of a file and what reading it gave decide whether it ends with a document or with an error
(`documentOfContent`).  Whatever the file holds, the error concerns no other file
(`documentOfContent_fails`): a document is read or not, and its conversion fails for four reasons
only.  The `verdict` of a file is the entry that a survey has for it when it goes on after errors.
-/

namespace Groundplan.Surveyor

variable {settings : Settings} {s : Surveyor}

/-! ### The document of a file -/

/-- The canonical document of a file with what reading it gave. -/
def documentOfContent (s : Surveyor) (path : String) (content : Except FileSystem.Fault String) :
    Except Error ConvertedDocument :=
  match content with
  | .ok text => s.documentOfText text path
  | .error fault => .error (.inaccessible path fault.message)

theorem documentOfFile_eq (fs : FileSystem) (path : String) :
    s.documentOfFile fs path = s.documentOfContent path (fs.readText path) := rfl

theorem documentOfContent_path {path : String} {content : Except FileSystem.Fault String}
    {document : ConvertedDocument} (h : s.documentOfContent path content = .ok document) :
    document.path = path := by
  unfold documentOfContent documentOfText at h
  split at h
  · obtain ⟨d, hd, h⟩ := bind_eq_ok.mp h
    obtain ⟨value, -, h⟩ := bind_eq_ok.mp h
    obtain ⟨resources, -, h⟩ := bind_eq_ok.mp h
    rw [← Except.ok.inj h]
    exact Dialect.path_of_load hd
  · cases h

theorem dialect_of_ofSettings (hs : ofSettings settings = .ok s) :
    s.settings = settings ∧ ∃ version, s.dialect = .terraform version := by
  obtain ⟨d, hd, rfl⟩ := map_eq_ok.mp hs
  exact ⟨rfl, Registry.select_builtin hd⟩

/-- The conversion of a document that was read fails with an error of that document. -/
theorem converted_fails (s : Surveyor) (d : Document) :
    FailsWith (fun e => e.isLocal = true) (s.value d) ∧
      FailsWith (fun e => e.isLocal = true) (s.resources d) := by
  constructor
  · have hscope := Conversion.scope_fails (s.conversion d) 0 d.body
    exact (hscope.map _).mono fun e he => he.isLocal
  · have hrecords := Conversion.records_fails (s.conversion d) d.path d.body.blocks
    exact hrecords.mono fun e he => he.isLocal

/-- **Errors are local**: whatever reading a file gave, the error that it ends with concerns no other
file. -/
theorem documentOfContent_fails (hs : ofSettings settings = .ok s) (path : String)
    (content : Except FileSystem.Fault String) :
    FailsWith (fun e => e.isLocal = true) (s.documentOfContent path content) := by
  obtain ⟨-, version, hdialect⟩ := dialect_of_ofSettings hs
  unfold documentOfContent
  split
  · rename_i text
    -- reading fails in one way only, because the dialect is a version of Terraform
    have hload : FailsWith (fun e => e.isLocal = true) (s.dialect.load path text) := by
      rw [hdialect]
      refine FailsWith.map _ ((Dialect.readHcl_fails path text).mono ?_)
      rintro e ⟨message, rfl⟩
      rfl
    refine hload.bind fun d => ?_
    obtain ⟨hvalue, hresources⟩ := s.converted_fails d
    exact hvalue.bind fun value => hresources.bind fun resources => .ok _
  · exact .error rfl

/-! ### Its verdict -/

/-- What becomes of a file in a survey that goes on after errors: its document, or its failure with
the category and the message of the error. -/
def verdict (s : Surveyor) (path : String) (content : Except FileSystem.Fault String) :
    ConvertedDocument ⊕ FailedFile :=
  match s.documentOfContent path content with
  | .ok document => .inl document
  | .error e => .inr { file := path, category := e.category.name, message := e.message }

/-- The verdict of a file names the file. -/
theorem verdict_path (path : String) (content : Except FileSystem.Fault String) :
    Sum.elim ConvertedDocument.path FailedFile.file (s.verdict path content) = path := by
  unfold verdict
  split
  · rename_i document hdocument
    exact documentOfContent_path hdocument
  · rfl

variable {fs : FileSystem} {file : String}

theorem verdict_of_ok {document : ConvertedDocument} (h : s.documentOfFile fs file = .ok document) :
    s.verdict file (fs.readText file) = .inl document := by
  rw [verdict, ← documentOfFile_eq, h]

theorem verdict_of_error {e : Error} (h : s.documentOfFile fs file = .error e) :
    s.verdict file (fs.readText file) = .inr ⟨file, e.category.name, e.message⟩ := by
  rw [verdict, ← documentOfFile_eq, h]

end Groundplan.Surveyor
