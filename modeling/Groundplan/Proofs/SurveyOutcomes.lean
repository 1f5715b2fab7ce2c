import Groundplan.Proofs.FileVerdict
import Groundplan.Proofs.Outline

/-!
# What a survey reports

The documents and the failures of a survey are the verdicts of its files, in their order
(`convertAll_eq_ok_iff`), and the two lists interleave to the files (`interleaved_verdicts`).  A survey
that goes on after errors always succeeds (`convertAll_tolerant`).  One that does not go on needs
every file to convert (`convertAll_ok_iff`) and ends with the error of the first one that does not
(`convertAll_eq_error_iff`).  `survey_isolates` puts this together for the files below some roots: no
file can end the survey of the others or change their entries.
-/

namespace Groundplan

/-! ### Two sides of a list -/

/-- The third list holds the elements of the other two, those of each in their order. -/
inductive Interleaved {α : Type} : List α → List α → List α → Prop where
  | nil : Interleaved [] [] []
  | left {as bs cs : List α} (a : α) (h : Interleaved as bs cs) :
    Interleaved (a :: as) bs (a :: cs)
  | right {as bs cs : List α} (b : α) (h : Interleaved as bs cs) :
    Interleaved as (b :: bs) (b :: cs)

section Interleaved

variable {α : Type} {as bs cs as' bs' cs' : List α}

theorem Interleaved.length_eq (h : Interleaved as bs cs) : cs.length = as.length + bs.length := by
  induction h with
  | nil => rfl
  | left a h ih => rw [List.length_cons, List.length_cons, ih, Nat.add_right_comm]
  | right b h ih => rw [List.length_cons, List.length_cons, ih, Nat.add_assoc]

theorem Interleaved.append (h : Interleaved as bs cs) (h' : Interleaved as' bs' cs') :
    Interleaved (as ++ as') (bs ++ bs') (cs ++ cs') := by
  induction h with
  | nil => exact h'
  | left a h ih => exact ih.left a
  | right b h ih => exact ih.right b

end Interleaved

/-- The two sides of a list of choices interleave to the list. -/
theorem interleaved_sides {α β γ : Type} (f : α → γ) (g : β → γ) (choices : List (α ⊕ β)) :
    Interleaved ((choices.filterMap Sum.getLeft?).map f) ((choices.filterMap Sum.getRight?).map g)
      (choices.map (Sum.elim f g)) := by
  induction choices with
  | nil => exact .nil
  | cons choice rest ih =>
    cases choice with
    | inl a => exact .left (f a) ih
    | inr b => exact .right (g b) ih

/-- What is picked out of a list may be filtered before. -/
theorem filter_picked {α β : Type} {pick : α → Option β} {p : β → Bool} {q : α → Bool}
    (h : ∀ x y, pick x = some y → p y = q x) (xs : List α) :
    (xs.filterMap pick).filter p = (xs.filter q).filterMap pick := by
  rw [List.filter_filterMap, List.filterMap_filter]
  refine List.filterMap_congr fun x _ => ?_
  cases hpick : pick x with
  | none => exact (ite_self none).symm
  | some y => rw [← h x y hpick, Option.filter_some]

namespace Surveyor

variable {settings : Settings} {s : Surveyor}

/-! ### Converting files in turn -/

section Steps

variable {fs : FileSystem} {file : String} {document : ConvertedDocument} {e : Error}
  (files : List String)

theorem convertAll_cons_of_ok (h : s.documentOfFile fs file = .ok document) :
    s.convertAll fs (file :: files)
      = (fun out => (document :: out.1, out.2)) <$> s.convertAll fs files := by
  rw [convertAll, h]
  cases s.convertAll fs files with
  | ok out => rfl
  | error e => rfl

theorem convertAll_cons_of_tolerated (h : s.documentOfFile fs file = .error e)
    (he : s.tolerates e = true) :
    s.convertAll fs (file :: files)
      = (fun out => (out.1, .ofError file e :: out.2)) <$> s.convertAll fs files := by
  rw [convertAll, h]
  dsimp only
  rw [if_pos he]
  cases s.convertAll fs files with
  | ok out => rfl
  | error e => rfl

theorem convertAll_cons_of_refused (h : s.documentOfFile fs file = .error e)
    (he : s.tolerates e = false) : s.convertAll fs (file :: files) = .error e := by
  rw [convertAll, h]
  dsimp only
  rw [if_neg (by rw [he]; exact Bool.false_ne_true)]

end Steps

variable (fs fs' : FileSystem) (files : List String)

/-- The verdicts of files, in their order. -/
def verdicts (s : Surveyor) (fs : FileSystem) (files : List String) :
    List (ConvertedDocument ⊕ FailedFile) :=
  files.map fun file => s.verdict file (fs.readText file)

theorem verdicts_cons (file : String) :
    s.verdicts fs (file :: files) = s.verdict file (fs.readText file) :: s.verdicts fs files := rfl

theorem map_path_verdicts :
    (s.verdicts fs files).map (Sum.elim ConvertedDocument.path FailedFile.file) = files := by
  rw [verdicts, List.map_map]
  exact (List.map_congr_left fun file _ => verdict_path file _).trans (List.map_id files)

/-- The documents and the failures among the verdicts of files interleave to the files. -/
theorem interleaved_verdicts :
    Interleaved (((s.verdicts fs files).filterMap Sum.getLeft?).map ConvertedDocument.path)
      (((s.verdicts fs files).filterMap Sum.getRight?).map FailedFile.file) files := by
  have := interleaved_sides ConvertedDocument.path FailedFile.file (s.verdicts fs files)
  rwa [map_path_verdicts] at this

/-- The verdicts of some of the files are those that name them. -/
theorem verdicts_filter (keep : String → Bool) :
    s.verdicts fs (files.filter keep)
      = (s.verdicts fs files).filter
          (keep ∘ Sum.elim ConvertedDocument.path FailedFile.file) := by
  rw [verdicts, verdicts, List.filter_map]
  congr 1
  refine List.filter_congr fun file _ => ?_
  rw [Function.comp, Function.comp, verdict_path]

variable {fs fs'} in
/-- Files with the same content have the same verdicts. -/
theorem verdicts_congr (h : ∀ file ∈ files, fs'.readText file = fs.readText file) :
    s.verdicts fs' files = s.verdicts fs files := by
  refine List.map_congr_left fun file hfile => ?_
  rw [h file hfile]

variable {fs files} in
/-- Files are converted iff every error among them is tolerated, and then each of them adds its
verdict to the documents or to the failures. -/
theorem convertAll_eq_ok_iff {out : List ConvertedDocument × List FailedFile} :
    s.convertAll fs files = .ok out ↔
      (∀ file ∈ files, ∀ e, s.documentOfFile fs file = .error e → s.tolerates e = true) ∧
        out = ((s.verdicts fs files).filterMap Sum.getLeft?,
          (s.verdicts fs files).filterMap Sum.getRight?) := by
  induction files generalizing out with
  | nil =>
    rw [convertAll, Except.ok.injEq, eq_comm]
    exact (and_iff_right (List.forall_mem_nil _)).symm
  | cons file files ih =>
    rw [verdicts_cons, List.forall_mem_cons]
    cases hfile : s.documentOfFile fs file with
    | ok document =>
      rw [convertAll_cons_of_ok files hfile, map_eq_ok, verdict_of_ok hfile]
      constructor
      · rintro ⟨rest, hrest, rfl⟩
        obtain ⟨htolerated, rfl⟩ := ih.mp hrest
        exact ⟨⟨by rintro e ⟨⟩, htolerated⟩, rfl⟩
      · rintro ⟨⟨-, htolerated⟩, rfl⟩
        exact ⟨_, ih.mpr ⟨htolerated, rfl⟩, rfl⟩
    | error e =>
      cases htolerates : s.tolerates e with
      | true =>
        rw [convertAll_cons_of_tolerated files hfile htolerates, map_eq_ok, verdict_of_error hfile]
        constructor
        · rintro ⟨rest, hrest, rfl⟩
          obtain ⟨htolerated, rfl⟩ := ih.mp hrest
          refine ⟨⟨?_, htolerated⟩, rfl⟩
          rintro e' ⟨⟩
          exact htolerates
        · rintro ⟨⟨-, htolerated⟩, rfl⟩
          exact ⟨_, ih.mpr ⟨htolerated, rfl⟩, rfl⟩
      | false =>
        rw [convertAll_cons_of_refused files hfile htolerates]
        constructor
        · rintro ⟨⟩
        -- the error of this file would have to be tolerated
        · rintro ⟨⟨htolerated, -⟩, -⟩
          rw [htolerated e rfl] at htolerates
          cases htolerates

/-- Where every error is tolerated, the conversion succeeds. -/
theorem convertAll_tolerant
    (h : ∀ file e, s.documentOfFile fs file = .error e → s.tolerates e = true) :
    s.convertAll fs files
      = .ok ((s.verdicts fs files).filterMap Sum.getLeft?,
          (s.verdicts fs files).filterMap Sum.getRight?) :=
  convertAll_eq_ok_iff.mpr ⟨fun file _ => h file, rfl⟩

variable {fs fs'}

/-- Where no error is tolerated, all files have to convert. -/
theorem convertAll_ok_iff (h : ∀ e, s.tolerates e = false) :
    (∃ out, s.convertAll fs files = .ok out) ↔
      ∀ file ∈ files, ∃ document, s.documentOfFile fs file = .ok document := by
  simp only [convertAll_eq_ok_iff, exists_and_left, exists_eq, and_true]
  refine forall₂_congr fun file _ => ?_
  cases s.documentOfFile fs file with
  | ok document => simp
  | error e => simp [h e]

/-- The first of the files that does not convert ends with the error. -/
def FirstError (s : Surveyor) (fs : FileSystem) (files : List String) (e : Error) : Prop :=
  ∃ before file after, files = before ++ file :: after ∧
    (∀ f ∈ before, ∃ document, s.documentOfFile fs f = .ok document) ∧
      s.documentOfFile fs file = .error e

theorem not_firstError_nil (e : Error) : ¬ s.FirstError fs [] e := by
  rintro ⟨before, file, after, hfiles, -⟩
  exact List.cons_ne_nil file after (List.append_eq_nil_iff.mp hfiles.symm).2

theorem firstError_cons_of_ok {first : String} {document : ConvertedDocument} {e : Error}
    (h : s.documentOfFile fs first = .ok document) :
    s.FirstError fs (first :: files) e ↔ s.FirstError fs files e := by
  constructor
  · rintro ⟨before, file, after, hfiles, hbefore, hfile⟩
    cases before with
    | nil =>
      obtain ⟨rfl, rfl⟩ := List.cons.inj hfiles
      rw [h] at hfile
      cases hfile
    | cons b before =>
      obtain ⟨rfl, rfl⟩ := List.cons.inj hfiles
      exact ⟨before, file, after, rfl, (List.forall_mem_cons.mp hbefore).2, hfile⟩
  · rintro ⟨before, file, after, rfl, hbefore, hfile⟩
    refine ⟨first :: before, file, after, rfl, ?_, hfile⟩
    exact List.forall_mem_cons.mpr ⟨⟨document, h⟩, hbefore⟩

theorem firstError_cons_of_error {first : String} {e e' : Error}
    (h : s.documentOfFile fs first = .error e') : s.FirstError fs (first :: files) e ↔ e' = e := by
  constructor
  · rintro ⟨before, file, after, hfiles, hbefore, hfile⟩
    cases before with
    | nil =>
      obtain ⟨rfl, rfl⟩ := List.cons.inj hfiles
      exact Except.error.inj (h.symm.trans hfile)
    | cons b before =>
      obtain ⟨rfl, rfl⟩ := List.cons.inj hfiles
      obtain ⟨document, hdocument⟩ := (List.forall_mem_cons.mp hbefore).1
      rw [h] at hdocument
      cases hdocument
  · rintro rfl
    exact ⟨[], first, files, rfl, List.forall_mem_nil _, h⟩

/-- Where no error is tolerated, the first error counts. -/
theorem convertAll_eq_error_iff (h : ∀ e, s.tolerates e = false) (e : Error) :
    s.convertAll fs files = .error e ↔ s.FirstError fs files e := by
  induction files with
  | nil =>
    rw [convertAll, iff_false_right (not_firstError_nil e)]
    exact fun h => nomatch h
  | cons first files ih =>
    cases hfirst : s.documentOfFile fs first with
    | ok document =>
      rw [convertAll_cons_of_ok files hfirst, map_eq_error, ih, firstError_cons_of_ok files hfirst]
    | error e' =>
      rw [convertAll_cons_of_refused files hfirst (h e'), firstError_cons_of_error files hfirst,
        Except.error.injEq]

/-! ### Surveys -/

variable {roots : List String} {found : String → List String}

theorem discoverAll_eq (h : ∀ root ∈ roots, s.discover fs root = .ok (found root)) :
    s.discoverAll fs roots = .ok (roots.flatMap found) := by
  induction roots with
  | nil => rfl
  | cons root roots ih =>
    obtain ⟨hroot, hroots⟩ := List.forall_mem_cons.mp h
    rw [discoverAll, hroot, ok_bind, ih hroots, ok_bind, List.flatMap_cons]
    rfl

/-- A survey is the conversion of the files below its roots, one root after the other. -/
theorem survey_eq (h : ∀ root ∈ roots, s.discover fs root = .ok (found root)) :
    s.survey fs roots
      = (fun out => ⟨out.1, out.2, roots.flatMap found, ⟨s.dialect.name, s.dialect.version⟩⟩) <$>
          s.convertAll fs (roots.flatMap found) := by
  rw [survey, discoverAll_eq h, ok_bind]
  cases s.convertAll fs (roots.flatMap found) with
  | ok out => rfl
  | error e => rfl

theorem discover_of_holds {root : String} (h : fs.holds root = true) :
    ∃ files, s.discover fs root = .ok files := by
  unfold discover Discovery.discover
  obtain ⟨tree, htree⟩ := Option.isSome_iff_exists.mp h
  rw [htree]
  exact ⟨_, rfl⟩

/-- The survey has one entry for each of its files, in their order: a document where the verdict of
the file is one, and otherwise a failure. -/
structure Reports (s : Surveyor) (fs : FileSystem) (r : Survey) : Prop where
  documents : r.documents = (s.verdicts fs r.files).filterMap Sum.getLeft?
  failures : r.failures = (s.verdicts fs r.files).filterMap Sum.getRight?
  interleaved : Interleaved (r.documents.map (·.path)) (r.failures.map (·.file)) r.files

/-- A survey that tolerates every error of a file succeeds. -/
theorem survey_tolerant (hfound : ∀ root ∈ roots, s.discover fs root = .ok (found root))
    (h : ∀ file e, s.documentOfFile fs file = .error e → s.tolerates e = true) :
    ∃ r, s.survey fs roots = .ok r ∧ r.files = roots.flatMap found ∧ s.Reports fs r := by
  rw [survey_eq hfound, convertAll_tolerant fs _ h, map_ok]
  exact ⟨_, rfl, rfl, rfl, rfl, interleaved_verdicts fs _⟩

variable {r r' : Survey} {keep : String → Bool}

/-- Two surveys have the same entries for some files. -/
def SameEntries (keep : String → Bool) (r r' : Survey) : Prop :=
  r'.documents.filter (keep ·.path) = r.documents.filter (keep ·.path) ∧
    r'.failures.filter (keep ·.file) = r.failures.filter (keep ·.file)

/-- Two surveys of the same files have the same entries for those with the same content. -/
theorem Reports.sameEntries (hr : s.Reports fs r) (hr' : s.Reports fs' r')
    (hfiles : r'.files = r.files)
    (hkeep : ∀ file ∈ r.files, keep file = true → fs'.readText file = fs.readText file) :
    SameEntries keep r r' := by
  -- the kept files have the same verdicts
  have hverdicts : s.verdicts fs' (r.files.filter keep) = s.verdicts fs (r.files.filter keep) := by
    refine verdicts_congr _ fun file hfile => ?_
    obtain ⟨hmem, hkept⟩ := List.mem_filter.mp hfile
    exact hkeep file hmem hkept
  rw [verdicts_filter, verdicts_filter] at hverdicts
  rw [SameEntries, hr.documents, hr'.documents, hr.failures, hr'.failures, hfiles]
  constructor
  · have hpick : ∀ (x : ConvertedDocument ⊕ FailedFile) d, x.getLeft? = some d →
        keep d.path = (keep ∘ Sum.elim ConvertedDocument.path FailedFile.file) x := by
      intro x d hx
      rw [Sum.getLeft?_eq_some_iff.mp hx]
      rfl
    rw [filter_picked hpick, filter_picked hpick, hverdicts]
  · have hpick : ∀ (x : ConvertedDocument ⊕ FailedFile) f, x.getRight? = some f →
        keep f.file = (keep ∘ Sum.elim ConvertedDocument.path FailedFile.file) x := by
      intro x f hx
      rw [Sum.getRight?_eq_some_iff.mp hx]
      rfl
    rw [filter_picked hpick, filter_picked hpick, hverdicts]

/-- **One file at a time.**  With roots that are there, a survey that goes on after errors succeeds:
it finds the files below each root, one root after the other, and it has one entry for each of them,
which the path and the content of the file decide.  Another content of some files changes no entry
but theirs.  A survey that ends at an error succeeds iff every file converts, and otherwise it has
the error of the first file that does not. -/
theorem survey_isolates (hs : ofSettings settings = .ok s) (fs : FileSystem) (roots : List String)
    (hroots : ∀ root ∈ roots, fs.holds root = true) :
    ∃ found : String → List String,
      (∀ root ∈ roots, s.discover fs root = .ok (found root)) ∧
      (settings.scan.continueOnError = true →
        ∃ r, s.survey fs roots = .ok r ∧ r.files = roots.flatMap found ∧ s.Reports fs r ∧
          ∀ fs' : FileSystem, fs'.outline = fs.outline →
            ∃ r', s.survey fs' roots = .ok r' ∧ r'.files = r.files ∧ s.Reports fs' r' ∧
              ∀ keep : String → Bool,
                (∀ file ∈ r.files, keep file = true → fs'.readText file = fs.readText file) →
                SameEntries keep r r') ∧
      (settings.scan.continueOnError = false →
        ((∃ r, s.survey fs roots = .ok r) ↔
          ∀ file ∈ roots.flatMap found, ∃ document, s.documentOfFile fs file = .ok document) ∧
        ∀ e, s.survey fs roots = .error e ↔ s.FirstError fs (roots.flatMap found) e) := by
  obtain ⟨rfl, -⟩ := dialect_of_ofSettings hs
  -- every root is there, so each discovery succeeds
  have hfiles : ∀ root, ∃ files, root ∈ roots → s.discover fs root = .ok files := by
    intro root
    by_cases hroot : root ∈ roots
    · obtain ⟨files, h⟩ := discover_of_holds (hroots root hroot)
      exact ⟨files, fun _ => h⟩
    · exact ⟨[], fun h => absurd h hroot⟩
  choose found hfound using hfiles
  refine ⟨found, hfound, fun hgoes => ?_, fun hends => ?_⟩
  · have htolerates : ∀ (fs : FileSystem) (file : String) (e : Error),
        s.documentOfFile fs file = .error e → s.tolerates e = true := by
      intro fs file e he
      rw [tolerates, hgoes, documentOfContent_fails hs file _ e he]
      rfl
    obtain ⟨r, hr, hrfiles, hreports⟩ := survey_tolerant hfound (htolerates fs)
    refine ⟨r, hr, hrfiles, hreports, fun fs' houtline => ?_⟩
    -- the same files are found, whatever they hold now
    have hfound' : ∀ root ∈ roots, s.discover fs' root = .ok (found root) := by
      intro root hroot
      rw [← hfound root hroot]
      exact Discovery.discover_of_outline houtline _ _ _ _
    obtain ⟨r', hr', hrfiles', hreports'⟩ := survey_tolerant hfound' (htolerates fs')
    have hsame : r'.files = r.files := hrfiles'.trans hrfiles.symm
    exact ⟨r', hr', hsame, hreports', fun keep => hreports.sameEntries hreports' hsame⟩
  · have hrefuses : ∀ e, s.tolerates e = false := by
      intro e
      rw [tolerates, hends, Bool.false_and]
    rw [survey_eq hfound]
    constructor
    · rw [← convertAll_ok_iff _ hrefuses]
      constructor
      · rintro ⟨r, hr⟩
        obtain ⟨out, hout, -⟩ := map_eq_ok.mp hr
        exact ⟨out, hout⟩
      · rintro ⟨out, hout⟩
        exact ⟨_, map_eq_ok.mpr ⟨out, hout, rfl⟩⟩
    · intro e
      rw [map_eq_error, convertAll_eq_error_iff _ hrefuses]

/-- An empty document, one whose content changes, bytes that are no text, and a document below that
cannot be read. -/
theorem survey_isolates_mixed :
    let fs (content : List UInt8) : FileSystem := ⟨.directory [("r", .directory
      [("a.tf", .file []), ("b.tf", .file content), ("c.tf", .file [0xFF]),
        ("d", .directory [("e.tf", .file [0x3F])])])], []⟩
    let s : Surveyor := ⟨{}, .terraform "v14"⟩
    let strict : Surveyor := ⟨{ scan := { continueOnError := false } }, .terraform "v14"⟩
    let a : ConvertedDocument := ⟨"/r/a.tf", .object [], []⟩
    let b : ConvertedDocument := ⟨"/r/b.tf", .object [], []⟩
    let b' : FailedFile := ⟨"/r/b.tf", "upstream",
      "Failed to load '/r/b.tf' \n\t(@): HCL parse error in line 2, column 2"⟩
    let c : FailedFile := ⟨"/r/c.tf", "io",
      "I/O error at '/r/c.tf' (@): stream did not contain valid UTF-8"⟩
    let e : FailedFile := ⟨"/r/d/e.tf", "upstream",
      "Failed to load '/r/d/e.tf' \n\t(@): HCL parse error in line 1, column 1"⟩
    let r : Survey := ⟨[a, b], [c, e], ["/r/a.tf", "/r/b.tf", "/r/c.tf", "/r/d/e.tf"],
      ⟨"terraform", "v14"⟩⟩
    let r' : Survey := { r with documents := [a], failures := [b', c, e] }
    let changed : List UInt8 := [0x0A, 0x20, 0x3F]
    (ofSettings s.settings = .ok s ∧ ofSettings strict.settings = .ok strict ∧
      (fs []).holds "/r" = true) ∧
    (s.survey (fs []) ["/r"] = .ok r ∧ s.Reports (fs []) r ∧
      s.survey (fs changed) ["/r"] = .ok r' ∧ s.Reports (fs changed) r' ∧
        SameEntries (fun file => file ≠ "/r/b.tf") r r') ∧
    strict.survey (fs changed) ["/r"]
      = .error (.unreadable "/r/b.tf" "HCL parse error in line 2, column 2") := by
  intro fs s strict a b b' c e r r' changed
  have hs : ofSettings s.settings = .ok s := by rfl
  have hstrict : ofSettings strict.settings = .ok strict := by rfl
  have hroots : ∀ content, ∀ root ∈ ["/r"], (fs content).holds root = true := by
    intro content root hroot
    rw [List.mem_singleton.mp hroot]
    rfl
  refine ⟨⟨hs, hstrict, hroots [] "/r" List.mem_cons_self⟩, ?_, ?_⟩
  · obtain ⟨found, -, hgoes, -⟩ := survey_isolates hs (fs []) ["/r"] (hroots [])
    obtain ⟨before, hbefore, -, hreports, hchange⟩ := hgoes rfl
    obtain ⟨after, hafter, -, hreports', hkept⟩ := hchange (fs changed) rfl
    have hr : s.survey (fs []) ["/r"] = .ok r := by rfl
    have hr' : s.survey (fs changed) ["/r"] = .ok r' := by rfl
    obtain rfl : before = r := Except.ok.inj (hbefore.symm.trans hr)
    obtain rfl : after = r' := Except.ok.inj (hafter.symm.trans hr')
    refine ⟨hr, hreports, hr', hreports', ?_⟩
    refine hkept (fun file => file ≠ "/r/b.tf") fun file hfile hne => ?_
    revert file
    decide
  · obtain ⟨found, hfound, -, hends⟩ :=
      survey_isolates hstrict (fs changed) ["/r"] (hroots changed)
    have hfiles : ["/r"].flatMap found = "/r/a.tf" :: "/r/b.tf" :: r.files.drop 2 := by
      have : strict.discover (fs changed) "/r" = .ok r.files := by rfl
      rw [List.flatMap_singleton]
      exact Except.ok.inj ((hfound "/r" List.mem_cons_self).symm.trans this)
    refine (hends rfl).2 _ |>.mpr ⟨["/r/a.tf"], "/r/b.tf", r.files.drop 2, hfiles, ?_, by rfl⟩
    intro f hf
    rw [List.mem_singleton.mp hf]
    exact ⟨a, by rfl⟩

end Surveyor
end Groundplan
