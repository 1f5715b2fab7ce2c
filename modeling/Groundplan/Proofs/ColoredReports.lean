import Groundplan.Proofs.WrittenJson
import Groundplan.Report.Summary
import Mathlib.Algebra.Ring.Nat

/-!
# Colours of text reports

A sequence is an escape character, a bracket, digits and semicolons, and a final `m`; `Ink.visible`
removes them from a text.  What is written `Shows` what is seen if that holds in front of every
text, so that the parts of a report can be taken one by one: text without escape characters shows
itself, and a colour shows the text that it is given to (`Ink.shows_paint`).  A table holds its cells
and strokes (`Table.mem_of_mem_text`), so no escape character unless a cell has one.  Hence a
report in colours shows the report without (`Survey.WithoutEscapes.shows_summary`), and both show the
same counts (`Survey.WithoutEscapes.showsCounts_iff`).
-/

namespace Groundplan

/-! ### Members of lists of lists -/

/-- What joined lists hold is of one of them or of what stands between them. -/
theorem mem_of_mem_intercalate {α : Type} {a : α} {between : List α} {ls : List (List α)}
    (h : a ∈ between.intercalate ls) : a ∈ between ∨ ∃ l ∈ ls, a ∈ l := by
  induction ls with
  | nil => cases h
  | cons l rest ih =>
    cases rest with
    | nil =>
      rw [List.intercalate_singleton] at h
      exact .inr ⟨l, List.mem_cons_self, h⟩
    | cons next rest =>
      rw [List.intercalate_cons_cons, List.mem_append, List.mem_append] at h
      rcases h with (hl | hbetween) | hrest
      · exact .inr ⟨l, List.mem_cons_self, hl⟩
      · exact .inl hbetween
      · exact (ih hrest).imp_right fun ⟨l', hl', ha⟩ => ⟨l', List.mem_cons_of_mem _ hl', ha⟩

theorem exists_mem_of_mem_getD {α : Type} {a : α} {ls : List (List α)} {i : Nat}
    (h : a ∈ ls.getD i []) : ∃ l ∈ ls, a ∈ l := by
  rw [List.getD_eq_getElem?_getD] at h
  cases hget : ls[i]? with
  | none =>
    rw [hget] at h
    cases h
  | some l =>
    rw [hget] at h
    exact ⟨l, List.mem_of_getElem? hget, h⟩

namespace Ink

/-! ### Sequences -/

/-- The character that every sequence starts with. -/
def escape : Char := '\x1b'

/-- Whether a character may stand between the bracket of a sequence and its end. -/
def isCode (c : Char) : Bool := c.isDigit || c == ';'

/-- How many characters the sequence has that a text begins with; none if there is no sequence. -/
def sequenceLength : List Char → Nat
  | '\x1b' :: '[' :: rest =>
    let codes := rest.takeWhile isCode
    if rest[codes.length]? = some 'm' then codes.length + 3 else 0
  | _ => 0

/-- A text behind its first `skipped` characters without the sequences there. -/
def visibleBehind : Nat → List Char → List Char
  | _, [] => []
  | skipped + 1, _ :: rest => visibleBehind skipped rest
  | 0, c :: rest =>
    match sequenceLength (c :: rest) with
    | 0 => c :: visibleBehind 0 rest
    | more + 1 => visibleBehind more rest

/-- A text without its sequences. -/
def visible (text : List Char) : List Char := visibleBehind 0 text

theorem visibleBehind_eq (skipped : Nat) (text : List Char) :
    visibleBehind skipped text = visible (text.drop skipped) := by
  induction text generalizing skipped with
  | nil => cases skipped <;> rfl
  | cons c rest ih =>
    cases skipped with
    | zero => rfl
    | succ skipped => exact ih skipped

theorem visible_cons {c : Char} (rest : List Char) (hc : c ≠ escape) :
    visible (c :: rest) = c :: visible rest := by
  have hnone : sequenceLength (c :: rest) = 0 := by
    unfold sequenceLength
    split
    · rename_i heq
      exact absurd (List.cons.inj heq).1 hc
    · rfl
  rw [visible, visibleBehind, hnone]
  rfl

/-- What holds no escape character is seen as it is. -/
theorem visible_append {text : List Char} (rest : List Char) (h : escape ∉ text) :
    visible (text ++ rest) = text ++ visible rest := by
  induction text with
  | nil => rfl
  | cons c text ih =>
    rw [List.mem_cons, not_or] at h
    rw [List.cons_append, visible_cons _ (Ne.symm h.1), ih h.2, List.cons_append]

/-- A sequence is not seen. -/
theorem visible_sequence {codes : List Char} (rest : List Char)
    (h : ∀ c ∈ codes, isCode c = true) :
    visible ('\x1b' :: '[' :: (codes ++ 'm' :: rest)) = visible rest := by
  -- the final `m` is no code, so the codes end in front of it
  have hcodes : (codes ++ 'm' :: rest).takeWhile isCode = codes := by
    rw [List.takeWhile_append_of_pos h, List.takeWhile_cons_of_neg (by decide), List.append_nil]
  have hend : (codes ++ 'm' :: rest)[codes.length]? = some 'm' := by simp
  have hlength : sequenceLength ('\x1b' :: '[' :: (codes ++ 'm' :: rest)) = codes.length + 2 + 1 := by
    rw [sequenceLength, hcodes]
    exact if_pos hend
  have hdrop : ('[' :: (codes ++ 'm' :: rest)).drop (codes.length + 2) = rest := by
    simp [List.drop_append]
  rw [visible, visibleBehind, hlength]
  dsimp only
  rw [visibleBehind_eq, hdrop]

example : visible "a\x1b[1;97mb\x1b[0m \x1b[1".toList = "ab \x1b[1".toList := by decide

/-! ### Colours -/

/-- Whether all codes of a colour are numbers. -/
def isNumeric (ink : Ink) : Bool := ink.all fun code => code.toList.all Char.isDigit

variable {ink : Ink} {text : List Char}

/-- The start of a colour is not seen. -/
theorem visible_start (h : ink.isNumeric) (rest : List Char) :
    visible (ink.start ++ rest) = visible rest := by
  have hcodes : ∀ c ∈ (";".intercalate ink).toList, isCode c = true := by
    intro c hc
    rw [String.toList_intercalate] at hc
    rcases mem_of_mem_intercalate hc with hsemicolon | ⟨code, hcode, hdigit⟩
    · obtain rfl := List.mem_singleton.mp hsemicolon
      rfl
    · obtain ⟨digits, hdigits, rfl⟩ := List.mem_map.mp hcode
      have hall : digits.toList.all Char.isDigit = true := List.all_eq_true.mp h digits hdigits
      rw [isCode, List.all_eq_true.mp hall c hdigit, Bool.true_or]
  rw [start, List.cons_append, List.cons_append, List.append_assoc, List.cons_append,
    List.cons_append]
  exact visible_sequence rest hcodes

/-- The end of a colour is not seen. -/
theorem visible_reset (rest : List Char) : visible (reset ++ rest) = visible rest := by
  have hcode : ∀ c ∈ ['0'], isCode c = true := List.all_eq_true.mp (by decide)
  exact visible_sequence rest hcode

/-- Where no sequence stands inside, the colour need not be resumed. -/
theorem resume_eq_self (h : escape ∉ text) : ink.resume text = text := by
  induction text with
  | nil => rfl
  | cons c rest ih =>
    rw [List.mem_cons, not_or] at h
    rw [resume.eq_def]
    split
    · rename_i heq
      exact absurd (List.cons.inj heq).1.symm h.1
    · rename_i heq
      obtain ⟨rfl, rfl⟩ := List.cons.inj heq
      rw [ih h.2]
    · rename_i heq
      cases heq

theorem paint_false (text : String) : ink.paint false text = text := rfl

/-! ### What is seen of a text -/

/-- In front of every text the written text is seen as the other one. -/
def Shows (written seen : String) : Prop :=
  ∀ rest, visible (written.toList ++ rest) = seen.toList ++ visible rest

theorem Shows.append {a b a' b' : String} (h : Shows a a') (h' : Shows b b') :
    Shows (a ++ b) (a' ++ b') := by
  intro rest
  rw [String.toList_append, String.toList_append, List.append_assoc, h, h', List.append_assoc]

theorem shows_self {text : String} (h : escape ∉ text.toList) : Shows text text :=
  fun rest => visible_append rest h

/-- A colour shows the text that it is given to. -/
theorem shows_paint (colored : Bool) (hink : ink.isNumeric) {text : String}
    (h : escape ∉ text.toList) : Shows (ink.paint colored text) text := by
  cases colored with
  | false => exact shows_self h
  | true =>
    intro rest
    rw [paint, if_pos rfl, String.toList_ofList, List.append_assoc, List.append_assoc,
      visible_start hink, resume_eq_self h, visible_append _ h, visible_reset]

theorem Shows.append_self {written seen text : String} (h : Shows written seen)
    (htext : escape ∉ text.toList) : Shows (written ++ text) (seen ++ text) :=
  h.append (shows_self htext)

theorem Shows.append_paint {written seen text : String} (h : Shows written seen) (colored : Bool)
    (hink : ink.isNumeric) (htext : escape ∉ text.toList) :
    Shows (written ++ ink.paint colored text) (seen ++ text) :=
  h.append (shows_paint colored hink htext)

theorem Shows.ite {p : Prop} [Decidable p] {a b a' b' : String} (h : Shows a a') (h' : Shows b b') :
    Shows (if p then a else b) (if p then a' else b') := by
  split
  · exact h
  · exact h'

theorem Shows.visible_eq {written seen : String} (h : Shows written seen) :
    visible written.toList = seen.toList := by
  have hall := h []
  rwa [List.append_nil, show visible [] = [] from rfl, List.append_nil] at hall

end Ink

/-! ### Tables -/

namespace Table

variable {c : Char}

/-- The characters that a table is drawn with. -/
def strokes : List Char := ['┌', '─', '┐', '╞', '═', '╡', '└', '┘', '│', ' ', '\n']

theorem mem_of_mem_lines {text line : List Char} (hline : line ∈ lines text) (hc : c ∈ line) :
    c ∈ text := by
  induction text generalizing line with
  | nil =>
    obtain rfl := List.mem_singleton.mp hline
    cases hc
  | cons d rest ih =>
    rw [lines] at hline
    split at hline
    · rcases List.mem_cons.mp hline with rfl | hline
      · cases hc
      · exact List.mem_cons_of_mem _ (ih hline hc)
    · split at hline
      · rw [List.mem_singleton.mp hline] at hc
        exact List.mem_cons.mpr (.inl (List.mem_singleton.mp hc))
      · rename_i first more hlines
        rw [hlines] at ih
        rcases List.mem_cons.mp hline with rfl | hline
        · rcases List.mem_cons.mp hc with rfl | hc
          · exact List.mem_cons_self
          · exact List.mem_cons_of_mem _ (ih List.mem_cons_self hc)
        · exact List.mem_cons_of_mem _ (ih (List.mem_cons_of_mem _ hline) hc)

theorem mem_of_mem_pad {width : Nat} {line : List Char} (h : c ∈ pad width line) :
    c = ' ' ∨ c ∈ line := by
  simp only [pad, List.cons_append, List.mem_cons, List.mem_append, List.mem_replicate,
    List.not_mem_nil, or_false] at h
  rcases h with rfl | (hline | ⟨-, rfl⟩) | rfl
  · exact .inl rfl
  · exact .inr hline
  · exact .inl rfl
  · exact .inl rfl

theorem mem_of_mem_rowLine {ws : List Nat} {row : List (List (List Char))} {n : Nat}
    (h : c ∈ rowLine ws row n) : c ∈ strokes ∨ ∃ cell ∈ row, ∃ line ∈ cell, c ∈ line := by
  simp only [rowLine, List.cons_append, List.mem_cons, List.mem_append, List.not_mem_nil,
    or_false] at h
  rcases h with rfl | hcells | rfl | rfl
  · exact .inl (by decide)
  · rcases mem_of_mem_intercalate hcells with hblank | ⟨padded, hpadded, hc⟩
    · obtain rfl := List.mem_singleton.mp hblank
      exact .inl (by decide)
    · obtain ⟨⟨width, i⟩, -, rfl⟩ := List.mem_map.mp hpadded
      rcases mem_of_mem_pad hc with rfl | hc
      · exact .inl (by decide)
      · obtain ⟨line, hline, hc⟩ := exists_mem_of_mem_getD hc
        obtain ⟨cell, hcell, hline⟩ := exists_mem_of_mem_getD hline
        exact .inr ⟨cell, hcell, line, hline, hc⟩
  · exact .inl (by decide)
  · exact .inl (by decide)

theorem mem_of_mem_rowLines {ws : List Nat} {row : List String} (h : c ∈ rowLines ws (cells row)) :
    c ∈ strokes ∨ ∃ cell ∈ row, c ∈ cell.toList := by
  obtain ⟨n, -, hc⟩ := List.mem_flatMap.mp h
  refine (mem_of_mem_rowLine hc).imp_right ?_
  rintro ⟨_, hlines, line, hline, hc⟩
  obtain ⟨cell, hcell, rfl⟩ := List.mem_map.mp hlines
  exact ⟨cell, hcell, mem_of_mem_lines hline hc⟩

theorem mem_strokes_of_mem_frame {ws : List Nat} {left line right : Char} (hleft : left ∈ strokes)
    (hline : line ∈ strokes) (hright : right ∈ strokes) (h : c ∈ frame ws left line right) :
    c ∈ strokes := by
  simp only [frame, List.cons_append, List.mem_cons, List.mem_append, List.mem_replicate,
    List.not_mem_nil, or_false] at h
  rcases h with rfl | ⟨-, rfl⟩ | rfl <;> assumption

/-- A table adds strokes to what its cells hold. -/
theorem mem_of_mem_text {t : Table} (h : c ∈ t.text.toList) :
    c ∈ strokes ∨ ∃ row ∈ t.header :: t.rows, ∃ cell ∈ row, c ∈ cell.toList := by
  have hrow : ∀ row ∈ t.header :: t.rows, ∀ {ws}, c ∈ rowLines ws (cells row) →
      c ∈ strokes ∨ ∃ row ∈ t.header :: t.rows, ∃ cell ∈ row, c ∈ cell.toList :=
    fun row hrow ws hc => (mem_of_mem_rowLines hc).imp_right fun hcell => ⟨row, hrow, hcell⟩
  rw [text, String.toList_ofList] at h
  simp only [List.mem_append, List.mem_cons] at h
  rcases h with (((htop | rfl | hheader) | hruled) | rfl | hrows) | hbottom
  · exact .inl (mem_strokes_of_mem_frame (by decide) (by decide) (by decide) htop)
  · exact .inl (by decide)
  · exact hrow _ List.mem_cons_self hheader
  · exact .inl (mem_strokes_of_mem_frame (by decide) (by decide) (by decide) hruled)
  · exact .inl (by decide)
  · obtain ⟨_, hcells, hc⟩ := List.mem_flatMap.mp hrows
    obtain ⟨row, hmem, rfl⟩ := List.mem_map.mp hcells
    exact hrow row (List.mem_cons_of_mem _ hmem) hc
  · exact .inl (mem_strokes_of_mem_frame (by decide) (by decide) (by decide) hbottom)

end Table

/-! ### Sections of a report -/

namespace Survey

open Ink (escape Shows shows_self shows_paint)

variable {r : Survey}

/-- No escape character stands in the texts of a survey that its report quotes. -/
structure WithoutEscapes (r : Survey) : Prop where
  name : escape ∉ r.dialect.name.toList
  version : escape ∉ r.dialect.version.toList
  file : ∀ f ∈ r.failures, escape ∉ f.file.toList
  category : ∀ f ∈ r.failures, escape ∉ f.category.toList
  message : ∀ f ∈ r.failures, escape ∉ f.message.toList

theorem escape_notMem_toString (n : Nat) : escape ∉ (toString n).toList := by
  intro h
  rw [Nat.toString_eq_repr, Nat.toList_repr] at h
  have hdigit := Nat.isDigit_of_mem_toDigits (by decide) (by decide) h
  exact absurd hdigit (by decide)

theorem escape_notMem_ruler {c : Char} (hc : c ≠ escape) : escape ∉ (ruler c).toList := by
  rw [ruler, String.toList_ofList]
  exact fun h => hc (List.eq_of_mem_replicate h).symm

theorem shows_sectionHead (colored : Bool) {title : String} (h : escape ∉ title.toList) :
    Shows (sectionHead colored title) (sectionHead false title) :=
  shows_self (by decide)
    |>.append_paint colored (by decide) h
    |>.append_self (by decide)
    |>.append_self (escape_notMem_ruler (by decide))
    |>.append_self (by decide)

theorem shows_summaryCounts (r : Survey) (colored : Bool) :
    Shows (r.summaryCounts colored) (r.summaryCounts false) := by
  have hfailed := escape_notMem_toString r.failures.length
  exact shows_sectionHead colored (by decide)
    |>.append_self (by decide)
    |>.append_paint colored (by decide) (escape_notMem_toString r.documents.length)
    |>.append_self (by decide)
    |>.append (.ite (shows_self hfailed) (shows_paint colored (by decide) hfailed))
    |>.append_self (by decide)
    |>.append_self (by decide)
    |>.append_self (escape_notMem_toString r.recordCount)
    |>.append_self (by decide)
    |>.append_self (by decide)
    |>.append_self (escape_notMem_toString r.files.length)
    |>.append_self (by decide)

theorem shows_summaryEnd (r : Survey) (colored : Bool) :
    Shows (r.summaryEnd colored) (r.summaryEnd false) := by
  have hfailed :
      escape ∉ (toString r.failures.length ++ " file(s) could not be converted").toList := by
    rw [String.toList_append, List.mem_append, not_or]
    exact ⟨escape_notMem_toString _, by decide⟩
  exact shows_self (by decide)
    |>.append (.ite (shows_paint colored (by decide) (by decide))
      (shows_paint colored (by decide) hfailed))
    |>.append_self (by decide)

namespace WithoutEscapes

variable (h : r.WithoutEscapes) (colored : Bool)

include h

theorem shows_summaryHead : Shows (r.summaryHead colored) (r.summaryHead false) := by
  have hdialect : escape ∉ ("(" ++ r.dialect.name ++ " " ++ r.dialect.version ++ ")").toList := by
    simp only [String.toList_append, List.mem_append, not_or]
    exact ⟨⟨⟨⟨by decide, h.name⟩, by decide⟩, h.version⟩, by decide⟩
  exact shows_self (by decide)
    |>.append_paint colored (by decide) (by decide)
    |>.append_self (by decide)
    |>.append_paint colored (by decide) (by decide)
    |>.append_self (by decide)
    |>.append_paint colored (by decide) hdialect
    |>.append_self (by decide)
    |>.append_paint colored (by decide) (escape_notMem_ruler (by decide))
    |>.append_self (by decide)

theorem escape_notMem_table : escape ∉ (r.failureTable colored).text.toList := by
  intro hmem
  rcases Table.mem_of_mem_text hmem with hstroke | ⟨row, hrow, cell, hcell, hc⟩
  · exact absurd hstroke (by decide)
  rcases List.mem_cons.mp hrow with rfl | hrow
  · simp only [failureTable, List.mem_cons, List.not_mem_nil, or_false] at hcell
    rcases hcell with rfl | rfl | rfl <;> exact absurd hc (by decide)
  · obtain ⟨f, hf, rfl⟩ := List.mem_map.mp hrow
    simp only [List.mem_cons, List.not_mem_nil, or_false] at hcell
    rcases hcell with rfl | rfl | rfl
    · exact h.file f hf hc
    · exact h.category f hf hc
    · exact h.message f hf hc

theorem shows_summaryFailures : Shows (r.summaryFailures colored) (r.summaryFailures false) :=
  .ite (shows_self (by decide)) <|
    shows_sectionHead colored (by decide)
      |>.append_self (h.escape_notMem_table colored)
      |>.append_self (by decide)
      |>.append_self (by decide)

/-- A report in colours shows the one without. -/
theorem shows_summary : Shows (r.summary colored) (r.summary false) :=
  h.shows_summaryHead colored
    |>.append_self (by decide)
    |>.append (r.shows_summaryCounts colored)
    |>.append_self (by decide)
    |>.append (h.shows_summaryFailures colored)
    |>.append (r.shows_summaryEnd colored)

end WithoutEscapes

/-! ### Counts -/

/-- What a text report counts. -/
@[ext]
structure Counts where
  converted : Nat
  failed : Nat
  resources : Nat
  scanned : Nat
  deriving DecidableEq, Repr

/-- The counts of a survey. -/
def counts (r : Survey) : Counts :=
  ⟨r.documents.length, r.failures.length, (r.documents.map (·.resources.length)).sum, r.files.length⟩

/-- The lines that show counts. -/
def Counts.lines (k : Counts) : String :=
  "  " ++ toString k.converted ++ " converted | " ++ toString k.failed ++ " failed\n"
    ++ "  " ++ toString k.resources ++ " resources\n"
    ++ "  " ++ toString k.scanned ++ " files scanned\n"

/-- A number ends where a text that starts with a blank stands behind it. -/
theorem toString_append_inj {n n' : Nat} {text : String} {rest rest' : List Char}
    (htext : text.toList.head? = some ' ')
    (h : (toString n).toList ++ (text.toList ++ rest)
      = (toString n').toList ++ (text.toList ++ rest')) :
    n = n' ∧ rest = rest' := by
  have hends : ∀ rest, Json.EndsNumber (text.toList ++ rest) := by
    intro rest c hc
    rw [List.head?_append, htext] at hc
    obtain rfl := Option.some.inj hc
    decide
  have hdigits : ∀ n rest, Json.takeDigits ((toString n).toList ++ (text.toList ++ rest))
      = (Nat.toDigits 10 n, text.toList ++ rest) := by
    intro n rest
    rw [Nat.toString_eq_repr, Nat.toList_repr]
    exact Json.takeDigits_append
      (fun d hd => Nat.isDigit_of_mem_toDigits (by decide) (by decide) hd) (hends rest)
  have hboth := congrArg Json.takeDigits h
  rw [hdigits, hdigits, Prod.mk.injEq] at hboth
  refine ⟨?_, List.append_cancel_left hboth.2⟩
  rw [← Json.decimalValue_toDigits n, hboth.1, Json.decimalValue_toDigits]

/-- The lines tell the counts, whatever follows them. -/
theorem Counts.eq_of_lines_append {k k' : Counts} {rest rest' : List Char}
    (h : k.lines.toList ++ rest = k'.lines.toList ++ rest') : k = k' := by
  simp only [lines, String.toList_append, List.append_assoc, List.append_cancel_left_eq] at h
  obtain ⟨hconverted, h⟩ := toString_append_inj (by decide) h
  obtain ⟨hfailed, h⟩ := toString_append_inj (by decide) h
  obtain ⟨hresources, h⟩ := toString_append_inj (by decide) (List.append_cancel_left h)
  obtain ⟨hscanned, -⟩ := toString_append_inj (by decide) (List.append_cancel_left h)
  exact Counts.ext hconverted hfailed hresources hscanned

/-- What stands before the counts in a report for a dialect. -/
def beforeCounts (dialect : DialectVersion) : String :=
  ({ dialect } : Survey).summaryHead false ++ "\n" ++ sectionHead false "Summary"

/-- A report for the dialect shows the counts: without sequences it goes on with their lines behind
what stands before counts. -/
def ShowsCounts (dialect : DialectVersion) (report : String) (k : Counts) : Prop :=
  ∃ rest, Ink.visible report.toList = (beforeCounts dialect).toList ++ (k.lines.toList ++ rest)

theorem recordCount_eq (r : Survey) : r.recordCount = r.counts.resources := by
  rw [recordCount, records, List.length_flatMap]
  rfl

theorem summaryCounts_false (r : Survey) :
    r.summaryCounts false = sectionHead false "Summary" ++ r.counts.lines := by
  simp only [summaryCounts, Counts.lines, Ink.paint_false, ite_self, recordCount_eq,
    String.append_assoc]
  rfl

theorem exists_summary_eq (r : Survey) :
    ∃ rest, r.summary false = beforeCounts r.dialect ++ (r.counts.lines ++ rest) := by
  refine ⟨"\n" ++ (r.summaryFailures false ++ r.summaryEnd false), ?_⟩
  rw [summary, summaryCounts_false, beforeCounts]
  simp only [String.append_assoc]
  rfl

namespace WithoutEscapes

theorem showsCounts_iff (h : r.WithoutEscapes) (colored : Bool) (k : Counts) :
    ShowsCounts r.dialect (r.summary colored) k ↔ k = r.counts := by
  obtain ⟨tail, htail⟩ := r.exists_summary_eq
  rw [ShowsCounts, (h.shows_summary colored).visible_eq, htail, String.toList_append,
    String.toList_append]
  constructor
  · rintro ⟨rest, hrest⟩
    exact (Counts.eq_of_lines_append (List.append_cancel_left hrest)).symm
  · rintro rfl
    exact ⟨tail.toList, rfl⟩

end WithoutEscapes

/-- A report in colours starts its title with a sequence. -/
theorem escape_mem_summary (r : Survey) : escape ∈ (r.summary true).toList := by
  obtain ⟨rest, hrest⟩ : ∃ rest, (r.summary true).toList = '\n' :: escape :: rest := by
    simp only [summary, summaryHead, String.toList_append, List.append_assoc]
    exact ⟨_, rfl⟩
  rw [hrest]
  exact List.mem_cons_of_mem _ List.mem_cons_self

/-- **Colours add nothing but their sequences.**  Where no escape character stands in a survey, its
report in colours holds sequences, and without them it is the report that is written without colours;
both show the counts of the survey and no others. -/
theorem visible_summary (h : r.WithoutEscapes) :
    escape ∈ (r.summary true).toList ∧
    String.ofList (Ink.visible (r.summary true).toList) = r.summary false ∧
    ∀ colored k, ShowsCounts r.dialect (r.summary colored) k ↔
      k = ⟨r.documents.length, r.failures.length, (r.documents.map (·.resources.length)).sum,
        r.files.length⟩ := by
  refine ⟨r.escape_mem_summary, ?_, h.showsCounts_iff⟩
  rw [(h.shows_summary true).visible_eq, String.ofList_toList]

/-- Texts that look like counts or like the rest of a sequence, in a survey with failures and in one
without. -/
theorem visible_summary_lookalikes :
    let r : Survey :=
      { documents := [⟨"a.tf", .null, [⟨"t.n", "n", "t", "a.tf", 1, .object []⟩]⟩]
        failures := [⟨"ü.tf", "[31mio", "one\n[0m│two"⟩, ⟨"", "", ""⟩]
        files := ["a.tf", "ü.tf", ""]
        dialect := ⟨"[1;97m", "2)\n  9 converted | 9 failed\n  9 resources\n  9 files scanned\n"⟩ }
    let clean : Survey := { r with failures := [], files := ["a.tf"] }
    r.WithoutEscapes ∧ clean.WithoutEscapes ∧
      String.ofList (Ink.visible (r.summary true).toList) = r.summary false ∧
      String.ofList (Ink.visible (clean.summary true).toList) = clean.summary false ∧
      (∀ colored, ShowsCounts r.dialect (r.summary colored) ⟨1, 2, 1, 3⟩ ∧
        ¬ ShowsCounts r.dialect (r.summary colored) ⟨9, 9, 9, 9⟩ ∧
        ShowsCounts clean.dialect (clean.summary colored) ⟨1, 0, 1, 1⟩) := by
  intro r clean
  have hr : r.WithoutEscapes := ⟨by decide, by decide, by decide, by decide, by decide⟩
  have hclean : clean.WithoutEscapes := ⟨by decide, by decide, by decide, by decide, by decide⟩
  obtain ⟨-, hvisible, hcounts⟩ := visible_summary hr
  obtain ⟨-, hvisible', hcounts'⟩ := visible_summary hclean
  refine ⟨hr, hclean, hvisible, hvisible', fun colored => ⟨?_, ?_, ?_⟩⟩
  · exact (hcounts colored _).mpr rfl
  · rw [hcounts]
    decide
  · exact (hcounts' colored _).mpr rfl

end Survey
end Groundplan
