import Groundplan.Proofs.AcceptedSettings
import Groundplan.Proofs.DiscoveredFiles

/-!
# Checking settings with the choices of a run

Settings are in range when they meet a list of conditions: one on the nesting depth, one on the
dialect's name, and one on each pattern.  Checking finds exactly one fault for each condition that is
broken, in the order of the conditions (`faults_report`), and the outcome holds just these faults
(`Error.gathered_gather`).  `overridden_checked` states this for settings with the choices of a run on
top, and says what such choices can change.
-/

namespace Groundplan

/-! ### Gathered errors -/

namespace Error

/-- The errors of an outcome: those inside the one that holds several, or else the only one. -/
def gathered : Except Error Unit → List Error
  | .ok () => []
  | .error (.several _ errors) => errors
  | .error e => [e]

variable {errors : List Error}

/-- An outcome holds the errors that it was gathered from. -/
theorem gathered_gather (h : ∀ e ∈ errors, e.IsBadSetting) : gathered (gather errors) = errors := by
  match errors, h with
  | [], _ => rfl
  | [only], h =>
    obtain ⟨key, message, rfl⟩ := h only List.mem_cons_self
    rfl
  | first :: second :: others, _ => rfl

/-- Errors become one that holds several iff there are at least two, and it holds and counts all of
them. -/
theorem gather_eq_several_iff (h : ∀ e ∈ errors, e.IsBadSetting) {count : Nat} {others : List Error} :
    gather errors = .error (.several count others) ↔
      2 ≤ errors.length ∧ others = errors ∧ count = errors.length := by
  match errors, h with
  | [], _ => simp [gather]
  | [only], h =>
    obtain ⟨key, message, rfl⟩ := h only List.mem_cons_self
    simp [gather]
  | first :: second :: rest, _ =>
    simp only [gather, Except.error.injEq, several.injEq, List.length_cons]
    constructor
    · rintro ⟨rfl, rfl⟩
      exact ⟨by omega, rfl, rfl⟩
    · rintro ⟨-, rfl, rfl⟩
      exact ⟨rfl, rfl⟩

end Error

/-! ### Conditions -/

namespace Settings

/-- What settings in range have to meet. -/
inductive Condition where
  | nesting (depth : Nat)
  | dialectName (text : String)
  | pattern (text : String)

namespace Condition

/-- Documents may nest, the dialect's name has a character that is no white space, and a pattern can
be read. -/
def Met : Condition → Prop
  | nesting depth => 1 ≤ depth
  | dialectName text => ∃ c ∈ text.toList, Text.isBlank c = false
  | pattern text => ∃ tokens, Glob.Pattern.read text = .ok tokens

/-- The error that a broken condition gives. -/
inductive Reports : Condition → Error → Prop where
  | nesting (depth : Nat) :
    Reports (.nesting depth) (.badSetting "conversion.max_nesting_depth" "must be at least 1")
  | dialectName (text : String) :
    Reports (.dialectName text) (.badSetting "dialect.name" "must not be empty")
  | pattern (text : String) (fault : Glob.Fault) (h : Glob.Pattern.read text = .error fault) :
    Reports (.pattern text)
      (.badSetting "scan.exclude_patterns" s!"invalid glob '{text}': {fault.message}")

/-- The fault that checking a condition finds. -/
def fault? : Condition → Option Error
  | nesting depth =>
    if depth = 0 then some (.badSetting "conversion.max_nesting_depth" "must be at least 1") else none
  | dialectName text =>
    if Text.allBlank text then some (.badSetting "dialect.name" "must not be empty") else none
  | pattern text => patternFault? text

/-- No fault is found iff the condition is met. -/
theorem fault?_eq_none_iff (k : Condition) : k.fault? = none ↔ k.Met := by
  cases k with
  | nesting depth =>
    rw [fault?, Met, ite_eq_right_iff, Nat.one_le_iff_ne_zero]
    simp
  | dialectName text =>
    rw [fault?, Met, ite_eq_right_iff]
    simp [Text.allBlank]
  | pattern text =>
    rw [fault?, Met, patternFault?]
    cases Glob.Pattern.read text with
    | ok tokens => simp
    | error fault => simp

/-- A fault that is found is the one that the condition gives. -/
theorem reports_of_fault? {k : Condition} {e : Error} (h : k.fault? = some e) : k.Reports e := by
  cases k with
  | nesting depth =>
    rw [fault?, Option.ite_none_right_eq_some] at h
    obtain rfl := Option.some.inj h.2
    exact .nesting depth
  | dialectName text =>
    rw [fault?, Option.ite_none_right_eq_some] at h
    obtain rfl := Option.some.inj h.2
    exact .dialectName text
  | pattern text =>
    rw [fault?, patternFault?] at h
    split at h
    · cases h
    · rename_i fault hread
      obtain rfl := Option.some.inj h
      exact .pattern text fault hread

instance : DecidablePred Met := fun k =>
  decidable_of_iff (k.fault? = none) k.fault?_eq_none_iff

end Condition

/-- What the settings have to meet, in the order in which it is checked. -/
def conditions (m : Settings) : List Condition :=
  .nesting m.conversion.maxNestingDepth :: .dialectName m.dialect.name ::
    m.scan.excludePatterns.map .pattern

/-- The faults of settings are those of their conditions. -/
theorem faults_eq (m : Settings) : m.faults = m.conditions.filterMap Condition.fault? := by
  have hpatterns : (m.scan.excludePatterns.map Condition.pattern).filterMap Condition.fault?
      = m.scan.excludePatterns.filterMap patternFault? := List.filterMap_map
  rw [faults, conditions, nestingFaults, nameFaults, List.filterMap_cons, List.filterMap_cons, hpatterns,
    Condition.fault?, Condition.fault?]
  split_ifs <;> rfl

/-- **Faults**: each broken condition gives exactly one, in the order of the conditions. -/
theorem faults_report (m : Settings) :
    List.Forall₂ Condition.Reports (m.conditions.filter (¬ ·.Met)) m.faults := by
  rw [faults_eq]
  induction m.conditions with
  | nil => exact .nil
  | cons k rest ih =>
    cases hfault : k.fault? with
    | none =>
      have hmet : k.Met := k.fault?_eq_none_iff.mp hfault
      rwa [List.filterMap_cons_none hfault, List.filter_cons_of_neg (by simpa using hmet)]
    | some e =>
      have hbroken : ¬ k.Met := by
        rw [← k.fault?_eq_none_iff, hfault]
        exact Option.some_ne_none e
      rw [List.filterMap_cons_some hfault, List.filter_cons_of_pos (by simpa using hbroken)]
      exact .cons (Condition.reports_of_fault? hfault) ih

/-- Settings are in range iff they meet every condition. -/
theorem validate_eq_ok_iff (m : Settings) : m.validate = .ok () ↔ ∀ k ∈ m.conditions, k.Met := by
  rw [validate, Error.gather_eq_ok_iff, faults_eq, List.filterMap_eq_nil_iff]
  simp only [Condition.fault?_eq_none_iff]

/-! ### The choices of a run -/

/-- A setting after a choice: what was chosen, or what it was where nothing is. -/
inductive Chosen {α : Type} (before : α) : Option α → α → Prop where
  | kept : Chosen before none before
  | taken (value : α) : Chosen before (some value) value

theorem chosen_getD {α : Type} (before : α) (choice : Option α) :
    Chosen before choice (choice.getD before) := by
  cases choice with
  | none => exact .kept
  | some value => exact .taken value

/-- What the choices of a run make of settings. -/
structure Follows (c : Settings) (o : Overrides) (m : Settings) : Prop where
  /-- The patterns of the settings come first. -/
  patterns : c.scan.excludePatterns <+: m.scan.excludePatterns
  morePatterns : m.scan.excludePatterns = c.scan.excludePatterns ++ o.excludePatterns
  failFast : Chosen c.scan.continueOnError (if o.failFast then some false else none)
    m.scan.continueOnError
  /-- No choice makes a scan go on after a failure. -/
  goesOn : m.scan.continueOnError = true → c.scan.continueOnError = true
  maxDepth : Chosen c.scan.maxDepth o.maxDepth m.scan.maxDepth
  maxNestingDepth : Chosen c.conversion.maxNestingDepth o.maxNestingDepth m.conversion.maxNestingDepth
  dialect : Chosen c.dialect.name o.dialect m.dialect.name
  dialectVersion : Chosen c.dialect.version (o.dialectVersion.map some) m.dialect.version
  output : m.output = c.output

theorem follows_overridden (c : Settings) (o : Overrides) : c.Follows o (c.overridden o) where
  patterns := List.prefix_append _ _
  morePatterns := rfl
  failFast := by
    cases hfast : o.failFast with
    | false => simpa [overridden, hfast] using .kept
    | true => simpa [overridden, hfast] using .taken false
  goesOn := fun h => (Bool.and_eq_true_iff.mp h).1
  maxDepth := chosen_getD _ _
  maxNestingDepth := chosen_getD _ _
  dialect := chosen_getD _ _
  dialectVersion := by
    cases hversion : o.dialectVersion with
    | none => simpa [overridden, hversion] using .kept
    | some version => simpa [overridden, hversion] using .taken (some version)
  output := rfl

/-- **Checking after the choices of a run**: settings with choices on top are in range iff the nesting
depth and the dialect's name that count and the patterns of both meet their conditions.  Otherwise the
outcome holds exactly one error for each condition that is broken, in their order, inside one error iff
there are at least two.  The choices change only the settings that they are about. -/
theorem overridden_checked (c : Settings) (o : Overrides) :
    let m := c.overridden o
    let conditions : List Condition :=
      .nesting (o.maxNestingDepth.getD c.conversion.maxNestingDepth) ::
        .dialectName (o.dialect.getD c.dialect.name) ::
        (c.scan.excludePatterns ++ o.excludePatterns).map .pattern
    let broken := conditions.filter (¬ ·.Met)
    (m.validate = .ok () ↔ ∀ k ∈ conditions, k.Met) ∧
    List.Forall₂ Condition.Reports broken (Error.gathered m.validate) ∧
    ((∃ count errors, m.validate = .error (.several count errors)) ↔ 2 ≤ broken.length) ∧
    (∀ count errors, m.validate = .error (.several count errors) → count = errors.length) ∧
    c.Follows o m := by
  intro m conditions broken
  have hreport : List.Forall₂ Condition.Reports broken m.faults := m.faults_report
  have hbad : ∀ e ∈ m.faults, e.IsBadSetting := m.isBadSetting_of_mem_faults
  refine ⟨m.validate_eq_ok_iff, ?_, ?_, ?_, follows_overridden c o⟩
  · rwa [validate, Error.gathered_gather hbad]
  · simp only [validate, Error.gather_eq_several_iff hbad]
    rw [hreport.length_eq]
    constructor
    · rintro ⟨count, errors, hlength, -⟩
      exact hlength
    · intro hlength
      exact ⟨_, _, hlength, rfl, rfl⟩
  · intro count errors hseveral
    obtain ⟨-, rfl, rfl⟩ := (Error.gather_eq_several_iff hbad).mp hseveral
    rfl

/-- A name that is blank, a depth that a choice breaks, and patterns of both that cannot be read. -/
theorem overridden_checked_broken :
    let c : Settings := { scan := { excludePatterns := ["a***", "*.md"] }, dialect := { name := "\t" } }
    let o : Overrides := { excludePatterns := ["[", "a***"], failFast := true, maxNestingDepth := some 0 }
    let unread (text : String) (fault : Glob.Fault) : Error :=
      .badSetting "scan.exclude_patterns" s!"invalid glob '{text}': {fault.message}"
    let errors : List Error :=
      [.badSetting "conversion.max_nesting_depth" "must be at least 1",
        .badSetting "dialect.name" "must not be empty", unread "a***" ⟨3, .wildcards⟩,
        unread "[" ⟨0, .range⟩, unread "a***" ⟨3, .wildcards⟩]
    let m := c.overridden o
    m.validate = .error (.several 5 errors) ∧
      List.Forall₂ Condition.Reports (m.conditions.filter (¬ ·.Met)) errors ∧ c.Follows o m := by
  intro c o unread errors m
  have hvalidate : m.validate = .error (.several 5 errors) := by
    unfold m c o errors unread
    rfl
  obtain ⟨-, hreports, -, -, hfollows⟩ := overridden_checked c o
  rw [show (c.overridden o).validate = _ from hvalidate] at hreports
  exact ⟨hvalidate, hreports, hfollows⟩

end Settings
end Groundplan
