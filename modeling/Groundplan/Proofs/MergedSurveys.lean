import Groundplan.Proofs.Entries
import Groundplan.Survey.Basic
import Mathlib.Data.List.Induction

/-!
# Merged surveys and their records

Surveys under `merge` are a monoid but for one thing: the empty survey is neutral on the left, and on
the right only as long as it does not take the version of a nameless dialect (`merge_assoc`,
`empty_merge`, `merge_empty_iff`).

The records of a survey are put into groups one by one.  `IsGrouping` says what this keeps: the groups
partition the records that were added, each by its type and in their order (`IsGrouping.addRecord`,
`isGrouping_recordsByType`).  So a group is what its type picks out of the records
(`IsGrouping.getD_find?`), and the groups of a merged survey are those of its parts, one after the
other.  `merge_laws` states all of this.
-/

namespace Groundplan.Survey

open Entries

/-! ### Merging -/

theorem dialect_merge_of_nameless {a : Survey} (h : a.dialect.name = "") (b : Survey) :
    (a.merge b).dialect = b.dialect := if_pos h

theorem dialect_merge_of_named {a : Survey} (h : a.dialect.name ≠ "") (b : Survey) :
    (a.merge b).dialect = a.dialect := if_neg h

/-- The dialect of several surveys is the first that has a name, in whatever order they are merged. -/
theorem dialect_merge_assoc (a b c : Survey) :
    ((a.merge b).merge c).dialect = (a.merge (b.merge c)).dialect := by
  by_cases ha : a.dialect.name = ""
  · have hab : (a.merge b).dialect = b.dialect := dialect_merge_of_nameless ha b
    rw [dialect_merge_of_nameless ha]
    by_cases hb : b.dialect.name = ""
    · rw [dialect_merge_of_nameless (by rwa [hab]), dialect_merge_of_nameless hb]
    · rw [dialect_merge_of_named (by rwa [hab]), dialect_merge_of_named hb, hab]
  · have hab : (a.merge b).dialect = a.dialect := dialect_merge_of_named ha b
    rw [dialect_merge_of_named (by rwa [hab]), hab, dialect_merge_of_named ha]

theorem merge_assoc (a b c : Survey) : (a.merge b).merge c = a.merge (b.merge c) := by
  have hdialect := dialect_merge_assoc a b c
  simp only [merge, List.append_assoc] at hdialect ⊢
  rw [hdialect]

theorem empty_merge (a : Survey) : ({} : Survey).merge a = a := by
  rw [merge, if_pos rfl]
  rfl

/-- The empty survey is neutral on the right for all but a nameless dialect that has a version. -/
theorem merge_empty_iff (a : Survey) :
    a.merge {} = a ↔ (a.dialect.name = "" → a.dialect.version = "") := by
  obtain ⟨documents, failures, files, ⟨name, version⟩⟩ := a
  simp only [merge, List.append_nil, mk.injEq, true_and]
  by_cases hname : name = ""
  · simp [hname, eq_comm]
  · simp [hname]

theorem anyFailed_merge (a b : Survey) : (a.merge b).anyFailed = (a.anyFailed || b.anyFailed) := by
  cases hfailures : a.failures <;> simp [anyFailed, merge, hfailures]

theorem records_merge (a b : Survey) : (a.merge b).records = a.records ++ b.records :=
  List.flatMap_append

/-! ### Groups -/

variable {groups : Entries (List ResourceRecord)} {records : List ResourceRecord}

/-- The groups partition the records by type. -/
structure IsGrouping (groups : Entries (List ResourceRecord)) (records : List ResourceRecord) :
    Prop where
  /-- Each type has one group. -/
  ordered : groups.Ordered
  /-- Each record stands in the groups as often as in the list. -/
  perm : (groups.flatMap (·.2)).Perm records
  nonempty : ∀ group ∈ groups, group.2 ≠ []
  /-- Each record stands under its own type. -/
  type_eq : ∀ group ∈ groups, ∀ r ∈ group.2, r.type = group.1
  /-- A group has the order of the list. -/
  inOrder : ∀ group ∈ groups, group.2 = records.filter (·.type = group.1)

/-- The records in groups are those of one type and those of all others. -/
theorem flatMap_perm (h : groups.Ordered) (type : String) :
    (groups.flatMap (·.2)).Perm
      ((find? groups type).getD [] ++ (without groups type).flatMap (·.2)) := by
  have hsplit := (@perm_of_find? _ _ type h).flatMap_right (·.2)
  rw [List.flatMap_append] at hsplit
  cases hfind : find? groups type with
  | none => simpa [hfind] using hsplit
  | some group => simpa [hfind] using hsplit

theorem isGrouping_nil : IsGrouping [] [] where
  ordered := ordered_nil
  perm := .nil
  nonempty := List.forall_mem_nil _
  type_eq := List.forall_mem_nil _
  inOrder := List.forall_mem_nil _

namespace IsGrouping

/-- What is found under a type are its records in order, and nothing is found if there are none. -/
theorem getD_find? (h : IsGrouping groups records) (type : String) :
    (find? groups type).getD [] = records.filter (·.type = type) := by
  cases hfind : find? groups type with
  | some group => exact h.inOrder _ (mem_of_find? hfind)
  | none =>
    symm
    rw [Option.getD_none, List.filter_eq_nil_iff]
    intro r hr htype
    -- a record of this type would stand in a group, which would be found
    obtain ⟨group, hgroup, hrgroup⟩ := List.mem_flatMap.mp (h.perm.mem_iff.mpr hr)
    have hkey : type = group.1 := (of_decide_eq_true htype).symm.trans (h.type_eq _ hgroup r hrgroup)
    rw [hkey, h.ordered.find?_of_mem hgroup] at hfind
    cases hfind

/-- There is a group of a type iff there is a record of it. -/
theorem mem_keys_iff (h : IsGrouping groups records) (type : String) :
    type ∈ keys groups ↔ ∃ r ∈ records, r.type = type := by
  have hfilter : records.filter (·.type = type) ≠ [] ↔ ∃ r ∈ records, r.type = type := by
    simp
  rw [← hfilter, ← h.getD_find?, Entries.mem_keys_iff]
  cases hfind : find? groups type with
  | none => simp
  | some group => simpa using h.nonempty _ (mem_of_find? hfind)

/-- Another record goes to the end of the group of its type. -/
theorem addRecord (h : IsGrouping groups records) (r : ResourceRecord) :
    IsGrouping (addRecord groups r) (records ++ [r]) := by
  have hold := h.getD_find? r.type
  set old := (find? groups r.type).getD []
  have hordered : (Survey.addRecord groups r).Ordered := ordered_insert h.ordered
  -- the group of the record has it at its end, and every other group is as before
  have hgroup : ∀ group ∈ Survey.addRecord groups r,
      group = (r.type, old ++ [r]) ∨ group ∈ groups ∧ group.1 ≠ r.type := by
    intro group hgroup
    have hfind := hordered.find?_of_mem hgroup
    by_cases htype : group.1 = r.type
    · rw [htype, Survey.addRecord, find?_insert_self] at hfind
      exact .inl (Prod.ext htype (Option.some.inj hfind).symm)
    · rw [Survey.addRecord, find?_insert_of_ne htype] at hfind
      exact .inr ⟨mem_of_find? hfind, htype⟩
  refine ⟨hordered, ?_, fun group hmem => ?_, fun group hmem => ?_, fun group hmem => ?_⟩
  · -- the records of all other types stay beside those of this one
    have hothers := (flatMap_perm h.ordered r.type).symm.trans h.perm
    have hadded := (insert_perm h.ordered r.type (old ++ [r])).flatMap_right (·.2)
    rw [List.flatMap_cons, List.append_assoc] at hadded
    refine hadded.trans (List.Perm.trans ?_ (hothers.append_right [r]))
    rw [List.append_assoc]
    exact List.perm_append_comm.append_left old
  · rcases hgroup group hmem with rfl | ⟨hmem, -⟩
    · exact List.concat_ne_nil r old
    · exact h.nonempty group hmem
  · rcases hgroup group hmem with rfl | ⟨hmem, -⟩
    · intro r' hr'
      rw [hold] at hr'
      rcases List.mem_append.mp hr' with hr' | hr'
      · exact of_decide_eq_true (List.mem_filter.mp hr').2
      · rw [List.mem_singleton.mp hr']
    · exact h.type_eq group hmem
  · rcases hgroup group hmem with rfl | ⟨hmem, hother⟩
    · have hself : [r].filter (·.type = r.type) = [r] := List.filter_cons_of_pos (by simp)
      rw [List.filter_append, ← hold, hself]
    · rw [List.filter_append, ← h.inOrder group hmem,
        List.filter_cons_of_neg (by simpa using hother.symm), List.filter_nil, List.append_nil]

end IsGrouping

/-- The records of a survey, grouped. -/
theorem isGrouping_recordsByType (r : Survey) : IsGrouping r.recordsByType r.records := by
  rw [recordsByType]
  induction r.records using List.reverseRecOn with
  | nil => exact isGrouping_nil
  | append_singleton records record ih =>
    rw [List.foldl_append]
    exact ih.addRecord record

/-- **Merging surveys.**  Merging is associative, with the empty survey on the left of it.  The groups
of a survey partition the records of its documents, and those of a merged survey are the groups of its
parts, type by type one after the other.  A merged survey has failures iff one of its parts has. -/
theorem merge_laws :
    (∀ a b c : Survey, (a.merge b).merge c = a.merge (b.merge c)) ∧
    (∀ a : Survey, ({} : Survey).merge a = a) ∧
    (∀ r : Survey, IsGrouping r.recordsByType (r.documents.flatMap (·.resources))) ∧
    (∀ (a b : Survey) (type : String),
      (type ∈ keys (a.merge b).recordsByType ↔
        type ∈ keys a.recordsByType ∨ type ∈ keys b.recordsByType) ∧
      (find? (a.merge b).recordsByType type).getD []
        = (find? a.recordsByType type).getD [] ++ (find? b.recordsByType type).getD []) ∧
    ∀ a b : Survey, (a.merge b).anyFailed = (a.anyFailed || b.anyFailed) := by
  refine ⟨merge_assoc, empty_merge, isGrouping_recordsByType, fun a b type => ?_, anyFailed_merge⟩
  have ha := a.isGrouping_recordsByType
  have hb := b.isGrouping_recordsByType
  have hmerge := (a.merge b).isGrouping_recordsByType
  rw [records_merge] at hmerge
  constructor
  · rw [ha.mem_keys_iff, hb.mem_keys_iff, hmerge.mem_keys_iff]
    simp only [List.mem_append, or_and_right, exists_or]
  · rw [ha.getD_find?, hb.getD_find?, hmerge.getD_find?, List.filter_append]

end Groundplan.Survey
