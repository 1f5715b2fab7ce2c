import Groundplan.Proofs.ResourceRecords
import Groundplan.Survey.Surveyor
import Mathlib

/-!
# Documents and values of a text

A text can be converted to its canonical value alone, or to a document with resource records, for
which the blocks that declare a resource are converted a second time.  The second time never fails
(`Conversion.exists_resources`): the scope of such a block starts at the depth that it has inside the
document, neither lower nor higher, so that it fits under the ceiling iff the block alone in a
document does (`Conversion.resourceValue_eq_error_iff`).  So a text has a document iff it has a value,
and the two entry points agree (`Surveyor.documentOfText_agrees`).
-/

namespace Groundplan

/-! ### A block alone -/

namespace Entries

/-- Below a fresh key any labels can be opened. -/
theorem exists_nest_nil (key : String) (labels : List String) (value : Value) :
    ∃ entries, nest [] key labels value = .ok entries := by
  induction labels generalizing key with
  | nil => exact ⟨_, rfl⟩
  | cons label rest ih =>
    obtain ⟨inner, hinner⟩ := ih label
    rw [nest, find?_nil]
    dsimp only
    rw [hinner]
    exact ⟨_, rfl⟩

/-- The first block of an empty scope fits. -/
theorem exists_aggregate_nil (kind : String) (labels : List String) (value : Value) :
    ∃ entries, aggregate [] kind labels value = .ok entries := by
  cases labels with
  | nil => exact ⟨_, rfl⟩
  | cons label rest => exact exists_nest_nil kind (label :: rest) value

end Entries

namespace Conversion

variable {c : Conversion}

/-- A block is its document's only reason to fail when it stands alone. -/
theorem scopeBlocks_alone_eq_error_iff {depth : Nat} {b : Block} {e : Error} :
    c.scopeBlocks depth [] [b] = .error e ↔ c.scope depth b.body = .error e := by
  obtain ⟨kind, labels, span, body⟩ := b
  rw [scopeBlocks]
  change _ ↔ c.scope depth body = .error e
  cases c.scope depth body with
  | error e' => rfl
  | ok object =>
    obtain ⟨entries, hentries⟩ := Entries.exists_aggregate_nil kind labels (.object object)
    rw [ok_bind, aggregated_eq_ok.mpr hentries, ok_bind, scopeBlocks]
    simp

/-- **The same depth**: the configuration of a block fails iff the document of this block alone does,
with the same error. -/
theorem resourceValue_eq_error_iff {b : Block} {e : Error} :
    c.resourceValue b = .error e ↔ c.body (.mk [] [b]) = .error e := by
  rw [resourceValue, body, scope]
  cases c.enter 0 with
  | error e' => simp only [error_bind, Except.error.injEq]
  | ok depth =>
    rw [ok_bind, map_eq_error, ok_bind, attributes, ok_bind, scopeBlocks_alone_eq_error_iff]

/-- The records of a document whose object was computed never fail. -/
theorem exists_resources {b : Body} {out : Entries Value} (path : String) (h : c.body b = .ok out) :
    ∃ records, c.resources path b = .ok records := by
  obtain ⟨attributes, blocks⟩ := b
  obtain ⟨value, object, -, hobject, -⟩ := exists_parts h
  obtain ⟨records, hrecords, -⟩ := exists_records (scope_eq_ok.mp h).1 hobject
  exact ⟨records, hrecords⟩

end Conversion

/-! ### The two entry points -/

namespace Surveyor

/-- **Documents and values agree.**  A text has a document iff it has a value: both fail with the same
error, and the document is the value at the given path with some resource records.  For records are
never what fails, under any ceiling: a block that declares a resource is converted with the room that
it has inside the document. -/
theorem documentOfText_agrees (s : Surveyor) (text path : String) :
    (∀ e, s.documentOfText text path = .error e ↔ s.valueOfText text path = .error e) ∧
      (∀ value, s.valueOfText text path = .ok value ↔
        ∃ resources, s.documentOfText text path = .ok ⟨path, value, resources⟩) ∧
      (∀ (c : Conversion) (b : Body) (out : Entries Value), c.body b = .ok out →
        ∃ records, c.resources path b = .ok records) ∧
      ∀ (c : Conversion) (b : Block) (e : Error),
        c.resourceValue b = .error e ↔ c.body (.mk [] [b]) = .error e := by
  -- the steps of the one are the first steps of the other, and the last step succeeds
  have hsteps : (∃ e, s.valueOfText text path = .error e ∧ s.documentOfText text path = .error e) ∨
      ∃ value resources, s.valueOfText text path = .ok value ∧
        s.documentOfText text path = .ok ⟨path, value, resources⟩ := by
    rw [valueOfText, documentOfText]
    cases hd : s.dialect.load path text with
    | error e => exact .inl ⟨e, rfl, rfl⟩
    | ok d =>
      rw [ok_bind, ok_bind]
      cases hvalue : s.value d with
      | error e => exact .inl ⟨e, rfl, rfl⟩
      | ok value =>
        obtain ⟨out, hout, -⟩ := map_eq_ok.mp hvalue
        obtain ⟨records, hrecords⟩ := Conversion.exists_resources d.path hout
        refine .inr ⟨value, records, rfl, ?_⟩
        rw [ok_bind, resources, hrecords, ← Dialect.path_of_load hd]
        rfl
  refine ⟨fun e => ?_, fun value => ?_, fun c b out h => Conversion.exists_resources path h,
    fun c b e => Conversion.resourceValue_eq_error_iff⟩
  · rcases hsteps with ⟨e', hvalue, hdocument⟩ | ⟨v, resources, hvalue, hdocument⟩
    · rw [hvalue, hdocument, Except.error.injEq, Except.error.injEq]
    · rw [hvalue, hdocument]
      simp
  · rcases hsteps with ⟨e', hvalue, hdocument⟩ | ⟨v, resources, hvalue, hdocument⟩
    · rw [hvalue, hdocument]
      simp
    · rw [hvalue, hdocument]
      simp

/-- A text with a resource that reaches the ceiling exactly, and the same text under a ceiling that is
lower by one; a resource with content that reaches a ceiling, and one that is a level too deep. -/
theorem documentOfText_agrees_ceiling :
    let text := "resource a b\x7b\x7d"
    let s (ceiling : Nat) : Surveyor :=
      ⟨{ conversion := { maxNestingDepth := ceiling } }, .terraform "v14"⟩
    let value : Value := .object [("resource", .object [("a", .object [("b", .object [])])])]
    let fits : Block := .numbered "resource" ["a", "b"] 1
    let deep : Block := .mk "resource" ["a", "b"] ⟨0, 0⟩ (.mk [] [.mk "c" [] ⟨0, 0⟩
      (.mk [⟨"id", .literal ⟨0, 0⟩ .null⟩] [])])
    let c : Conversion := ⟨⟨[]⟩, 3⟩
    ((s 2).documentOfText text "main.tf"
        = .ok ⟨"main.tf", value, [⟨"a.b", "b", "a", "main.tf", 1, .object []⟩]⟩ ∧
      (s 2).valueOfText text "main.tf" = .ok value) ∧
    ((s 1).valueOfText text "main.tf" = .error (.tooDeep 1) ∧
      (s 1).documentOfText text "main.tf" = .error (.tooDeep 1)) ∧
    ((∃ out, c.body (.mk [] [fits]) = .ok out) ∧
      ∃ records, c.resources "main.tf" (.mk [] [fits]) = .ok records) ∧
    c.body (.mk [] [deep]) = .error (.tooDeep 3) ∧ c.resourceValue deep = .error (.tooDeep 3) := by
  intro text s value fits deep c
  obtain ⟨-, hvalues, hrecords, hdepth⟩ := documentOfText_agrees (s 2) text "main.tf"
  obtain ⟨herrors, -⟩ := documentOfText_agrees (s 1) text "main.tf"
  have hdocument : (s 2).documentOfText text "main.tf"
      = .ok ⟨"main.tf", value, [⟨"a.b", "b", "a", "main.tf", 1, .object []⟩]⟩ := by cbv
  have hlow : (s 1).valueOfText text "main.tf" = .error (.tooDeep 1) := by cbv
  have hfits : c.body (.mk [] [fits]) = .ok [("resource", .object [("a", .object
      [("b", .object [("id", .number (.integer 1))])])])] := by rfl
  have hdeep : c.body (.mk [] [deep]) = .error (.tooDeep 3) := by rfl
  exact ⟨⟨hdocument, (hvalues value).mpr ⟨_, hdocument⟩⟩, ⟨hlow, (herrors _).mpr hlow⟩,
    ⟨⟨_, hfits⟩, hrecords c _ _ hfits⟩, hdeep, (hdepth c deep _).mpr hdeep⟩

end Surveyor
end Groundplan
