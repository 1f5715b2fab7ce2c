import Groundplan.Canonical.Resource
import Groundplan.Proofs.ScopeArrangement

/-!
# Resource records and the canonical object

The records of a document are read off its blocks one by one (`exists_records`), while its canonical
object collects the same blocks by type and name.  `resources_agree` says that both tell the same:
every record is `Declares`d by its block with the configuration that the block has inside the
document, and the entry of the block type in the canonical object is `RecordGroups` of the records,
as long as nothing else uses that entry.
-/

namespace Groundplan

/-! ### Lines -/

/-- The line of an offset is one more than the number of line breaks before it. -/
theorem Source.lineAt_eq (s : Source) (offset : Nat) :
    s.lineAt offset = 1 + (List.range offset).countP fun i => s.bytes[i]? = some 0x0A := by
  rw [lineAt, Nat.add_comm]
  congr 1
  induction offset with
  | zero => rfl
  | succ offset ih =>
    rw [List.take_add_one, List.count_append, ih, List.range_succ, List.countP_append]
    congr 1
    cases hbyte : s.bytes[offset]? with
    | none => simp [hbyte]
    | some byte => simp [hbyte, List.count_singleton]

/-! ### Blocks that declare a resource -/

/-- The record is that of a block of the document at a path: the block has the type and the name as
its labels, and its scope converts to the configuration where it stands in the document. -/
structure Declares (c : Conversion) (path : String) (b : Block) (r : ResourceRecord) : Prop where
  kind : b.kind = "resource"
  labels : b.labels = [r.type, r.name]
  id : r.id = r.type ++ "." ++ r.name
  source : r.source = path
  line : r.line = 1 + (List.range b.span.start).countP fun i => c.source.bytes[i]? = some 0x0A
  config : ∃ object, c.scope 1 b.body = .ok object ∧ r.config = .object object

theorem Block.resource?_eq_some {b : Block} {type name : String} :
    b.resource? = some (type, name) ↔ b.kind = "resource" ∧ b.labels = [type, name] := by
  rw [resource?, ResourceRecord.blockKind]
  by_cases hkind : b.kind = "resource"
  · rw [if_pos hkind]
    split
    · rename_i t n hlabels
      simp [hkind, hlabels]
    · rename_i hlabels
      simp only [hkind, true_and]
      exact ⟨fun h => (nomatch h), fun h => absurd h (hlabels type name)⟩
  · rw [if_neg hkind]
    simp [hkind]

/-- A block that declares no resource is of another type or has not two labels. -/
theorem Block.resource?_eq_none {b : Block} :
    b.resource? = none ↔ ¬ (b.kind = "resource" ∧ b.labels.length = 2) := by
  constructor
  · rintro hnone ⟨hkind, hlength⟩
    obtain ⟨type, name, hlabels⟩ := List.length_eq_two.mp hlength
    rw [resource?_eq_some.mpr ⟨hkind, hlabels⟩] at hnone
    cases hnone
  · intro h
    cases hresource : b.resource? with
    | none => rfl
    | some p =>
      obtain ⟨hkind, hlabels⟩ := resource?_eq_some.mp hresource
      exact absurd ⟨hkind, by rw [hlabels]; rfl⟩ h

namespace Conversion

variable {c : Conversion} {path : String} {blocks : List Block} {object : Block → Entries Value}

theorem resourceValue_eq_ok {b : Block} {entries : Entries Value} (hdepth : 0 < c.maxDepth)
    (h : c.scope 1 b.body = .ok entries) : c.resourceValue b = .ok (.object entries) := by
  rw [resourceValue, enter_eq_ok.mpr ⟨hdepth, rfl⟩, ok_bind, h]
  rfl

/-- Blocks that convert inside a document give one record each that declares a resource. -/
theorem exists_records (hdepth : 0 < c.maxDepth)
    (hobject : ∀ b ∈ blocks, c.scope 1 b.body = .ok (object b)) :
    ∃ records, c.records path blocks = .ok records ∧
      List.Forall₂ (Declares c path)
        (blocks.filter fun b => b.kind = "resource" ∧ b.labels.length = 2) records := by
  induction blocks with
  | nil => exact ⟨[], rfl, .nil⟩
  | cons b rest ih =>
    obtain ⟨hb, hobject'⟩ := List.forall_mem_cons.mp hobject
    obtain ⟨records, hrecords, hdeclares⟩ := ih hobject'
    rw [Conversion.records]
    cases hresource : b.resource? with
    | none =>
      refine ⟨records, hrecords, ?_⟩
      rw [List.filter_cons_of_neg (by simpa using Block.resource?_eq_none.mp hresource)]
      exact hdeclares
    | some p =>
      obtain ⟨type, name⟩ := p
      obtain ⟨hkind, hlabels⟩ := Block.resource?_eq_some.mp hresource
      dsimp only
      rw [resourceValue_eq_ok hdepth hb, hrecords]
      refine ⟨_, rfl, ?_⟩
      rw [List.filter_cons_of_pos (by simp [hkind, hlabels])]
      exact .cons ⟨hkind, hlabels, rfl, rfl, c.source.lineAt_eq _, _, hb, rfl⟩ hdeclares

end Conversion

/-! ### Records in groups -/

open Entries Piece

/-- A slot holds the configurations of records by type and name: nothing without records, and
otherwise an object with the types of the records, below each type an object with the names of its
records, and below each name the configuration of its only record or the array of all in order. -/
def RecordGroups (records : List ResourceRecord) (slot : Option Value) : Prop :=
  (records = [] → slot = none) ∧
  (records ≠ [] → ∃ types : Entries Value, slot = some (.object types) ∧ types.Ordered ∧
    (∀ type, type ∈ keys types ↔ ∃ r ∈ records, r.type = type) ∧
    ∀ type ∈ keys types, ∃ names : Entries Value,
      find? types type = some (.object names) ∧ names.Ordered ∧
      (∀ name, name ∈ keys names ↔ ∃ r ∈ records, r.type = type ∧ r.name = name) ∧
      ∀ name ∈ keys names, find? names name
        = collected ((records.filter fun r => r.type = type ∧ r.name = name).map (·.config)))

section Groups

variable {records : List ResourceRecord} {pieces : List Piece} {slot : Option Value}
  (hlink : (pieces.map fun p => (p.1, Value.object p.2))
    = records.map fun r => ([r.type, r.name], r.config))

include hlink in
theorem exists_piece_iff (P : List String → Prop) :
    (∃ p ∈ pieces, P p.1) ↔ ∃ r ∈ records, P [r.type, r.name] := by
  have hlabels : pieces.map (·.1) = records.map fun r => [r.type, r.name] := by
    have := congrArg (List.map Prod.fst) hlink
    simpa [Function.comp_def] using this
  constructor
  · rintro ⟨p, hp, h⟩
    obtain ⟨r, hr, heq⟩ := List.mem_map.mp (hlabels ▸ List.mem_map_of_mem hp)
    exact ⟨r, hr, heq ▸ h⟩
  · rintro ⟨r, hr, h⟩
    have hmem : [r.type, r.name] ∈ pieces.map (·.1) := hlabels ▸ List.mem_map_of_mem hr
    obtain ⟨p, hp, heq⟩ := List.mem_map.mp hmem
    exact ⟨p, hp, heq ▸ h⟩

include hlink in
/-- The objects of the pieces with two labels are the configurations of the records with this type
and name. -/
theorem values_filter_pieces (type name : String) :
    values (pieces.filter fun p => p.1 = [type, name])
      = (records.filter fun r => r.type = type ∧ r.name = name).map (·.config) := by
  have := congrArg (fun ps => (ps.filter fun p => p.1 = [type, name]).map Prod.snd) hlink
  simpa [List.filter_map, Function.comp_def, values] using this

include hlink in
/-- A slot that is grouped by two labels holds the records whose types and names these are. -/
theorem RecordGroups.of_grouped (h : Grouped 2 pieces slot) : RecordGroups records slot := by
  have hnil : pieces = [] ↔ records = [] := by
    rw [← List.map_eq_nil_iff, hlink, List.map_eq_nil_iff]
  have hlength : ∀ p ∈ pieces, p.1.length = 2 := by
    by_contra hshort
    push Not at hshort
    obtain ⟨r, -, hr⟩ := (exists_piece_iff hlink fun labels => labels.length ≠ 2).mp hshort
    exact hr rfl
  refine ⟨fun hrecords => h.eq_none_iff.mpr (hnil.mpr hrecords), fun hrecords => ?_⟩
  have hslot := h
  rw [Grouped, if_neg (mt hnil.mp hrecords)] at hslot
  obtain ⟨types, rfl, htypes, hbelow⟩ := hslot
  refine ⟨types, rfl, htypes, fun type => ?_, fun type htype => ?_⟩
  · rw [h.keys_iff, exists_piece_iff hlink fun labels => [type] <+: labels]
    simp [eq_comm]
  -- below a type, the slot is grouped by one label more
  obtain ⟨held, hheld⟩ := mem_keys_iff.mp htype
  have hgrouped := hbelow type
  rw [hheld] at hgrouped
  have hslot := hgrouped
  rw [Grouped] at hslot
  split_ifs at hslot with hnone
  obtain ⟨names, hnames, hordered, hcollected⟩ := hslot
  rw [hnames] at hgrouped
  refine ⟨names, hheld.trans hnames, hordered, fun name => ?_, fun name _ => ?_⟩
  · have hpieces : (∃ p ∈ below type pieces, [name] <+: p.1)
        ↔ ∃ p ∈ pieces, [type, name] <+: p.1 := by
      constructor
      · rintro ⟨⟨labels, o⟩, hp, hname⟩
        exact ⟨_, mem_below.mp hp, List.cons_prefix_cons.mpr ⟨rfl, hname⟩⟩
      · rintro ⟨⟨labels, o⟩, hp, rest, rfl⟩
        exact ⟨(name :: rest, o), mem_below.mpr hp, rest, rfl⟩
    rw [hgrouped.keys_iff, hpieces, exists_piece_iff hlink fun labels => [type, name] <+: labels]
    simp [eq_comm]
  -- at a type and a name stand the pieces with these two labels
  · have hunder := hcollected name
    rw [Grouped] at hunder
    have hvalues : values (under [type, name] pieces)
        = values (pieces.filter fun p => p.1 = [type, name]) := values_under hlength
    rw [hunder, ← values_filter_pieces hlink, ← hvalues]
    rfl

end Groups

/-! ### Both at once -/

namespace Conversion

variable {c : Conversion} {path : String} {attributes : List Attribute} {blocks : List Block}
  {object : Block → Entries Value} {records : List ResourceRecord} {out : Entries Value}

/-- The records of blocks are their labels and objects. -/
theorem map_eq_of_declares (hobject : ∀ b ∈ blocks, c.scope 1 b.body = .ok (object b))
    (h : List.Forall₂ (Declares c path) blocks records) :
    (blocks.map fun b => (b.labels, Value.object (object b)))
      = records.map fun r => ([r.type, r.name], r.config) := by
  induction h with
  | nil => rfl
  | @cons b r blocks records hdeclares _ ih =>
    obtain ⟨entries, hentries, hconfig⟩ := hdeclares.config
    obtain ⟨hb, hobject'⟩ := List.forall_mem_cons.mp hobject
    rw [hb] at hentries
    obtain rfl := Except.ok.inj hentries
    rw [List.map_cons, List.map_cons, hdeclares.labels, hconfig]
    exact congrArg _ (ih hobject')

/-- **Records and canonical object agree.**  Of a document that converts, the records are those of
its resource blocks, in order; and if no attribute has the name of the block type and every block of
the type has two labels, the canonical object holds the configurations of the records by type and
name. -/
theorem resources_agree (path : String) (h : c.body (.mk attributes blocks) = .ok out) :
    ∃ records, c.resources path (.mk attributes blocks) = .ok records ∧
      List.Forall₂ (Declares c path)
        (blocks.filter fun b => b.kind = "resource" ∧ b.labels.length = 2) records ∧
      ((∀ a ∈ attributes, a.name ≠ "resource") →
        (∀ b ∈ blocks, b.kind = "resource" → b.labels.length = 2) →
        RecordGroups records (find? out "resource")) := by
  obtain ⟨value, object, -, hobject, hblocks⟩ := exists_parts h
  obtain ⟨records, hrecords, hdeclares⟩ := exists_records (scope_eq_ok.mp h).1 hobject
  refine ⟨records, hrecords, hdeclares, fun hnames hlabels => ?_⟩
  have hempty : find? (assigned value attributes) "resource" = none := by
    rw [find?_eq_none_iff, mem_keys_assigned]
    rintro ⟨a, ha, hname⟩
    exact hnames a ha hname
  have hbefore : GroupedKind 2 [] (find? (assigned value attributes) "resource") := by
    rw [hempty]
    exact GroupedKind.empty 2
  have hgrouped := groupedKind_scopeBlocks hblocks hobject hlabels hbefore
  -- with two labels everywhere, the blocks that declare a resource are those of the type
  have hfilter : (blocks.filter fun b => b.kind = "resource" ∧ b.labels.length = 2)
      = blocks.filter fun b => b.kind = "resource" := by
    apply List.filter_congr
    intro b hb
    by_cases hkind : b.kind = "resource"
    · simp [hkind, hlabels b hb hkind]
    · simp [hkind]
  rw [hfilter] at hdeclares
  refine RecordGroups.of_grouped ?_ hgrouped
  have hlink := map_eq_of_declares (fun b hb => hobject b (List.mem_of_mem_filter hb)) hdeclares
  rw [← hlink, List.nil_append, ofBlocks, List.map_map]
  rfl

/-- Two records of one name among others, with a line break before the last block. -/
theorem resources_agree_repeated :
    let c : Conversion := ⟨⟨[0x0A, 0x20, 0x0A]⟩, 3⟩
    let last : Block := .mk "resource" ["a", "b"] ⟨2, 3⟩ (.mk [] [])
    let blocks : List Block := [.numbered "resource" ["a", "b"] 1, .numbered "rule" [] 2,
      .numbered "resource" ["a", "c"] 3, last]
    let object (n : Int) : Value := .object [("id", .number (.integer n))]
    let out : Entries Value := [("resource", .object
      [("a", .object [("b", .array [object 1, .object []]), ("c", object 3)])]),
      ("rule", .array [object 2])]
    c.body (.mk [] blocks) = .ok out ∧
    ∃ records, c.resources "main.tf" (.mk [] blocks) = .ok records ∧
      List.Forall₂ (Declares c "main.tf")
        (blocks.filter fun b => b.kind = "resource" ∧ b.labels.length = 2) records ∧
      RecordGroups records (find? out "resource") := by
  intro c last blocks object out
  have hout : c.body (.mk [] blocks) = .ok out := by rfl
  obtain ⟨records, hrecords, hdeclares, hgroups⟩ := resources_agree "main.tf" hout
  exact ⟨hout, records, hrecords, hdeclares, hgroups (by decide) (by decide)⟩

end Conversion
end Groundplan
