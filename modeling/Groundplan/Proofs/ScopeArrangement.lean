import Groundplan.Proofs.LabelPath
import Groundplan.Proofs.Scope

/-!
# Where a scope keeps its blocks

The blocks of one type fill the slot of the type and no other, so a type whose blocks all have the
same number of labels can be looked at by itself: `GroupedKind` is what its slot holds, every block
of the type keeps it (`GroupedKind.filled`), and so do all blocks of a scope
(`groupedKind_scopeBlocks`).

A scope in which every type is of this kind and shares no name with an attribute always converts,
and then each value stands at the path that leads to it (`scope_arranged`).
-/

namespace Groundplan

/-- The keys that lead to the object of a block: its type and its labels. -/
def Block.path (b : Block) : List String := b.kind :: b.labels

/-- The labels and objects of the blocks of a type, in the order of the document. -/
def Piece.ofBlocks (object : Block → Entries Value) (kind : String) (blocks : List Block) :
    List Piece :=
  (blocks.filter fun b => b.kind = kind).map fun b => (b.labels, object b)

/-! ### The slot of a type -/

/-- The slot of a type holds its pieces, which have `n` labels each: without labels all of them in
an array, otherwise grouped by their labels. -/
def GroupedKind : Nat → List Piece → Option Value → Prop
  | 0, pieces, slot => slot = if pieces = [] then none else some (.array (Piece.values pieces))
  | n + 1, pieces, slot => Grouped (n + 1) pieces slot

theorem GroupedKind.empty (n : Nat) : GroupedKind n [] none := by
  cases n with
  | zero => exact (if_pos rfl).symm
  | succ n => exact Grouped.empty (n + 1)

/-- One more block of a type keeps its slot grouped. -/
theorem GroupedKind.filled {n : Nat} {pieces : List Piece} {slot : Option Value}
    {labels : List String} (kind : String) (object : Entries Value) (h : GroupedKind n pieces slot)
    (hlen : labels.length = n) :
    ∃ value, Groundplan.filled kind slot labels (.object object) = .ok value ∧
      GroupedKind n (pieces ++ [(labels, object)]) (some value) := by
  cases n with
  | zero =>
    obtain rfl := List.length_eq_zero_iff.mp hlen
    refine ⟨_, rfl, ?_⟩
    rw [GroupedKind] at h ⊢
    rw [if_neg (by simp), h]
    by_cases hp : pieces = []
    · subst hp
      rfl
    · rw [if_neg hp]
      simp [joinedBy, Piece.values]
  | succ n =>
    obtain ⟨label, rest, rfl⟩ := List.exists_cons_of_length_eq_add_one hlen
    exact Grouped.nestedIn kind object h hlen

namespace Conversion

open Entries Piece

variable {c : Conversion} {depth n : Nat} {before out : Entries Value} {kind : String}
  {attributes : List Attribute} {blocks : List Block} {object : Block → Entries Value}
  {value : Attribute → Value} {pieces : List Piece}

/-- The blocks of a scope keep the slot of a type grouped whose blocks have `n` labels. -/
theorem groupedKind_scopeBlocks (h : c.scopeBlocks depth before blocks = .ok out)
    (hobject : ∀ b ∈ blocks, c.scope depth b.body = .ok (object b))
    (hn : ∀ b ∈ blocks, b.kind = kind → b.labels.length = n)
    (hbefore : GroupedKind n pieces (find? before kind)) :
    GroupedKind n (pieces ++ ofBlocks object kind blocks) (find? out kind) := by
  induction blocks generalizing before pieces with
  | nil =>
    obtain rfl := scopeBlocks_nil_eq_ok.mp h
    simpa [ofBlocks] using hbefore
  | cons b rest ih =>
    obtain ⟨entries, middle, hentries, hmiddle, hrest⟩ := scopeBlocks_cons_eq_ok.mp h
    obtain ⟨hb, hobject'⟩ := List.forall_mem_cons.mp hobject
    obtain ⟨hlength, hn'⟩ := List.forall_mem_cons.mp hn
    rw [hb] at hentries
    obtain rfl := Except.ok.inj hentries
    -- a block of the type adds its piece, any other leaves the slot alone
    by_cases hkind : b.kind = kind
    · subst hkind
      obtain ⟨slot, hslot, hfind⟩ := find?_aggregate_self hmiddle
      obtain ⟨slot', hslot', hgrouped⟩ :=
        hbefore.filled b.kind (object b) (hlength rfl)
      rw [hslot] at hslot'
      obtain rfl := Except.ok.inj hslot'
      rw [← hfind] at hgrouped
      have := ih hrest hobject' hn' hgrouped
      simpa [ofBlocks] using this
    · rw [← find?_aggregate_of_ne hmiddle (Ne.symm hkind)] at hbefore
      have := ih hrest hobject' hn' hbefore
      simpa [ofBlocks, hkind] using this

/-- **No collisions.**  Blocks that convert join entries whose slots are grouped by their types, when
blocks of one type have the same number of labels. -/
theorem exists_scopeBlocks (hobject : ∀ b ∈ blocks, c.scope depth b.body = .ok (object b))
    (harity : ∀ a ∈ blocks, ∀ b ∈ blocks, a.kind = b.kind → a.labels.length = b.labels.length)
    (hbefore : ∀ b ∈ blocks, ∃ pieces, GroupedKind b.labels.length pieces (find? before b.kind)) :
    ∃ out, c.scopeBlocks depth before blocks = .ok out := by
  induction blocks generalizing before with
  | nil => exact ⟨before, rfl⟩
  | cons b rest ih =>
    obtain ⟨pieces, hpieces⟩ := hbefore b List.mem_cons_self
    obtain ⟨slot, hslot, hgrouped⟩ := hpieces.filled b.kind (object b) rfl
    have hmiddle : before.aggregate b.kind b.labels (.object (object b))
        = .ok (before.insert b.kind slot) := aggregate_eq_ok.mpr ⟨slot, hslot, rfl⟩
    -- the slots of the types that are still to come stay grouped
    have hnext : ∀ b' ∈ rest, ∃ pieces,
        GroupedKind b'.labels.length pieces (find? (before.insert b.kind slot) b'.kind) := by
      intro b' hb'
      by_cases hkind : b'.kind = b.kind
      · refine ⟨pieces ++ [(b.labels, object b)], ?_⟩
        rw [hkind, find?_insert_self,
          harity b' (List.mem_cons_of_mem _ hb') b List.mem_cons_self hkind]
        exact hgrouped
      · rw [find?_insert_of_ne hkind]
        exact hbefore b' (List.mem_cons_of_mem _ hb')
    obtain ⟨out, hout⟩ := ih (fun b' hb' => hobject b' (List.mem_cons_of_mem _ hb'))
      (fun a ha b' hb' => harity a (List.mem_cons_of_mem _ ha) b' (List.mem_cons_of_mem _ hb')) hnext
    exact ⟨out, scopeBlocks_cons_eq_ok.mpr
      ⟨object b, _, hobject b List.mem_cons_self, hmiddle, hout⟩⟩

end Conversion

/-! ### Reading the slot of a type -/

section Reading

open Entries Piece

variable {n : Nat} {kind : String} {labels path : List String} {out : Entries Value}
  {blocks : List Block} {object : Block → Entries Value}

theorem Piece.mem_ofBlocks {p : Piece} :
    p ∈ ofBlocks object kind blocks ↔ ∃ b ∈ blocks, b.kind = kind ∧ (b.labels, object b) = p := by
  simp [ofBlocks, and_assoc]

/-- The objects of the pieces with some labels are those of the blocks with their path. -/
theorem Piece.values_filter_ofBlocks :
    values ((ofBlocks object kind blocks).filter fun p => p.1 = labels)
      = (blocks.filter fun b => b.path = kind :: labels).map fun b => .object (object b) := by
  induction blocks with
  | nil => rfl
  | cons b rest ih =>
    have hpath : b.path = kind :: labels ↔ b.kind = kind ∧ b.labels = labels := by
      rw [Block.path, List.cons.injEq]
    by_cases hkind : b.kind = kind
    · by_cases hlabels : b.labels = labels
      · rw [List.filter_cons_of_pos (by simpa [hpath] using ⟨hkind, hlabels⟩), List.map_cons, ← ih]
        simp [ofBlocks, hkind, hlabels, values]
      · rw [List.filter_cons_of_neg (by simp [hpath, hlabels]), ← ih]
        simp [ofBlocks, hkind, hlabels]
    · rw [List.filter_cons_of_neg (by simp [hpath, hkind]), ← ih]
      simp [ofBlocks, hkind]

theorem Value.at?_object_cons (entries : Entries Value) (key : String) (path : List String) :
    Value.at? (.object entries) (key :: path) = (find? entries key).bind (·.at? path) := rfl

variable (hn : ∀ b ∈ blocks, b.kind = kind → b.labels.length = n)
  (h : GroupedKind n (ofBlocks object kind blocks) (find? out kind))

include h in
/-- Without labels, a type holds the array of its objects. -/
theorem GroupedKind.array (hzero : n = 0) (hb : ∃ b ∈ blocks, b.kind = kind) :
    find? out kind
      = some (.array ((blocks.filter fun b => b.kind = kind).map fun b => .object (object b))) := by
  subst hzero
  obtain ⟨b, hb, hkind⟩ := hb
  have hne : ofBlocks object kind blocks ≠ [] := by
    intro hnil
    have hmem : (b.labels, object b) ∈ ofBlocks object kind blocks :=
      mem_ofBlocks.mpr ⟨b, hb, hkind, rfl⟩
    rw [hnil] at hmem
    exact List.not_mem_nil hmem
  rw [GroupedKind, if_neg hne] at h
  rw [h, values, ofBlocks, List.map_map]
  rfl

include hn h in
/-- A label path leads to the objects that are collected there. -/
theorem GroupedKind.at?_path {b : Block} (hb : b ∈ blocks) (hkind : b.kind = kind)
    (hlabels : b.labels ≠ []) :
    Value.at? (.object out) b.path
      = collected ((blocks.filter fun b' => b'.path = b.path).map fun b' => .object (object b')) := by
  have hlen := hn b hb hkind
  obtain ⟨m, rfl⟩ : ∃ m, n = m + 1 := by
    rw [← hlen]
    exact Nat.exists_eq_succ_of_ne_zero fun hz => hlabels (List.length_eq_zero_iff.mp hz)
  -- the block itself lies at the end of its path
  have hmem : ([], object b) ∈ under b.labels (ofBlocks object kind blocks) := by
    rw [mem_under, List.append_nil]
    exact mem_ofBlocks.mpr ⟨b, hb, hkind, rfl⟩
  have hall : ∀ p ∈ ofBlocks object kind blocks, p.1.length = b.labels.length := by
    intro p hp
    obtain ⟨b', hb', hkind', rfl⟩ := mem_ofBlocks.mp hp
    rw [hlen, hn b' hb' hkind']
  have hgrouped : Grouped (0 + b.labels.length) (ofBlocks object kind blocks) (find? out kind) := by
    rw [Nat.zero_add, hlen]
    exact h
  have hat := hgrouped.at? (List.ne_nil_of_mem hmem)
  rw [Grouped, values_under hall, values_filter_ofBlocks] at hat
  rw [Block.path, hkind, Value.at?_object_cons, hat]

include hn h in
/-- Before its end a label path leads to an object whose keys are the next labels. -/
theorem GroupedKind.at?_level {b : Block} (hb : b ∈ blocks) (hkind : b.kind = kind)
    (hpath : path <+: b.labels) (hshort : path.length < b.labels.length) :
    ∃ inner : Entries Value, Value.at? (.object out) (kind :: path) = some (.object inner) ∧
      inner.Ordered ∧
      ∀ key, key ∈ keys inner ↔ ∃ b' ∈ blocks, kind :: (path ++ [key]) <+: b'.path := by
  have hlen := hn b hb hkind
  obtain ⟨m, hm⟩ : ∃ m, n = m + 1 + path.length := ⟨n - path.length - 1, by omega⟩
  obtain ⟨rest, hrest⟩ := hpath
  -- the block itself lies below the path
  have hmem : (rest, object b) ∈ under path (ofBlocks object kind blocks) := by
    rw [mem_under, hrest]
    exact mem_ofBlocks.mpr ⟨b, hb, hkind, rfl⟩
  have hgrouped : Grouped (m + 1 + path.length) (ofBlocks object kind blocks) (find? out kind) := by
    subst hm
    rw [show m + 1 + path.length = m + path.length + 1 by omega] at h ⊢
    exact h
  have hat := hgrouped.at? (List.ne_nil_of_mem hmem)
  have hslot := hat
  rw [Grouped, if_neg (List.ne_nil_of_mem hmem)] at hslot
  obtain ⟨inner, hinner, hordered, -⟩ := hslot
  refine ⟨inner, by rw [Value.at?_object_cons, hinner], hordered, fun key => ?_⟩
  rw [hinner] at hat
  rw [hat.keys_iff]
  constructor
  · rintro ⟨⟨labels, o⟩, hp, hkey⟩
    obtain ⟨b', hb', hkind', heq⟩ := mem_ofBlocks.mp (mem_under.mp hp)
    refine ⟨b', hb', ?_⟩
    rw [Block.path, hkind', List.cons_prefix_cons, (Prod.mk.inj heq).1]
    exact ⟨rfl, (List.prefix_append_right_inj path).mpr hkey⟩
  · rintro ⟨b', hb', hkey⟩
    rw [Block.path, List.cons_prefix_cons] at hkey
    obtain ⟨hkind', labels, hlabels⟩ := hkey
    refine ⟨(key :: labels, object b'), mem_under.mpr ?_, ⟨labels, rfl⟩⟩
    refine mem_ofBlocks.mpr ⟨b', hb', hkind'.symm, ?_⟩
    rw [← hlabels, List.append_assoc]
    rfl

end Reading

/-! ### The whole scope -/

open Entries in
/-- The object of a scope whose attributes have these values and whose blocks have these objects:
what stands under each key and at each label path. -/
structure Arranged (value : Attribute → Value) (object : Block → Entries Value)
    (attributes : List Attribute) (blocks : List Block) (out : Entries Value) : Prop where
  /-- Each key stands once. -/
  ordered : out.Ordered
  /-- The keys are the names of the attributes and the types of the blocks. -/
  keys_iff : ∀ key, key ∈ keys out ↔ (∃ a ∈ attributes, a.name = key) ∨ ∃ b ∈ blocks, b.kind = key
  /-- A name holds the value of its last attribute. -/
  last : ∀ a ∈ Attribute.effective attributes, find? out a.name = some (value a)
  /-- A type without labels holds the array of its objects, also when there is only one. -/
  unlabelled : ∀ b ∈ blocks, b.labels = [] → find? out b.kind
    = some (.array ((blocks.filter fun b' => b'.kind = b.kind).map fun b' => .object (object b')))
  /-- A label path leads to the object of its only block, or to the array of all its objects. -/
  labelled : ∀ b ∈ blocks, b.labels ≠ [] → Value.at? (.object out) b.path
    = collected ((blocks.filter fun b' => b'.path = b.path).map fun b' => .object (object b'))
  /-- Before its end a label path leads to an object whose keys are the next labels. -/
  level : ∀ b ∈ blocks, ∀ path, path <+: b.labels → path.length < b.labels.length →
    ∃ inner : Entries Value, Value.at? (.object out) (b.kind :: path) = some (.object inner) ∧
      inner.Ordered ∧
      ∀ key, key ∈ keys inner ↔ ∃ b' ∈ blocks, b.kind :: (path ++ [key]) <+: b'.path

namespace Conversion

open Entries Piece

variable {c : Conversion} {depth : Nat} {out : Entries Value} {attributes : List Attribute}
  {blocks : List Block} {object : Block → Entries Value} {value : Attribute → Value}

/-- Attributes that are not named like a type leave the slot of the type empty. -/
theorem find?_assigned_kind (value : Attribute → Value)
    (hnames : ∀ a ∈ attributes, ∀ b ∈ blocks, a.name ≠ b.kind) :
    ∀ b ∈ blocks, find? (assigned value attributes) b.kind = none := by
  intro b hb
  rw [find?_eq_none_iff, mem_keys_assigned]
  rintro ⟨a, ha, hname⟩
  exact hnames a ha b hb hname

theorem arranged_of_scopeBlocks
    (hobject : ∀ b ∈ blocks, c.scope depth b.body = .ok (object b))
    (harity : ∀ a ∈ blocks, ∀ b ∈ blocks, a.kind = b.kind → a.labels.length = b.labels.length)
    (hnames : ∀ a ∈ attributes, ∀ b ∈ blocks, a.name ≠ b.kind)
    (h : c.scopeBlocks depth (assigned value attributes) blocks = .ok out) :
    Arranged value object attributes blocks out := by
  have hempty := find?_assigned_kind value hnames
  have hn : ∀ b ∈ blocks, ∀ b' ∈ blocks, b'.kind = b.kind → b'.labels.length = b.labels.length :=
    fun b hb b' hb' => harity b' hb' b hb
  have hgrouped : ∀ b ∈ blocks,
      GroupedKind b.labels.length (ofBlocks object b.kind blocks) (find? out b.kind) := by
    intro b hb
    have hbefore : GroupedKind b.labels.length [] (find? (assigned value attributes) b.kind) := by
      rw [hempty b hb]
      exact GroupedKind.empty _
    exact groupedKind_scopeBlocks h hobject (hn b hb) hbefore
  constructor
  case ordered => exact ordered_scopeBlocks (ordered_assigned value attributes) h
  case keys_iff =>
    intro key
    rw [mem_keys_scopeBlocks h, mem_keys_assigned]
  case last =>
    intro a ha
    rw [find?_scopeBlocks h fun b hb => hnames a (Attribute.mem_of_mem_effective ha) b hb]
    exact find?_assigned value attributes ha
  case unlabelled =>
    intro b hb hlabels
    exact (hgrouped b hb).array (by rw [hlabels]; rfl) ⟨b, hb, rfl⟩
  case labelled =>
    intro b hb hlabels
    exact GroupedKind.at?_path (hn b hb) (hgrouped b hb) hb rfl hlabels
  case level =>
    intro b hb path hpath hshort
    exact GroupedKind.at?_level (hn b hb) (hgrouped b hb) hb rfl hpath hshort

/-- **Block aggregation is exact.**  A scope whose attributes and blocks convert, in which blocks of
one type have the same number of labels and no attribute is named like a type, never runs into a
collision; below the ceiling it converts, and each value stands where its path leads. -/
theorem scope_arranged
    (hvalue : ∀ a ∈ attributes, c.expression (depth + 1) a.expr = .ok (value a))
    (hobject : ∀ b ∈ blocks, c.scope (depth + 1) b.body = .ok (object b))
    (harity : ∀ a ∈ blocks, ∀ b ∈ blocks, a.kind = b.kind → a.labels.length = b.labels.length)
    (hnames : ∀ a ∈ attributes, ∀ b ∈ blocks, a.name ≠ b.kind) :
    (∀ path message,
      c.scope depth (.mk attributes blocks) ≠ .error (.ambiguousBlock path message)) ∧
    (depth < c.maxDepth → ∃ out, c.scope depth (.mk attributes blocks) = .ok out ∧
      Arranged value object attributes blocks out) := by
  -- before the blocks every slot of a type is empty
  have hempty := find?_assigned_kind value hnames
  have hbefore : ∀ b ∈ blocks, ∃ pieces,
      GroupedKind b.labels.length pieces (find? (assigned value attributes) b.kind) := by
    intro b hb
    rw [hempty b hb]
    exact ⟨[], GroupedKind.empty _⟩
  obtain ⟨out, hout⟩ := exists_scopeBlocks hobject harity hbefore
  by_cases hdepth : depth < c.maxDepth
  · have hscope : c.scope depth (.mk attributes blocks) = .ok out :=
      scope_eq_ok.mpr ⟨hdepth, _, attributes_eq_ok hvalue, hout⟩
    refine ⟨fun path message => by simp [hscope], fun _ => ⟨out, hscope, ?_⟩⟩
    exact arranged_of_scopeBlocks hobject harity hnames hout
  -- at the ceiling the scope fails before it reads anything
  · have hscope : c.scope depth (.mk attributes blocks) = .error (.tooDeep c.maxDepth) := by
      rw [scope, enter_tooDeep (Nat.le_of_not_lt hdepth)]
      rfl
    exact ⟨fun path message => by simp [hscope], fun h => absurd h hdepth⟩

/-- A name that is given twice, a type without labels, and a type with one path of two blocks and one
of a single block, in turn. -/
theorem scope_arranged_mixed :
    let attributes : List Attribute := [⟨"region", .literal ⟨0, 0⟩ (.string "eu")⟩,
      ⟨"region", .literal ⟨0, 0⟩ (.string "us")⟩]
    let blocks : List Block := [.numbered "rule" [] 1, .numbered "resource" ["a", "b"] 2,
      .numbered "resource" ["a", "c"] 3, .numbered "rule" [] 4, .numbered "resource" ["a", "b"] 5]
    let object (n : Int) : Value := .object [("id", .number (.integer n))]
    ∃ out, (Conversion.mk ⟨[]⟩ 3).scope 0 (.mk attributes blocks) = .ok out ∧
      find? out "region" = some (.string "us") ∧
      find? out "rule" = some (.array [object 1, object 4]) ∧
      Value.at? (.object out) ["resource", "a", "b"] = some (.array [object 2, object 5]) ∧
      Value.at? (.object out) ["resource", "a", "c"] = some (object 3) := by
  intro attributes blocks object
  have hvalue : ∀ a ∈ attributes, (Conversion.mk ⟨[]⟩ 3).expression 1 a.expr
      = .ok (((Conversion.mk ⟨[]⟩ 3).expression 1 a.expr).toOption.getD .null) := by
    simp only [attributes, List.forall_mem_cons]
    exact ⟨rfl, rfl, List.forall_mem_nil _⟩
  have hobject : ∀ b ∈ blocks, (Conversion.mk ⟨[]⟩ 3).scope 1 b.body = .ok b.numberedObject := by
    simp only [blocks, List.forall_mem_cons]
    exact ⟨rfl, rfl, rfl, rfl, rfl, List.forall_mem_nil _⟩
  have harity : ∀ a ∈ blocks, ∀ b ∈ blocks, a.kind = b.kind →
      a.labels.length = b.labels.length := by decide
  have hnames : ∀ a ∈ attributes, ∀ b ∈ blocks, a.name ≠ b.kind := by decide
  obtain ⟨out, hout, harranged⟩ := (scope_arranged hvalue hobject harity hnames).2 (by decide)
  have hmem (i : Nat) (hi : i < blocks.length) : blocks[i] ∈ blocks := List.getElem_mem hi
  refine ⟨out, hout, ?_, ?_, ?_, ?_⟩
  · exact harranged.last ⟨"region", .literal ⟨0, 0⟩ (.string "us")⟩
      (by simp [attributes, Attribute.effective])
  · exact harranged.unlabelled _ (hmem 0 (by decide)) rfl
  · exact harranged.labelled _ (hmem 1 (by decide)) (by decide)
  · exact harranged.labelled _ (hmem 2 (by decide)) (by decide)

end Conversion
end Groundplan
