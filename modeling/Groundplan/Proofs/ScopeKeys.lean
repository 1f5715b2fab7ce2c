import Groundplan.Hcl.Document
import Groundplan.Hcl.Lowering
import Groundplan.Proofs.Scope

/-!
# Keys of a scope do not interfere

An attribute and a block read and change the slot of their own key only, so a scope converts key by
key.  `Body.about key` is what a scope says about one key, and the steps are followed side by side
on the whole scope and on that part: they agree on the slot of the key as long as both go on
(`attributes_about`, `scopeBlocks_about`), and a step that fails on the whole scope fails in the same
way on the part that it belongs to (`exists_failing_name`, `exists_failing_kind`).

So a scope converts iff its parts do, and its object and its error are found in the parts
(`scope_by_keys`).  Two scopes with the same parts convert to the same object, and this is what
reordering the structures of an HCL body leaves alone (`exists_lowered_reordered`).
-/

namespace Groundplan

namespace Body

/-- The names of the attributes of a scope and the types of its blocks. -/
def keys (b : Body) : List String := b.attributes.map (·.name) ++ b.blocks.map (·.kind)

/-- What a scope says about a key: the attributes of this name and the blocks of this type. -/
def about (key : String) (b : Body) : Body :=
  .mk (b.attributes.filter fun a => a.name = key) (b.blocks.filter fun b => b.kind = key)

theorem mem_keys {b : Body} {key : String} :
    key ∈ b.keys ↔ (∃ a ∈ b.attributes, a.name = key) ∨ ∃ b' ∈ b.blocks, b'.kind = key := by
  simp [keys]

end Body

/-! ### One step on the slot of its key -/

section Step

open Entries Conversion

variable {entries others after : Entries Value} {kind : String} {labels : List String}
  {object : Entries Value} {e : Error}

/-- What a block makes of the slot of its type, with the error of the scope if it does not fit. -/
def filledBy (kind : String) (labels : List String) (object : Entries Value)
    (slot : Option Value) : Except Error Value :=
  match filled kind slot labels (.object object) with
  | .ok value => .ok value
  | .error x => .error (.ambiguousBlock (".".intercalate (kind :: labels)) x.message)

/-- A block that is folded into a scope reads and replaces the slot of its type. -/
theorem aggregated_eq :
    aggregated entries kind labels object
      = entries.insert kind <$> filledBy kind labels object (find? entries kind) := by
  rw [aggregated, aggregate_eq, filledBy]
  cases filled kind (find? entries kind) labels (.object object) with
  | error x => rfl
  | ok value => rfl

/-- A block that fits does so wherever the slot of its type is the same, and leaves the same
there. -/
theorem aggregated_of_slot (h : aggregated entries kind labels object = .ok after)
    (hslot : find? others kind = find? entries kind) :
    ∃ after', aggregated others kind labels object = .ok after' ∧
      find? after' kind = find? after kind := by
  rw [aggregated_eq] at h
  obtain ⟨value, hvalue, rfl⟩ := map_eq_ok.mp h
  rw [aggregated_eq, hslot, hvalue]
  exact ⟨_, rfl, by rw [find?_insert_self, find?_insert_self]⟩

/-- A block that does not fit fails in the same way wherever the slot of its type is the same. -/
theorem aggregated_error_of_slot (h : aggregated entries kind labels object = .error e)
    (hslot : find? others kind = find? entries kind) :
    aggregated others kind labels object = .error e := by
  rw [aggregated_eq] at h ⊢
  rw [hslot]
  exact map_eq_error.mpr (map_eq_error.mp h)

end Step

namespace Conversion

open Entries

variable {c : Conversion} {depth : Nat} {before after part : Entries Value} {key : String}
  {attributes : List Attribute} {blocks rest : List Block} {b : Block} {e : Error}

/-! ### Attributes -/

/-- The attributes of a name leave in its slot what all attributes leave there. -/
theorem attributes_about (h : c.attributes depth before attributes = .ok after)
    (hslot : find? part key = find? before key) :
    ∃ part', c.attributes depth part (attributes.filter fun a => a.name = key) = .ok part' ∧
      find? part' key = find? after key := by
  induction attributes generalizing before part with
  | nil =>
    obtain rfl := Except.ok.inj h
    exact ⟨part, rfl, hslot⟩
  | cons a rest ih =>
    rw [Conversion.attributes] at h
    obtain ⟨v, hv, h⟩ := bind_eq_ok.mp h
    by_cases hname : a.name = key
    · subst hname
      rw [List.filter_cons_of_pos (by simp), Conversion.attributes, hv, ok_bind]
      exact ih h (by rw [find?_insert_self, find?_insert_self])
    · rw [List.filter_cons_of_neg (by simpa using hname)]
      exact ih h (by rw [find?_insert_of_ne (Ne.symm hname), hslot])

/-- If the attributes fail, those of one name fail in the same way. -/
theorem exists_failing_name (h : c.attributes depth before attributes = .error e) :
    ∃ a ∈ attributes, ∀ part,
      c.attributes depth part (attributes.filter fun a' => a'.name = a.name) = .error e := by
  induction attributes generalizing before with
  | nil => cases h
  | cons a rest ih =>
    rw [Conversion.attributes] at h
    rcases bind_eq_error.mp h with hfail | ⟨v, hv, hrest⟩
    · refine ⟨a, List.mem_cons_self, fun part => ?_⟩
      rw [List.filter_cons_of_pos (by simp), Conversion.attributes, hfail]
      rfl
    -- the attribute has a value, so a later one fails
    · obtain ⟨a', ha', hfail⟩ := ih hrest
      refine ⟨a', List.mem_cons_of_mem _ ha', fun part => ?_⟩
      by_cases hname : a.name = a'.name
      · rw [List.filter_cons_of_pos (by simpa using hname), Conversion.attributes, hv, ok_bind]
        exact hfail _
      · rw [List.filter_cons_of_neg (by simpa using hname)]
        exact hfail part

/-! ### Blocks -/

theorem scopeBlocks_cons :
    c.scopeBlocks depth before (b :: rest)
      = c.scope depth b.body >>= fun object =>
          aggregated before b.kind b.labels object >>= fun after =>
            c.scopeBlocks depth after rest := by
  obtain ⟨kind, labels, span, body⟩ := b
  rw [scopeBlocks]
  rfl

/-- A block leaves the slots of other types alone. -/
theorem find?_aggregated_of_ne {object : Entries Value}
    (h : aggregated before b.kind b.labels object = .ok after) (hne : key ≠ b.kind) :
    find? after key = find? before key :=
  find?_aggregate_of_ne (aggregated_eq_ok.mp h) hne

/-- The blocks of a type leave in its slot what all blocks leave there. -/
theorem scopeBlocks_about (h : c.scopeBlocks depth before blocks = .ok after)
    (hslot : find? part key = find? before key) :
    ∃ part', c.scopeBlocks depth part (blocks.filter fun b => b.kind = key) = .ok part' ∧
      find? part' key = find? after key := by
  induction blocks generalizing before part with
  | nil =>
    obtain rfl := scopeBlocks_nil_eq_ok.mp h
    exact ⟨part, by rw [List.filter_nil, scopeBlocks], hslot⟩
  | cons b rest ih =>
    rw [scopeBlocks_cons] at h
    obtain ⟨object, hobject, h⟩ := bind_eq_ok.mp h
    obtain ⟨middle, hmiddle, h⟩ := bind_eq_ok.mp h
    by_cases hkind : b.kind = key
    · subst hkind
      obtain ⟨middle', hmiddle', hslot'⟩ := aggregated_of_slot hmiddle hslot
      rw [List.filter_cons_of_pos (by simp), scopeBlocks_cons, hobject, ok_bind, hmiddle', ok_bind]
      exact ih h hslot'
    · rw [List.filter_cons_of_neg (by simpa using hkind)]
      exact ih h (by rw [find?_aggregated_of_ne hmiddle (Ne.symm hkind), hslot])

/-- If the blocks fail, those of one type fail in the same way. -/
theorem exists_failing_kind (h : c.scopeBlocks depth before blocks = .error e) :
    ∃ b ∈ blocks, ∀ part, find? part b.kind = find? before b.kind →
      c.scopeBlocks depth part (blocks.filter fun b' => b'.kind = b.kind) = .error e := by
  induction blocks generalizing before with
  | nil =>
    rw [scopeBlocks] at h
    cases h
  | cons b rest ih =>
    rw [scopeBlocks_cons] at h
    rcases bind_eq_error.mp h with hfail | ⟨object, hobject, h⟩
    -- the scope of the block fails
    · refine ⟨b, List.mem_cons_self, fun part _ => ?_⟩
      rw [List.filter_cons_of_pos (by simp), scopeBlocks_cons, hfail]
      rfl
    rcases bind_eq_error.mp h with hfail | ⟨middle, hmiddle, hrest⟩
    -- the block runs into the slot of its type
    · refine ⟨b, List.mem_cons_self, fun part hslot => ?_⟩
      rw [List.filter_cons_of_pos (by simp), scopeBlocks_cons, hobject, ok_bind,
        aggregated_error_of_slot hfail hslot]
      rfl
    -- a later block fails
    · obtain ⟨b', hb', hfail⟩ := ih hrest
      refine ⟨b', List.mem_cons_of_mem _ hb', fun part hslot => ?_⟩
      by_cases hkind : b.kind = b'.kind
      · rw [← hkind] at hslot
        obtain ⟨middle', hmiddle', hslot'⟩ := aggregated_of_slot hmiddle hslot
        rw [List.filter_cons_of_pos (by simpa using hkind), scopeBlocks_cons, hobject, ok_bind,
          hmiddle', ok_bind]
        exact hfail middle' (by rw [← hkind, hslot'])
      · rw [List.filter_cons_of_neg (by simpa using hkind)]
        exact hfail part (by rw [hslot, find?_aggregated_of_ne hmiddle (Ne.symm hkind)])

/-! ### Scopes -/

variable {body other : Body} {out : Entries Value}

/-- Below the ceiling a scope is its attributes and then its blocks. -/
theorem scope_eq (hdepth : depth < c.maxDepth) :
    c.scope depth body
      = c.attributes (depth + 1) [] body.attributes >>= fun before =>
          c.scopeBlocks (depth + 1) before body.blocks := by
  obtain ⟨attributes, blocks⟩ := body
  rw [scope, enter_eq_ok.mpr ⟨hdepth, rfl⟩]
  rfl

/-- Of a scope that converts, what it says about a key converts, with the same entry of the key. -/
theorem scope_about (hdepth : depth < c.maxDepth) (h : c.scope depth body = .ok out)
    (key : String) :
    ∃ part, c.scope depth (body.about key) = .ok part ∧ find? part key = find? out key := by
  rw [scope_eq hdepth] at h
  obtain ⟨before, hbefore, hblocks⟩ := bind_eq_ok.mp h
  obtain ⟨part, hpart, hslot⟩ :=
    attributes_about hbefore (rfl : find? [] key = find? [] key)
  obtain ⟨part', hpart', hslot'⟩ := scopeBlocks_about hblocks hslot
  refine ⟨part', ?_, hslot'⟩
  rw [scope_eq hdepth]
  exact bind_eq_ok.mpr ⟨part, hpart, hpart'⟩

/-- If a scope fails, what it says about one of its keys fails in the same way. -/
theorem exists_failing_key (hdepth : depth < c.maxDepth) (h : c.scope depth body = .error e) :
    ∃ key ∈ body.keys, c.scope depth (body.about key) = .error e := by
  rw [scope_eq hdepth] at h
  rcases bind_eq_error.mp h with hattributes | ⟨before, hbefore, hblocks⟩
  · obtain ⟨a, ha, hfail⟩ := exists_failing_name hattributes
    refine ⟨a.name, Body.mem_keys.mpr (Or.inl ⟨a, ha, rfl⟩), ?_⟩
    rw [scope_eq hdepth]
    exact bind_eq_error.mpr (Or.inl (hfail []))
  · obtain ⟨b, hb, hfail⟩ := exists_failing_kind hblocks
    refine ⟨b.kind, Body.mem_keys.mpr (Or.inr ⟨b, hb, rfl⟩), ?_⟩
    -- the attributes of the name leave the slot that the blocks meet
    obtain ⟨part, hpart, hslot⟩ :=
      attributes_about hbefore (rfl : find? [] b.kind = find? [] b.kind)
    rw [scope_eq hdepth]
    exact bind_eq_error.mpr (Or.inr ⟨part, hpart, hfail part hslot⟩)

/-- The keys of a scope's object are those of the scope. -/
theorem mem_keys_scope (h : c.scope depth body = .ok out) : key ∈ keys out ↔ key ∈ body.keys := by
  obtain ⟨attributes, blocks⟩ := body
  obtain ⟨value, object, -, -, hblocks⟩ := exists_parts h
  rw [mem_keys_scopeBlocks hblocks, mem_keys_assigned, Body.mem_keys]
  rfl

theorem ordered_scope_object (h : c.scope depth body = .ok out) : out.Ordered := by
  obtain ⟨attributes, blocks⟩ := body
  obtain ⟨value, object, -, -, hblocks⟩ := exists_parts h
  exact ordered_scopeBlocks (ordered_assigned value attributes) hblocks

/-- A scope converts iff what it says about each of its keys does. -/
theorem exists_scope_iff (hdepth : depth < c.maxDepth) :
    (∃ out, c.scope depth body = .ok out) ↔
      ∀ key ∈ body.keys, ∃ part, c.scope depth (body.about key) = .ok part := by
  constructor
  · rintro ⟨out, h⟩ key -
    obtain ⟨part, hpart, -⟩ := scope_about hdepth h key
    exact ⟨part, hpart⟩
  · intro h
    cases hscope : c.scope depth body with
    | ok out => exact ⟨out, rfl⟩
    | error e =>
      obtain ⟨key, hkey, hfail⟩ := exists_failing_key hdepth hscope
      obtain ⟨part, hpart⟩ := h key hkey
      rw [hfail] at hpart
      cases hpart

/-- Scopes that say the same about every key convert to the same object. -/
theorem scope_eq_ok_of_about (hdepth : depth < c.maxDepth)
    (hsame : ∀ key, other.about key = body.about key) (h : c.scope depth body = .ok out) :
    c.scope depth other = .ok out := by
  -- both have the same keys, so the other one converts, too
  obtain ⟨out', hout'⟩ : ∃ out', c.scope depth other = .ok out' := by
    refine (exists_scope_iff hdepth).mpr fun key _ => ?_
    rw [hsame key]
    obtain ⟨part, hpart, -⟩ := scope_about hdepth h key
    exact ⟨part, hpart⟩
  suffices out' = out by rw [hout', this]
  apply (ordered_scope_object hout').ext (ordered_scope_object h)
  intro key
  obtain ⟨part, hpart, hslot⟩ := scope_about hdepth h key
  obtain ⟨part', hpart', hslot'⟩ := scope_about hdepth hout' key
  rw [hsame key, hpart] at hpart'
  obtain rfl := Except.ok.inj hpart'
  rw [← hslot', hslot]

end Conversion

/-! ### Reordering an HCL body -/

namespace Hcl

variable {file : String} {structures reordered : List Structure}

/-- The type that a structure opens as a block. -/
def Structure.kind? : Structure → Option String
  | .entry _ => none
  | .block _ _ kind _ _ => some kind

/-- The second list has the structures of the first, in an order in which attributes of one name and
blocks of one type follow each other as before. -/
structure Reordered (structures reordered : List Structure) : Prop where
  entries : ∀ name, (reordered.filter fun s => s.name? = some name)
    = structures.filter fun s => s.name? = some name
  blocks : ∀ kind, (reordered.filter fun s => s.kind? = some kind)
    = structures.filter fun s => s.kind? = some kind

theorem Reordered.mem (h : Reordered structures reordered) {s : Structure} (hs : s ∈ reordered) :
    s ∈ structures := by
  cases s with
  | entry definition =>
    have hname : .entry definition ∈ reordered.filter fun s => s.name? = some definition.name :=
      List.mem_filter.mpr ⟨hs, by simp [Structure.name?]⟩
    rw [h.entries] at hname
    exact List.mem_of_mem_filter hname
  | block span identSpan kind labels body =>
    have hkind : .block span identSpan kind labels body
        ∈ reordered.filter fun s => s.kind? = some kind :=
      List.mem_filter.mpr ⟨hs, by simp [Structure.kind?]⟩
    rw [h.blocks] at hkind
    exact List.mem_of_mem_filter hkind

/-- Lowers one structure, to an attribute or to a block. -/
def Structure.lower (file : String) : Structure → Except Error (Attribute ⊕ Block)
  | .entry definition => (fun expr => .inl ⟨definition.name, expr⟩) <$> definition.value.lower file
  | .block span identSpan kind labels body => do
    let body ← body.lower file
    let span ← placed file (span.or identSpan)
    return .inr (.mk kind labels span body)

/-- An attribute keeps its name, and a block its type. -/
theorem Structure.lower_key {s : Structure} {item : Attribute ⊕ Block}
    (h : s.lower file = .ok item) :
    s.name? = item.getLeft?.map (·.name) ∧ s.kind? = item.getRight?.map (·.kind) := by
  cases s with
  | entry definition =>
    obtain ⟨expr, -, rfl⟩ := map_eq_ok.mp h
    exact ⟨rfl, rfl⟩
  | block span identSpan kind labels body =>
    obtain ⟨lowered, -, h⟩ := bind_eq_ok.mp h
    obtain ⟨placed, -, h⟩ := bind_eq_ok.mp h
    obtain rfl := Except.ok.inj h
    exact ⟨rfl, rfl⟩

/-- Structures are lowered one by one, and attributes and blocks are put apart. -/
theorem lowerStructures_cons (first : Structure) (rest : List Structure) :
    lowerStructures file (first :: rest)
      = first.lower file >>= fun item => lowerStructures file rest >>= fun others =>
          .ok (item.getLeft?.toList ++ others.1, item.getRight?.toList ++ others.2) := by
  cases first with
  | entry definition =>
    rw [lowerStructures, Structure.lower]
    cases definition.value.lower file <;> rfl
  | block span identSpan kind labels body =>
    rw [lowerStructures, Structure.lower]
    cases body.lower file with
    | error e => rfl
    | ok lowered => cases placed file (span.or identSpan) <;> rfl

theorem lowerStructures_eq_ok {item : Structure → Attribute ⊕ Block}
    (h : ∀ s ∈ structures, s.lower file = .ok (item s)) :
    lowerStructures file structures
      = .ok (structures.filterMap fun s => (item s).getLeft?,
          structures.filterMap fun s => (item s).getRight?) := by
  induction structures with
  | nil => rw [lowerStructures]; rfl
  | cons s rest ih =>
    obtain ⟨hs, hrest⟩ := List.forall_mem_cons.mp h
    rw [lowerStructures_cons, hs, ok_bind, ih hrest, ok_bind]
    cases hitem : item s <;> simp [hitem]

theorem exists_item {parts : List Attribute × List Block}
    (h : lowerStructures file structures = .ok parts) :
    ∀ s ∈ structures, ∃ item, s.lower file = .ok item := by
  induction structures generalizing parts with
  | nil => exact fun s hs => nomatch hs
  | cons s rest ih =>
    rw [lowerStructures_cons] at h
    obtain ⟨item, hitem, h⟩ := bind_eq_ok.mp h
    obtain ⟨others, hothers, -⟩ := bind_eq_ok.mp h
    exact List.forall_mem_cons.mpr ⟨⟨item, hitem⟩, ih hothers⟩

/-- What structures say about a key are the structures of the key. -/
theorem about_lowered {item : Structure → Attribute ⊕ Block}
    (h : ∀ s ∈ structures, s.lower file = .ok (item s)) (key : String) :
    (Body.mk (structures.filterMap fun s => (item s).getLeft?)
        (structures.filterMap fun s => (item s).getRight?)).about key
      = .mk ((structures.filter fun s => s.name? = some key).filterMap fun s => (item s).getLeft?)
          ((structures.filter fun s => s.kind? = some key).filterMap fun s => (item s).getRight?) := by
  rw [Body.about, Body.mk.injEq]
  constructor
  · rw [Body.attributes, List.filter_filterMap, List.filterMap_filter]
    refine List.filterMap_congr fun s hs => ?_
    rw [(Structure.lower_key (h s hs)).1]
    cases item s <;> simp [Option.filter]
  · rw [Body.blocks, List.filter_filterMap, List.filterMap_filter]
    refine List.filterMap_congr fun s hs => ?_
    rw [(Structure.lower_key (h s hs)).2]
    cases item s <;> simp [Option.filter]

/-- A body whose structures are reordered lowers if the body does, and says the same about every
key. -/
theorem exists_lowered_reordered {body : Body} (h : Reordered structures reordered)
    (hbody : (BodyDef.mk structures).lower file = .ok body) :
    ∃ other, (BodyDef.mk reordered).lower file = .ok other ∧
      ∀ key, other.about key = body.about key := by
  rw [BodyDef.lower] at hbody
  obtain ⟨parts, hparts, hbody⟩ := bind_eq_ok.mp hbody
  have : Nonempty (Attribute ⊕ Block) := ⟨.inr (.mk "" [] ⟨0, 0⟩ (.mk [] []))⟩
  choose! item hitem using exists_item hparts
  have hitem' : ∀ s ∈ reordered, s.lower file = .ok (item s) := fun s hs => hitem s (h.mem hs)
  rw [lowerStructures_eq_ok hitem] at hparts
  obtain rfl := Except.ok.inj hparts
  obtain rfl := Except.ok.inj hbody
  refine ⟨_, by rw [BodyDef.lower, lowerStructures_eq_ok hitem']; rfl, fun key => ?_⟩
  rw [about_lowered hitem, about_lowered hitem', h.entries, h.blocks]

end Hcl

/-! ### Key by key -/

namespace Conversion

open Entries

variable {c : Conversion} {depth : Nat}

/-- **Keys do not interfere.**  Below the ceiling a scope converts iff what it says about each of its
keys does.  The keys of its object are its own, and each has the entry that it has by itself; an
error is the error of one key.  So a scope that says the same about every key converts to the same
object, and so does an HCL body whose structures are reordered. -/
theorem scope_by_keys (body : Body) (hdepth : depth < c.maxDepth) :
    ((∃ out, c.scope depth body = .ok out) ↔
      ∀ key ∈ body.keys, ∃ part, c.scope depth (body.about key) = .ok part) ∧
    (∀ out, c.scope depth body = .ok out →
      (∀ key, key ∈ keys out ↔ key ∈ body.keys) ∧
      ∀ key, ∃ part, c.scope depth (body.about key) = .ok part ∧ find? out key = find? part key) ∧
    (∀ e, c.scope depth body = .error e →
      ∃ key ∈ body.keys, c.scope depth (body.about key) = .error e) ∧
    (∀ other, (∀ key, other.about key = body.about key) →
      ∀ out, c.scope depth body = .ok out → c.scope depth other = .ok out) ∧
    (∀ file structures reordered, Hcl.Reordered structures reordered →
      (Hcl.BodyDef.mk structures).lower file = .ok body →
      ∃ other, (Hcl.BodyDef.mk reordered).lower file = .ok other ∧
        ∀ out, c.scope depth body = .ok out → c.scope depth other = .ok out) := by
  refine ⟨exists_scope_iff hdepth, ?_, ?_, ?_, ?_⟩
  · intro out h
    refine ⟨fun key => mem_keys_scope h, fun key => ?_⟩
    obtain ⟨part, hpart, hslot⟩ := scope_about hdepth h key
    exact ⟨part, hpart, hslot.symm⟩
  · exact fun e h => exists_failing_key hdepth h
  · exact fun other hsame out h => scope_eq_ok_of_about hdepth hsame h
  · intro file structures reordered hreordered hbody
    obtain ⟨other, hother, hsame⟩ := Hcl.exists_lowered_reordered hreordered hbody
    exact ⟨other, hother, fun out h => scope_eq_ok_of_about hdepth hsame h⟩

/-- A type with an attribute of the same name keeps what it collects when a block of another type and
another attribute move in front of it; and a block that runs into an attribute does so among others
as it does alone. -/
theorem scope_by_keys_moved :
    let c : Conversion := ⟨⟨[]⟩, 3⟩
    let number (name : String) (n : Int) : Hcl.Structure :=
      .entry ⟨name, .mk (some ⟨0, 0⟩) (.number (.integer n))⟩
    let block (kind : String) (labels : List String) (n : Int) : Hcl.Structure :=
      .block (some ⟨0, 0⟩) none kind labels (.mk [number "id" n])
    let structures := [number "tags" 0, block "tags" [] 1, block "resource" ["a"] 2,
      number "size" 3, block "tags" [] 4]
    let reordered := [block "resource" ["a"] 2, number "size" 3, number "tags" 0,
      block "tags" [] 1, block "tags" [] 4]
    let object (n : Int) : Value := .object [("id", .number (.integer n))]
    let out : Entries Value := [("resource", .object [("a", object 2)]),
      ("size", .number (.integer 3)),
      ("tags", .array [.number (.integer 0), object 1, object 4])]
    let broken : Body := .mk [⟨"resource", .literal ⟨0, 0⟩ (.string "oops")⟩]
      [.numbered "rule" [] 1, .numbered "resource" ["a"] 2]
    Hcl.Reordered structures reordered ∧
    (∃ body, (Hcl.BodyDef.mk structures).lower "main.tf" = .ok body ∧
      c.scope 0 body = .ok out ∧
      ∃ other, (Hcl.BodyDef.mk reordered).lower "main.tf" = .ok other ∧
        c.scope 0 other = .ok out) ∧
    ∃ e, c.scope 0 broken = .error e ∧
      ∃ key ∈ broken.keys, c.scope 0 (broken.about key) = .error e := by
  intro c number block structures reordered object out broken
  have hreordered : Hcl.Reordered structures reordered := by
    constructor
    · intro name
      by_cases htags : name = "tags"
      · subst htags; rfl
      by_cases hsize : name = "size"
      · subst hsize; rfl
      simp [structures, reordered, number, block, Hcl.Structure.name?, Ne.symm htags, Ne.symm hsize]
    · intro kind
      by_cases htags : kind = "tags"
      · subst htags; rfl
      by_cases hresource : kind = "resource"
      · subst hresource; rfl
      simp [structures, reordered, number, block, Hcl.Structure.kind?, Ne.symm htags,
        Ne.symm hresource]
  have hdepth : 0 < c.maxDepth := by decide
  refine ⟨hreordered, ⟨_, rfl, rfl, ?_⟩, ⟨_, rfl, ?_⟩⟩
  · obtain ⟨other, hother, hsame⟩ :=
      (scope_by_keys _ hdepth).2.2.2.2 "main.tf" structures reordered hreordered rfl
    exact ⟨other, hother, hsame out rfl⟩
  · exact (scope_by_keys broken hdepth).2.2.1 _ rfl

end Conversion
end Groundplan
