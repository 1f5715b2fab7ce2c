import Groundplan.Value
import Mathlib.Data.List.Induction
import Mathlib.Data.List.Sort
import Mathlib.Data.String.Basic

/-!
# Laws of entries

`insert` changes the value of its key and of no other (`find?_insert_self`, `find?_insert_of_ne`),
and it keeps entries in order: `Ordered` entries have each key once, in the order of the keys
(`ordered_insert`), and are determined by what is found in them (`Ordered.ext`).  Of ordered entries
an insertion drops the entry of its key, if there is one, and adds the new one (`insert_perm`,
`perm_of_find?`).  So of pairs with equal keys the last one becomes the entry (`find?_ofPairs`), and
pairs with different keys all do (`ofPairs_perm`).
-/

namespace Groundplan.Entries

variable {α : Type} {entries : Entries α} {key other : String} {value : α}

/-! ### Looking up -/

@[simp] theorem find?_nil : find? ([] : Entries α) key = none := rfl

@[simp] theorem find?_cons_self (rest : Entries α) : find? ((key, value) :: rest) key = some value := by
  rw [find?, if_pos rfl]

theorem find?_cons_of_ne (rest : Entries α) (h : other ≠ key) :
    find? ((key, value) :: rest) other = find? rest other := by
  rw [find?, if_neg (Ne.symm h)]

/-- What is found is an entry. -/
theorem mem_of_find? (h : find? entries key = some value) : (key, value) ∈ entries := by
  induction entries with
  | nil => cases h
  | cons p rest ih =>
    obtain ⟨k, v⟩ := p
    by_cases hk : key = k
    · subst hk
      rw [find?_cons_self] at h
      obtain rfl := Option.some.inj h
      exact List.mem_cons_self
    · rw [find?_cons_of_ne rest hk] at h
      exact List.mem_cons_of_mem _ (ih h)

/-- A key is there iff something is found under it. -/
theorem mem_keys_iff : key ∈ keys entries ↔ ∃ value, find? entries key = some value := by
  induction entries with
  | nil => simp [keys]
  | cons p rest ih =>
    obtain ⟨k, v⟩ := p
    by_cases hk : key = k
    · subst hk
      simp [keys]
    · rw [find?_cons_of_ne rest hk, ← ih]
      simp [keys, hk]

theorem find?_eq_none_iff : find? entries key = none ↔ key ∉ keys entries := by
  rw [mem_keys_iff]
  cases find? entries key with
  | none => simp
  | some v => simp

/-! ### Inserting -/

@[simp] theorem insert_nil : insert ([] : Entries α) key value = [(key, value)] := rfl

/-- The key that was inserted holds its value. -/
@[simp] theorem find?_insert_self : find? (insert entries key value) key = some value := by
  induction entries with
  | nil => exact find?_cons_self []
  | cons p rest ih =>
    obtain ⟨k, v⟩ := p
    rw [insert]
    split_ifs with hlt heq
    · exact find?_cons_self _
    · exact find?_cons_self _
    · rw [find?_cons_of_ne _ (Ne.symm heq), ih]

/-- Every other key holds what it held. -/
theorem find?_insert_of_ne (h : other ≠ key) :
    find? (insert entries key value) other = find? entries other := by
  induction entries with
  | nil => exact find?_cons_of_ne [] h
  | cons p rest ih =>
    obtain ⟨k, v⟩ := p
    rw [insert]
    split_ifs with hlt heq
    · exact find?_cons_of_ne _ h
    · subst heq
      rw [find?_cons_of_ne _ h, find?_cons_of_ne _ h]
    · by_cases hk : other = k
      · subst hk
        rw [find?_cons_self, find?_cons_self]
      · rw [find?_cons_of_ne _ hk, find?_cons_of_ne _ hk, ih]

theorem mem_keys_insert : other ∈ keys (insert entries key value) ↔ other = key ∨ other ∈ keys entries := by
  by_cases h : other = key
  · subst h
    simp [mem_keys_iff]
  · simp [mem_keys_iff, find?_insert_of_ne h, h]

/-- An entry after an insertion is the new one or was there before. -/
theorem mem_insert {p : String × α} (h : p ∈ insert entries key value) :
    p = (key, value) ∨ p ∈ entries := by
  induction entries with
  | nil => exact Or.inl (List.mem_singleton.mp h)
  | cons q rest ih =>
    obtain ⟨k, v⟩ := q
    rw [insert] at h
    split_ifs at h with hlt heq
    · exact List.mem_cons.mp h
    · rcases List.mem_cons.mp h with h | h
      · exact Or.inl h
      · exact Or.inr (List.mem_cons_of_mem _ h)
    · rcases List.mem_cons.mp h with h | h
      · exact Or.inr (List.mem_cons.mpr (Or.inl h))
      · rcases ih h with h | h
        · exact Or.inl h
        · exact Or.inr (List.mem_cons_of_mem _ h)

/-! ### Order -/

/-- Each key stands once, in the order of the keys. -/
def Ordered (entries : Entries α) : Prop := entries.Pairwise fun p q => p.1 < q.1

theorem ordered_nil : Ordered ([] : Entries α) := List.Pairwise.nil

/-- Insertion keeps the order. -/
theorem ordered_insert (h : Ordered entries) : Ordered (insert entries key value) := by
  induction entries with
  | nil => exact List.pairwise_singleton _ _
  | cons p rest ih =>
    obtain ⟨k, v⟩ := p
    obtain ⟨hfirst, hrest⟩ := List.pairwise_cons.mp h
    rw [insert]
    split_ifs with hlt heq
    · refine List.pairwise_cons.mpr ⟨?_, h⟩
      intro q hq
      rcases List.mem_cons.mp hq with rfl | hq
      · exact hlt
      · exact lt_trans hlt (hfirst q hq)
    · subst heq
      exact List.pairwise_cons.mpr ⟨hfirst, hrest⟩
    · refine List.pairwise_cons.mpr ⟨?_, ih hrest⟩
      intro q hq
      rcases mem_insert hq with rfl | hq
      · exact lt_of_le_of_ne (not_lt.mp hlt) heq
      · exact hfirst q hq

/-- Of ordered entries, each is found under its key. -/
theorem Ordered.find?_of_mem (h : Ordered entries) (hmem : (key, value) ∈ entries) :
    find? entries key = some value := by
  induction entries with
  | nil => cases hmem
  | cons p rest ih =>
    obtain ⟨k, v⟩ := p
    obtain ⟨hfirst, hrest⟩ := List.pairwise_cons.mp h
    rcases List.mem_cons.mp hmem with heq | hmem
    · cases heq
      exact find?_cons_self rest
    · rw [find?_cons_of_ne rest (ne_of_gt (hfirst _ hmem))]
      exact ih hrest hmem

/-- Ordered entries are determined by what is found in them. -/
theorem Ordered.ext {others : Entries α} (h : Ordered entries) (hothers : Ordered others)
    (heq : ∀ key, find? entries key = find? others key) : entries = others := by
  -- the order of the keys is strict, so that the entries are determined by their members
  have : Std.Irrefl fun p q : String × α => p.1 < q.1 := ⟨fun p => lt_irrefl p.1⟩
  have : Std.Asymm fun p q : String × α => p.1 < q.1 := ⟨fun p q hlt => lt_asymm hlt⟩
  refine List.Pairwise.eq_of_mem_iff h hothers fun p => ?_
  constructor
  · intro hp
    exact mem_of_find? ((heq p.1).symm.trans (h.find?_of_mem hp))
  · intro hp
    exact mem_of_find? ((heq p.1).trans (hothers.find?_of_mem hp))

/-! ### Entries without a key -/

/-- The entries of all other keys. -/
def without (entries : Entries α) (key : String) : Entries α := entries.filter fun p => p.1 ≠ key

theorem without_cons_self (rest : Entries α) :
    without ((key, value) :: rest) key = without rest key := by
  simp [without]

theorem without_cons_of_ne (rest : Entries α) (h : other ≠ key) :
    without ((other, value) :: rest) key = (other, value) :: without rest key := by
  simp [without, h]

theorem without_of_notMem (h : key ∉ keys entries) : without entries key = entries := by
  rw [without, List.filter_eq_self]
  intro p hp
  have : p.1 ≠ key := fun hkey => h (List.mem_map.mpr ⟨p, hp, hkey⟩)
  simpa using this

/-- Entries that all come later than a key do not hold it. -/
theorem without_of_forall_lt (h : ∀ p ∈ entries, key < p.1) : without entries key = entries := by
  refine without_of_notMem fun hkey => ?_
  obtain ⟨p, hp, rfl⟩ := List.mem_map.mp hkey
  exact lt_irrefl _ (h p hp)

/-- An insertion drops the entry of its key and adds the new one. -/
theorem insert_perm (h : Ordered entries) (key : String) (value : α) :
    (insert entries key value).Perm ((key, value) :: without entries key) := by
  induction entries with
  | nil => exact List.Perm.refl _
  | cons p rest ih =>
    obtain ⟨k, v⟩ := p
    obtain ⟨hfirst, hrest⟩ := List.pairwise_cons.mp h
    rw [insert]
    split_ifs with hlt heq
    -- a new key goes before later ones, none of which is it
    · rw [without_of_forall_lt]
      intro q hq
      rcases List.mem_cons.mp hq with rfl | hq
      · exact hlt
      · exact lt_trans hlt (hfirst q hq)
    · subst heq
      rw [without_cons_self, without_of_forall_lt hfirst]
    -- the new entry changes places with the earlier one
    · rw [without_cons_of_ne rest heq]
      exact ((ih hrest).cons _).trans (List.Perm.swap _ _ _)

/-- Ordered entries are the entry of a key, if there is one, and those of all other keys. -/
theorem perm_of_find? (h : Ordered entries) :
    entries.Perm (((find? entries key).toList.map (key, ·)) ++ without entries key) := by
  induction entries with
  | nil => exact List.Perm.refl _
  | cons p rest ih =>
    obtain ⟨k, v⟩ := p
    obtain ⟨hfirst, hrest⟩ := List.pairwise_cons.mp h
    by_cases hk : k = key
    · subst hk
      rw [find?_cons_self, without_cons_self, without_of_forall_lt hfirst]
      exact List.Perm.refl _
    · rw [find?_cons_of_ne rest (Ne.symm hk), without_cons_of_ne rest hk]
      exact ((ih hrest).cons _).trans List.perm_middle.symm

/-! ### Entries of pairs -/

variable {pairs : List (String × α)}

theorem ofPairs_append_singleton (pairs : List (String × α)) (p : String × α) :
    ofPairs (pairs ++ [p]) = (ofPairs pairs).insert p.1 p.2 := List.foldl_append

theorem ordered_ofPairs (pairs : List (String × α)) : (ofPairs pairs).Ordered := by
  induction pairs using List.reverseRecOn with
  | nil => exact ordered_nil
  | append_singleton pairs p ih =>
    rw [ofPairs_append_singleton]
    exact ordered_insert ih

theorem mem_of_mem_ofPairs {p : String × α} (h : p ∈ ofPairs pairs) : p ∈ pairs := by
  induction pairs using List.reverseRecOn with
  | nil => exact h
  | append_singleton pairs q ih =>
    rw [ofPairs_append_singleton] at h
    rcases mem_insert h with rfl | h
    · exact List.mem_append_right _ List.mem_cons_self
    · exact List.mem_append_left _ (ih h)

/-- Of pairs with equal keys the last one counts. -/
theorem find?_ofPairs (pairs : List (String × α)) (key : String) :
    find? (ofPairs pairs) key = (pairs.reverse.find? (·.1 = key)).map (·.2) := by
  induction pairs using List.reverseRecOn with
  | nil => rfl
  | append_singleton pairs p ih =>
    rw [ofPairs_append_singleton, List.reverse_append, List.reverse_singleton, List.singleton_append]
    by_cases hkey : p.1 = key
    · subst hkey
      rw [find?_insert_self, List.find?_cons_of_pos (by simp)]
      rfl
    · rw [find?_insert_of_ne (Ne.symm hkey), ih, List.find?_cons_of_neg (by simpa using hkey)]

/-- Pairs with different keys all become entries. -/
theorem ofPairs_perm (h : (pairs.map (·.1)).Nodup) : (ofPairs pairs).Perm pairs := by
  induction pairs using List.reverseRecOn with
  | nil => exact .nil
  | append_singleton pairs p ih =>
    rw [List.map_append, List.nodup_append] at h
    obtain ⟨hpairs, -, hdisjoint⟩ := h
    -- the key of the last pair is new, so that its insertion drops nothing
    have hnew : p.1 ∉ keys (ofPairs pairs) := by
      intro hkey
      obtain ⟨q, hq, hqp⟩ := List.mem_map.mp hkey
      exact hdisjoint q.1 (List.mem_map_of_mem (mem_of_mem_ofPairs hq)) p.1 List.mem_cons_self hqp
    have hinsert := insert_perm (ordered_ofPairs pairs) p.1 p.2
    rw [without_of_notMem hnew] at hinsert
    rw [ofPairs_append_singleton]
    exact hinsert.trans (((ih hpairs).cons p).trans (List.perm_append_singleton p pairs).symm)

end Groundplan.Entries
