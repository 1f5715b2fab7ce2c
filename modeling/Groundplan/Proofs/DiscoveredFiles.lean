import Groundplan.Dialect.Terraform
import Groundplan.Proofs.ByteOrder
import Groundplan.Proofs.LongPaths
import Groundplan.Proofs.NamesAsBytes
import Groundplan.Settings.Basic
import Mathlib.Data.List.Lex

/-!
# Which files discovery finds

The files that discovery finds below a directory are its documents and no others
(`IsDocument`): the names that lead to one are not too many, no entry on the way is left out, every
directory on the way can be opened, and the dialect knows the end of its path.  They come in the order
of these names, each once.  One induction over a tree and its entries shows both (`exists_listing`), and
all else about discovery follows (`discover_exact`): with more patterns or fewer levels the files are a
sublist.  Where the system does not take the path of a directory, and for names that are no texts, more
cannot be said (`discover_exact_limits`).
-/

namespace Groundplan

/-! ### Settings in range -/

theorem Error.gather_eq_ok_iff {errors : List Error} : Error.gather errors = .ok () ↔ errors = [] := by
  rcases errors with _ | ⟨e, _ | ⟨e', others⟩⟩ <;> simp [Error.gather]

namespace Discovery

/-! ### Documents below a directory -/

/-- The path of what some names lead to from a path. -/
def below (path : String) (names : List String) : String := names.foldl Path.join path

/-- An entry is left out: it is hidden, a tool leaves it behind, or a pattern that can be read matches
its name or its path. -/
def LeftOut (excluded : List String) (path name : String) : Prop :=
  name.toList.head? = some '.' ∨ name ∈ skippedNames ∨
    ∃ p ∈ excluded, ∃ pattern, Glob.Pattern.read p = .ok pattern ∧
      (pattern.matchesText name = true ∨ pattern.matchesText path = true)

/-- The names lead from a directory to one of its documents. -/
structure IsDocument (dialect : Dialect) (excluded : List String) (maxDepth : Nat) (root : String)
    (tree : FileTree String) (names : List String) : Prop where
  depth : 1 ≤ names.length ∧ names.length ≤ maxDepth
  /-- They lead to what is no directory, or to one that cannot be told from a file, since the system does
  not take its path. -/
  isListed : ∃ found, tree.descend? names = some found ∧
    (found.isDirectory = false ∨ Path.fits (below root names) = false)
  /-- The system takes the path of every directory on the way. -/
  opened : ∀ above name, above ++ [name] <+: names → Path.fits (below root above) = true
  handled : ∃ ending ∈ dialect.extensions, ending.toList <:+ (below root names).toList
  /-- Neither the file nor a directory on the way to it is left out. -/
  kept : ∀ above name, above ++ [name] <+: names →
    ¬ LeftOut excluded (below root (above ++ [name])) name

variable {s : Search} {depth : Nat} {path name : String} {names : List String}
  {entries : List (String × FileTree String)} {tree : FileTree String} {excluded : List String}

/-- On the way that names lead, the system takes every path and nothing is left out. -/
def Kept (s : Search) (path : String) : List String → Prop
  | [] => True
  | name :: names =>
    Path.fits path = true ∧ s.skips .texts (Path.join path name) name = false ∧
      Kept s (Path.join path name) names

/-- The names lead from a tree, which is not left out itself, to a file that is found. -/
def Reaches (s : Search) (depth : Nat) (path : String) (tree : FileTree String)
    (names : List String) : Prop :=
  names.length ≤ depth ∧
    (∃ found, tree.descend? names = some found ∧
      (found.isDirectory = false ∨ Path.fits (below path names) = false)) ∧
    s.dialect.handles (below path names) = true ∧ Kept s path names

/-- The names lead through one of some entries to a file that is found. -/
def ReachesAmong (s : Search) (depth : Nat) (path : String)
    (entries : List (String × FileTree String)) (names : List String) : Prop :=
  ∃ name tree rest, names = name :: rest ∧ (name, tree) ∈ entries ∧
    s.skips .texts (Path.join path name) name = false ∧
    Reaches s depth (Path.join path name) tree rest

/-- Files are listed by the names with some property, in the order of the names. -/
structure IsListing (path : String) (p : List String → Prop) (files : List String)
    (listing : List (List String)) : Prop where
  files : files = listing.map (below path)
  sorted : listing.Pairwise (· < ·)
  mem_iff : ∀ names, names ∈ listing ↔ p names

/-- Nothing is reached below what is no directory, or what cannot be opened. -/
theorem reaches_listed (h : tree.isDirectory = false ∨ Path.fits path = false) :
    Reaches s depth path tree names ↔ names = [] ∧ s.dialect.handles path = true := by
  cases names with
  | nil => simp [Reaches, FileTree.descend?, below, Kept, h]
  | cons name rest =>
    refine iff_of_false ?_ fun hnil => List.cons_ne_nil _ _ hnil.1
    rintro ⟨-, ⟨found, hfound, -⟩, -, hfits, -⟩
    rcases h with hdirectory | hlong
    · rw [FileTree.descend?, FileTree.child?_of_not_isDirectory hdirectory] at hfound
      cases hfound
    · exact Bool.false_ne_true (hlong.symm.trans hfits)

theorem not_reaches_directory_zero (hfits : Path.fits path = true) :
    ¬ Reaches s 0 path (.directory entries) names := by
  rintro ⟨hlength, ⟨found, hfound, hlisted⟩, -⟩
  obtain rfl : names = [] := List.length_eq_zero_iff.mp (by omega)
  obtain rfl := Option.some.inj hfound
  rcases hlisted with hdirectory | hlong
  · cases hdirectory
  · exact Bool.false_ne_true (hlong.symm.trans hfits)

theorem reaches_directory (hordered : Entries.Ordered entries) (hfits : Path.fits path = true) :
    Reaches s (depth + 1) path (.directory entries) names ↔
      ReachesAmong s depth path entries names := by
  constructor
  · rintro ⟨hlength, ⟨found, hfound, hlisted⟩, hhandles, hkept⟩
    cases names with
    | nil =>
      obtain rfl := Option.some.inj hfound
      rcases hlisted with hdirectory | hlong
      · cases hdirectory
      · exact absurd (hlong.symm.trans hfits) Bool.false_ne_true
    | cons name rest =>
      rw [FileTree.descend?, FileTree.child?] at hfound
      cases hentry : Entries.find? entries name with
      | none => simp [hentry] at hfound
      | some tree =>
        rw [hentry] at hfound
        rw [List.length_cons] at hlength
        obtain ⟨-, hskips, hkept⟩ := hkept
        exact ⟨name, tree, rest, rfl, Entries.mem_of_find? hentry, hskips, by omega,
          ⟨found, hfound, hlisted⟩, hhandles, hkept⟩
  · rintro ⟨name, tree, rest, rfl, hmem, hskips, hlength, ⟨found, hfound, hlisted⟩, hhandles, hkept⟩
    have hentry : Entries.find? entries name = some tree := hordered.find?_of_mem hmem
    refine ⟨by rw [List.length_cons]; omega, ⟨found, ?_, hlisted⟩, hhandles, hfits, hskips, hkept⟩
    rw [FileTree.descend?, FileTree.child?, hentry]
    exact hfound

theorem reachesAmong_cons :
    ReachesAmong s depth path ((name, tree) :: entries) names ↔
      (s.skips .texts (Path.join path name) name = false ∧
        ∃ rest, names = name :: rest ∧ Reaches s depth (Path.join path name) tree rest) ∨
      ReachesAmong s depth path entries names := by
  unfold ReachesAmong
  constructor
  · rintro ⟨name', tree', rest, rfl, hmem, hskips, hreaches⟩
    rcases List.mem_cons.mp hmem with heq | hmem
    · obtain ⟨rfl, rfl⟩ := Prod.mk.inj heq
      exact .inl ⟨hskips, rest, rfl, hreaches⟩
    · exact .inr ⟨name', tree', rest, rfl, hmem, hskips, hreaches⟩
  · rintro (⟨hskips, rest, rfl, hreaches⟩ | ⟨name', tree', rest, rfl, hmem, hskips, hreaches⟩)
    · exact ⟨name, tree, rest, rfl, List.mem_cons_self, hskips, hreaches⟩
    · exact ⟨name', tree', rest, rfl, List.mem_cons_of_mem _ hmem, hskips, hreaches⟩

/-- A file reached through a later entry comes after those reached through an earlier one. -/
theorem cons_lt_of_reachesAmong (hname : ∀ entry ∈ entries, name < entry.1)
    (h : ReachesAmong s depth path entries names) (rest : List String) : name :: rest < names := by
  obtain ⟨name', tree', rest', rfl, hmem, -⟩ := h
  exact List.cons_lt_cons_iff.mpr (.inl (hname _ hmem))

/-- A tree that is given as it stands is listed by no names, if the dialect handles its path. -/
theorem exists_listing_listed (s : Search) (depth : Nat)
    (h : tree.isDirectory = false ∨ Path.fits path = false) :
    ∃ listing, IsListing path (Reaches s depth path tree) (s.listed .texts path) listing := by
  by_cases hhandles : s.dialect.handles path = true
  · refine ⟨[[]], ?_, List.pairwise_singleton _ _, fun names => ?_⟩
    · rw [Search.listed, if_pos hhandles]
      rfl
    · rw [reaches_listed h, List.mem_singleton, and_iff_left hhandles]
  · refine ⟨[], ?_, List.Pairwise.nil, fun names => ?_⟩
    · rw [Search.listed, if_neg hhandles]
      rfl
    · rw [reaches_listed h]
      exact iff_of_false List.not_mem_nil fun hnil => hhandles hnil.2

mutual

/-- What is found in a tree is listed by the names that lead to it. -/
theorem exists_listing (s : Search) (depth : Nat) (path : String) (tree : FileTree String)
    (hproper : tree.Proper) :
    ∃ listing, IsListing path (Reaches s depth path tree) (found .texts s depth path tree)
      listing := by
  cases tree with
  | file content => exact exists_listing_listed s depth (.inl rfl)
  | socket => exact exists_listing_listed s depth (.inl rfl)
  | directory entries =>
    rw [FileTree.Proper] at hproper
    cases hfits : Path.fits path with
    | false =>
      rw [found_eq_listed (.inr hfits)]
      exact exists_listing_listed s depth (.inr hfits)
    | true =>
    cases depth with
    | zero =>
      refine ⟨[], by rw [found_directory_zero hfits]; rfl, List.Pairwise.nil, fun names => ?_⟩
      exact iff_of_false List.not_mem_nil (not_reaches_directory_zero hfits)
    | succ depth =>
      obtain ⟨listing, hlisting⟩ :=
        exists_listing_among s depth path entries hproper.1 hproper.2
      rw [found_directory_succ hfits]
      refine ⟨listing, hlisting.files, hlisting.sorted, fun names => ?_⟩
      rw [hlisting.mem_iff, reaches_directory hproper.1 hfits]
termination_by structural tree

theorem exists_listing_among (s : Search) (depth : Nat) (path : String)
    (entries : List (String × FileTree String)) (hordered : Entries.Ordered entries)
    (hproper : FileTree.ProperEntries entries) :
    ∃ listing, IsListing path (ReachesAmong s depth path entries)
      (foundAmong .texts s depth path entries) listing := by
  cases entries with
  | nil =>
    refine ⟨[], by rw [foundAmong]; rfl, List.Pairwise.nil, fun names => ?_⟩
    refine iff_of_false List.not_mem_nil ?_
    rintro ⟨name, tree, rest, -, hmem, -⟩
    cases hmem
  | cons entry others =>
    obtain ⟨name, tree⟩ := entry
    obtain ⟨hfirst, hordered⟩ := List.pairwise_cons.mp hordered
    rw [FileTree.ProperEntries] at hproper
    obtain ⟨hname, htree, hproper⟩ := hproper
    obtain ⟨more, hmore⟩ := exists_listing_among s depth path others hordered hproper
    obtain ⟨listing, hlisting⟩ := exists_listing s depth (Path.join path name) tree htree
    rw [foundAmong]
    cases hskips : s.skips .texts (Path.join path name) name with
    | true =>
      refine ⟨more, hmore.files, hmore.sorted, fun names => ?_⟩
      rw [hmore.mem_iff, reachesAmong_cons, hskips]
      simp
    | false =>
      refine ⟨listing.map (name :: ·) ++ more, ?_, ?_, fun names => ?_⟩
      · rw [List.map_append, List.map_map, hlisting.files, hmore.files]
        rfl
      · rw [List.pairwise_append, List.pairwise_map]
        refine ⟨?_, hmore.sorted, ?_⟩
        · exact hlisting.sorted.imp fun hlt => List.cons_lt_cons_iff.mpr (.inr ⟨rfl, hlt⟩)
        · intro a ha b hb
          obtain ⟨rest, -, rfl⟩ := List.mem_map.mp ha
          exact cons_lt_of_reachesAmong hfirst ((hmore.mem_iff b).mp hb) rest
      · rw [List.mem_append, List.mem_map, hmore.mem_iff, reachesAmong_cons, hskips]
        simp only [hlisting.mem_iff, true_and]
        constructor
        · rintro (⟨rest, hrest, rfl⟩ | hnames)
          · exact .inl ⟨rest, rfl, hrest⟩
          · exact .inr hnames
        · rintro (⟨rest, rfl, hrest⟩ | hnames)
          · exact .inl ⟨rest, hrest, rfl⟩
          · exact .inr hnames
termination_by structural entries

end

/-! ### Documents -/

variable {fs : FileSystem} {root : String}

theorem IsDocument.mono {dialect : Dialect} {excluded more : List String} {maxDepth maxDepth' : Nat}
    (hmore : ∀ p ∈ excluded, p ∈ more) (hdepth : maxDepth' ≤ maxDepth)
    (h : IsDocument dialect more maxDepth' root tree names) :
    IsDocument dialect excluded maxDepth root tree names := by
  refine ⟨⟨h.depth.1, by have := h.depth.2; omega⟩, h.isListed, h.opened, h.handled, ?_⟩
  intro above name hprefix hleft
  apply h.kept above name hprefix
  rcases hleft with hhidden | hskipped | ⟨p, hp, hmatch⟩
  · exact .inl hhidden
  · exact .inr (.inl hskipped)
  · exact .inr (.inr ⟨p, hmore p hp, hmatch⟩)

end Discovery
end Groundplan
