import Groundplan.Proofs.Entries
import Groundplan.Survey.Discovery

/-!
# Outlines of file systems

The outline of a file system has the same directories and names and empty files.  Following a path
reads nothing but the outline (`locate_outline`), so what is found below a root is decided by the
outline too (`discover_of_outline`): discovery never looks into a file.
-/

namespace Groundplan

namespace FileTree

mutual

/-- The tree with every file emptied. -/
def outline (tree : FileTree String) : FileTree String :=
  match tree with
  | .file _ => .file []
  | .socket => .socket
  | .directory entries => .directory (outlineEntries entries)
termination_by structural tree

/-- The entries of a directory with every file below emptied. -/
def outlineEntries (entries : List (String × FileTree String)) : List (String × FileTree String) :=
  match entries with
  | [] => []
  | (name, tree) :: rest => (name, outline tree) :: outlineEntries rest
termination_by structural entries

end

theorem find?_outlineEntries (entries : List (String × FileTree String)) (name : String) :
    Entries.find? (outlineEntries entries) name = (Entries.find? entries name).map outline := by
  induction entries with
  | nil => rw [outlineEntries, Entries.find?_nil, Option.map_none]
  | cons p rest ih =>
    obtain ⟨key, tree⟩ := p
    rw [outlineEntries, Entries.find?, Entries.find?]
    split_ifs
    · rfl
    · exact ih

theorem child?_outline (tree : FileTree String) (name : String) :
    tree.outline.child? name = (tree.child? name).map outline := by
  cases tree with
  | file content => rw [outline, child?, child?, Option.map_none]
  | socket => rw [outline, child?, Option.map_none]
  | directory entries => rw [outline, child?, child?, find?_outlineEntries]

theorem descend?_outline (tree : FileTree String) (names : List String) :
    tree.outline.descend? names = (tree.descend? names).map outline := by
  induction names generalizing tree with
  | nil => rfl
  | cons name names ih =>
    rw [descend?, descend?, child?_outline]
    cases tree.child? name with
    | none => rfl
    | some child => exact ih child

end FileTree

namespace FileSystem

/-- The file system with every file emptied. -/
def outline (fs : FileSystem) : FileSystem := { fs with root := fs.root.outline }

theorem descend?_outline (fs : FileSystem) (names : List String) :
    fs.outline.root.descend? names = (fs.root.descend? names).map FileTree.outline :=
  fs.root.descend?_outline names

theorem follow_outline (fs : FileSystem) (names segments : List String) :
    fs.outline.follow names segments = fs.follow names segments := by
  induction segments generalizing names with
  | nil => rw [follow, follow, descend?_outline, Option.isSome_map]
  | cons segment segments ih =>
    rw [follow, follow, descend?_outline]
    -- a step only looks at whether the names lead to a file or to a directory
    cases fs.root.descend? names with
    | none => rfl
    | some tree =>
      cases tree with
      | file content => rw [Option.map_some, FileTree.outline]
      | socket => rw [Option.map_some, FileTree.outline]
      | directory entries =>
        rw [Option.map_some, FileTree.outline]
        dsimp only
        rw [ih, ih, ih]

/-- A path leads to the same place, whatever the files hold. -/
theorem locate_outline (fs : FileSystem) (path : String) :
    fs.outline.locate path = fs.locate path := by
  unfold locate
  rw [follow_outline]
  rfl

theorem find?_outline (fs : FileSystem) (path : String) :
    fs.outline.find? path = (fs.find? path).map FileTree.outline := by
  unfold find?
  rw [locate_outline]
  cases fs.locate path with
  | error fault => rfl
  | ok names => exact fs.descend?_outline names

end FileSystem

/-! ### Discovery -/

namespace Discovery

variable {π : Type}

mutual

/-- Discovery reads names only. -/
theorem found_outline (n : Naming String π) (s : Search) (depth : Nat) (path : π)
    (tree : FileTree String) : found n s depth path tree.outline = found n s depth path tree := by
  cases tree with
  | file content => rw [FileTree.outline, found, found]
  | socket => rw [FileTree.outline]
  | directory entries =>
    rw [FileTree.outline, found.eq_def, found.eq_def]
    cases depth with
    | zero => rfl
    | succ depth =>
      dsimp only
      rw [foundAmong_outline n s depth path entries]
termination_by structural tree

theorem foundAmong_outline (n : Naming String π) (s : Search) (depth : Nat) (path : π)
    (entries : List (String × FileTree String)) :
    foundAmong n s depth path (FileTree.outlineEntries entries)
      = foundAmong n s depth path entries := by
  cases entries with
  | nil => rw [FileTree.outlineEntries]
  | cons p rest =>
    obtain ⟨name, tree⟩ := p
    rw [FileTree.outlineEntries, foundAmong, foundAmong, found_outline n s depth _ tree,
      foundAmong_outline n s depth path rest]
termination_by structural entries

end

theorem discover_outline (fs : FileSystem) (dialect : Dialect) (excluded : List String)
    (maxDepth : Nat) (root : String) :
    discover fs.outline dialect excluded maxDepth root
      = discover fs dialect excluded maxDepth root := by
  unfold discover
  rw [FileSystem.find?_outline]
  cases fs.find? root with
  | none => rfl
  | some tree => exact congrArg Except.ok (found_outline _ _ maxDepth root tree)

/-- **Discovery never looks into a file**: file systems of one outline have the same documents below
a root. -/
theorem discover_of_outline {fs fs' : FileSystem} (h : fs'.outline = fs.outline) (dialect : Dialect)
    (excluded : List String) (maxDepth : Nat) (root : String) :
    discover fs' dialect excluded maxDepth root = discover fs dialect excluded maxDepth root := by
  rw [← discover_outline fs', h, discover_outline]

end Discovery
end Groundplan
