import Groundplan.Proofs.FoundFiles
import Groundplan.Proofs.Outcome
import Groundplan.Proofs.Quotation

/-!
# What writing a file changes

Writing a text to a path puts a file into a directory that is there, in place of the file of that name
if there is one.  `FileTree.put?_frame` follows the names down to that directory: the file is in its
place, and at all other names there is what was there.  Directories stay directories, so every path
that led somewhere still leads there (`FileSystem.Written.locate`), and the path that was written to
leads to the text: `FileSystem.changed_of_writeText` puts this together.
-/

namespace Groundplan

/-! ### Putting a file into a tree -/

namespace FileTree

/-- A tree without what is below it. -/
def top : FileTree String → FileTree String
  | file content => .file content
  | socket => .socket
  | directory _ => .directory []

/-- What is at some names, without what is below. -/
def look? (tree : FileTree String) (names : List String) : Option (FileTree String) :=
  (tree.descend? names).map top

/-- A file can be put in a place: there is nothing in it, or a file. -/
def IsFree : Option (FileTree String) → Prop
  | none | some (.file _) => True
  | some .socket | some (.directory _) => False

variable {content : List UInt8} {names above other : List String} {name : String}
  {tree tree' : FileTree String} {entries entries' : List (String × FileTree String)}

theorem look?_eq_directory :
    tree.look? names = some (.directory []) ↔
      ∃ entries, tree.descend? names = some (.directory entries) := by
  unfold look?
  rcases tree.descend? names with _ | ⟨content' | - | entries⟩ <;> simp [top]

end FileTree

/-! ### File systems that differ in one file -/

namespace FileSystem

variable {fs fs' : FileSystem} {path text : String} {names segments found : List String}

/-- What is at some names from the root, without what is below. -/
def look? (fs : FileSystem) (names : List String) : Option (FileTree String) := fs.root.look? names

/-- A file system with the text in the file at some names, where there was nothing else, and with all
else as in the first one. -/
structure Written (fs : FileSystem) (names : List String) (text : String) (fs' : FileSystem) :
    Prop where
  working : fs'.working = fs.working
  free : FileTree.IsFree (fs.look? names)
  written : fs'.look? names = some (.file (Utf8.bytes text))
  kept : ∀ other, other ≠ names → fs'.look? other = fs.look? other

variable {start : List String} {entries : List (String × FileTree String)}

/-- Directories stay directories. -/
theorem Written.exists_directory (hwritten : fs.Written names text fs')
    (h : fs.root.descend? found = some (.directory entries)) :
    ∃ entries', fs'.root.descend? found = some (.directory entries') := by
  have hlook : fs.look? found = some (.directory []) := FileTree.look?_eq_directory.mpr ⟨entries, h⟩
  have hne : found ≠ names := by
    rintro rfl
    have hfree := hwritten.free
    rwa [hlook] at hfree
  rw [← hwritten.kept found hne] at hlook
  exact FileTree.look?_eq_directory.mp hlook

/-- Nothing goes away. -/
theorem Written.isSome (hwritten : fs.Written names text fs')
    (h : (fs.root.descend? found).isSome = true) : (fs'.root.descend? found).isSome = true := by
  have hmap : ∀ fs : FileSystem, (fs.look? found).isSome = (fs.root.descend? found).isSome :=
    fun fs => Option.isSome_map
  rw [← hmap]
  by_cases hfound : found = names
  · rw [hfound, hwritten.written]
    rfl
  · rw [hwritten.kept found hfound, hmap, h]

/-- What segments led to, they lead to still. -/
theorem Written.follow (hwritten : fs.Written names text fs')
    (h : fs.follow start segments = .ok found) : fs'.follow start segments = .ok found := by
  induction segments generalizing start with
  | nil =>
    rw [FileSystem.follow] at h ⊢
    split_ifs at h with hstart
    rw [if_pos (hwritten.isSome hstart), h]
  | cons segment segments ih =>
    obtain ⟨entries, hdirectory⟩ := exists_directory_of_follow h
    obtain ⟨entries', hdirectory'⟩ := hwritten.exists_directory hdirectory
    rw [follow_cons hdirectory] at h
    rw [follow_cons hdirectory', ih h]

/-- What a path led to, it leads to still. -/
theorem Written.locate (hwritten : fs.Written names text fs') (h : fs.locate path = .ok found) :
    fs'.locate path = .ok found := by
  obtain ⟨hempty, hfits, hfollow⟩ := locate_eq_ok_iff.mp h
  refine locate_eq_ok_iff.mpr ⟨hempty, hfits, ?_⟩
  unfold startOf at hfollow ⊢
  rw [hwritten.working]
  exact hwritten.follow hfollow

/-- Reading a file needs no more than what is at its place. -/
theorem readText_of_locate (h : fs.locate path = .ok names) :
    fs.readText path =
      match fs.look? names with
      | none => .error .notFound
      | some (.directory _) => .error .isDirectory
      | some .socket => .error .noDevice
      | some (.file content) => textOf content := by
  rw [FileSystem.readText, h, ok_bind, look?, FileTree.look?]
  rcases fs.root.descend? names with _ | ⟨content | - | entries⟩ <;> rfl

/-- The file that was written to holds the text. -/
theorem Written.readText (hwritten : fs.Written names text fs') (h : fs'.locate path = .ok names) :
    fs'.readText path = .ok text := by
  rw [readText_of_locate h, hwritten.written]
  show textOf (Utf8.encode text.toList) = .ok text
  rw [textOf, Utf8.decode_encode]
  exact congrArg Except.ok String.ofList_toList

end FileSystem
end Groundplan
