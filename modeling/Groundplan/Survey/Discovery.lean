import Groundplan.Dialect.Basic
import Groundplan.Glob

/-!
# Discovery

The documents below a root, depth first and by name.  Hidden entries, the working files of tools and
what a pattern matches are left out with all that is below them.  Only a name that is a text can be
left out, and a directory with a path that the system does not take counts as a file.
-/

namespace Groundplan

/-- How names make up paths, and what is text about both. -/
structure Naming (ν π : Type) where
  /-- The path of an entry of the directory at a path. -/
  join : π → ν → π
  /-- The text that a name is, if it is one. -/
  text? : ν → Option String
  /-- A path as a text. -/
  shown : π → String
  /-- Whether the system takes a path. -/
  fits : π → Bool

/-- Names and paths that are texts. -/
@[reducible]
def Naming.texts : Naming String String := ⟨Path.join, some, fun path => path, Path.fits⟩

/-- Names and paths that are bytes, whether or not these spell a text. -/
def Naming.bytes : Naming (List UInt8) (List UInt8) where
  join path name :=
    let slash : UInt8 := 0x2F
    if path.getLast? = some slash then path ++ name else path ++ slash :: name
  text? name := (Utf8.decode name).toOption.map String.ofList
  shown := Utf8.lossy
  fits path := path.length ≤ Path.maxBytes

namespace Discovery

variable {ν π : Type}

/-- Names of files and directories that tools leave behind. -/
def skippedNames : List String := [".terraform", ".terragrunt-cache", "terraform.tfstate"]

/-- What a discovery looks for. -/
structure Search where
  dialect : Dialect
  /-- Patterns of what is left out. -/
  patterns : List Glob.Pattern

/-- Whether an entry is left out by its name alone: a hidden one, or what a tool leaves behind. -/
def isSkippedName (name : String) : Bool :=
  name.toList.head? == some '.' || skippedNames.contains name

/-- Whether an entry is left out: by its name, or by a pattern for its name or its path.  One whose name
is no text is not. -/
def Search.skips (s : Search) (n : Naming ν π) (path : π) (name : ν) : Bool :=
  match n.text? name with
  | none => false
  | some text =>
    isSkippedName text || s.patterns.any fun p => p.matchesText text || p.matchesText (n.shown path)

/-- The path alone, when the dialect handles it. -/
def Search.listed (s : Search) (n : Naming ν π) (path : π) : List π :=
  if s.dialect.handles (n.shown path) then [path] else []

mutual

/-- The documents that an entry at a path holds, at most `depth` levels below its directory. -/
def found (n : Naming ν π) (s : Search) (depth : Nat) (path : π) (tree : FileTree ν) : List π :=
  match tree with
  | .file _ | .socket => s.listed n path
  | .directory entries =>
    if n.fits path then
      match depth with
      | 0 => []
      | depth + 1 => foundAmong n s depth path entries
    else s.listed n path
termination_by structural tree

/-- The documents among the entries of a directory. -/
def foundAmong (n : Naming ν π) (s : Search) (depth : Nat) (path : π)
    (entries : List (ν × FileTree ν)) : List π :=
  match entries with
  | [] => []
  | (name, tree) :: rest =>
    (if s.skips n (n.join path name) name then []
      else found n s depth (n.join path name) tree) ++ foundAmong n s depth path rest
termination_by structural entries

end

/-- The patterns that can be read. -/
def usable (patterns : List String) : List Glob.Pattern :=
  patterns.filterMap fun p => (Glob.Pattern.read p).toOption

/-- The documents below a root, which is never left out itself. -/
def discover (fs : FileSystem) (dialect : Dialect) (excluded : List String) (maxDepth : Nat)
    (root : String) : Except Error (List String) :=
  match fs.find? root with
  | none => .error (.missingDirectory root)
  | some tree => .ok (found .texts ⟨dialect, usable excluded⟩ maxDepth root tree)

end Discovery
end Groundplan
