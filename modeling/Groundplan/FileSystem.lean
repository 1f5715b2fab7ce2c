import Groundplan.Path
import Groundplan.Text.Utf8
import Groundplan.Value

/-!
# File systems

A file system is a tree of directories and files with a working directory in it.  `find?` follows a
path from the working directory or from the root: a `.` or an empty segment stays in a directory, `..`
goes up, and nothing lies below a file.  The system takes no path that is too long.
-/

namespace Groundplan

/-- A tree of files whose entries have names of some type; the entries of a directory stand in the
order of their names. -/
inductive FileTree (ν : Type) where
  | file (content : List UInt8)
  /-- What is there and is neither a file with content nor a directory; it cannot be opened. -/
  | socket
  | directory (entries : List (ν × FileTree ν))
  deriving Repr

namespace FileTree

/-- The entry of a name. -/
def child? : FileTree String → String → Option (FileTree String)
  | file _, _ | socket, _ => none
  | directory entries, name => Entries.find? entries name

/-- Whether it is a directory. -/
def isDirectory {ν : Type} : FileTree ν → Bool
  | file _ | socket => false
  | directory _ => true

/-- What lies at some names below. -/
def descend? : FileTree String → List String → Option (FileTree String)
  | tree, [] => some tree
  | tree, name :: names =>
    match tree.child? name with
    | some child => descend? child names
    | none => none

/-- The tree with a file at some names below, which replaces a file that is there; directories on the
way are made.  Nothing when no directory is on the way or no file in the place. -/
def put? (content : List UInt8) : List String → Option (FileTree String) → Option (FileTree String)
  | [], none => some (.file content)
  | [], some (.file _) => some (.file content)
  | [], some .socket | [], some (.directory _) => none
  | name :: names, none => do
    let child ← put? content names none
    return .directory [(name, child)]
  | _ :: _, some (.file _) | _ :: _, some .socket => none
  | name :: names, some (.directory entries) => do
    let child ← put? content names (Entries.find? entries name)
    return .directory (Entries.insert entries name child)

/-- The tree with a directory at some names below, unless something else is on the way. -/
def makeDirectory? : List String → Option (FileTree String) → Option (FileTree String)
  | [], none => some (.directory [])
  | [], some tree => if tree.isDirectory then some tree else none
  | name :: names, none => do
    let child ← makeDirectory? names none
    return .directory [(name, child)]
  | _ :: _, some (.file _) | _ :: _, some .socket => none
  | name :: names, some (.directory entries) => do
    let child ← makeDirectory? names (Entries.find? entries name)
    return .directory (Entries.insert entries name child)

end FileTree

/-- A tree from the root and the names that lead to the working directory. -/
structure FileSystem where
  root : FileTree String
  working : List String
  deriving Repr

namespace FileSystem

/-- The file system without files whose working directory lies at some names. -/
def empty (working : List String) : FileSystem :=
  ⟨(FileTree.makeDirectory? working none).getD (.directory []), working⟩

/-- Puts a file at some names from the root; the file system stays as it is where it cannot be. -/
def withFile (fs : FileSystem) (names : List String) (content : List UInt8) : FileSystem :=
  { fs with root := (FileTree.put? content names (some fs.root)).getD fs.root }

/-- Makes a directory at some names from the root unless something is in the way. -/
def withDirectory (fs : FileSystem) (names : List String) : FileSystem :=
  { fs with root := (FileTree.makeDirectory? names (some fs.root)).getD fs.root }

/-- Why a file could not be read or written, in the words of the system. -/
inductive Fault where
  | notFound
  | isDirectory
  | notDirectory
  | notText
  | tooLong
  /-- It is nothing that can be opened. -/
  | noDevice
  deriving DecidableEq, Repr

/-- The wording of a fault. -/
def Fault.message : Fault → String
  | notFound => "No such file or directory (os error 2)"
  | isDirectory => "Is a directory (os error 21)"
  | notDirectory => "Not a directory (os error 20)"
  | notText => "stream did not contain valid UTF-8"
  | tooLong => "File name too long (os error 36)"
  | noDevice => "No such device or address (os error 6)"

/-! ### Paths -/

/-- The names from the root that segments lead to from some names on. -/
def follow (fs : FileSystem) (names : List String) : List String → Except Fault (List String)
  | [] => if (fs.root.descend? names).isSome then .ok names else .error .notFound
  | segment :: segments =>
    match fs.root.descend? names with
    | none => .error .notFound
    | some (.file _) | some .socket => .error .notDirectory
    | some (.directory _) =>
      if segment = "" ∨ segment = "." then follow fs names segments
      else if segment = ".." then follow fs names.dropLast segments
      else follow fs (names ++ [segment]) segments

/-- The names from the root of where a path starts. -/
def startOf (fs : FileSystem) (path : String) : List String :=
  if Path.isAbsolute path then [] else fs.working

/-- The names from the root of what a path leads to. -/
def locate (fs : FileSystem) (path : String) : Except Fault (List String) :=
  if path = "" then .error .notFound
  else if Path.fits path then fs.follow (fs.startOf path) (Path.segments path)
  else .error .tooLong

/-- What a path leads to. -/
def find? (fs : FileSystem) (path : String) : Option (FileTree String) :=
  match fs.locate path with
  | .ok names => fs.root.descend? names
  | .error _ => none

/-- Whether something is at a path. -/
def holds (fs : FileSystem) (path : String) : Bool := (fs.find? path).isSome

/-- Whether a file is at a path. -/
def isFile (fs : FileSystem) (path : String) : Bool :=
  match fs.find? path with
  | some (.file _) => true
  | _ => false

/-! ### Reading and writing text -/

/-- The text that bytes are. -/
def textOf (content : List UInt8) : Except Fault String :=
  match Utf8.decode content with
  | .ok text => .ok (String.ofList text)
  | .error _ => .error .notText

/-- The text of the file at a path. -/
def readText (fs : FileSystem) (path : String) : Except Fault String := do
  let names ← fs.locate path
  match fs.root.descend? names with
  | none => .error .notFound
  | some (.directory _) => .error .isDirectory
  | some .socket => .error .noDevice
  | some (.file content) => textOf content

/-- The names from the root of the file that writing to a path creates or replaces: a name in a
directory that is there. -/
def target (fs : FileSystem) (path : String) : Except Fault (List String) := do
  if path = "" then .error .notFound
  if !Path.fits path then .error .tooLong
  let segments := (Path.segments path).reverse
  match segments.dropWhile (· = "") with
  | [] => .error .isDirectory
  | name :: above =>
    let names ← fs.follow (fs.startOf path) above.reverse
    match fs.root.descend? names with
    | some (.directory _) =>
      if segments.head? = some "" ∨ name = "." ∨ name = ".." then .error .isDirectory
      else .ok (names ++ [name])
    | _ => .error .notDirectory

/-- Writes a text to a path. -/
def writeText (fs : FileSystem) (path text : String) : Except Fault FileSystem := do
  let names ← fs.target path
  match FileTree.put? (Utf8.bytes text) names (some fs.root) with
  | some root => .ok { fs with root }
  | none =>
    match fs.root.descend? names with
    | some .socket => .error .noDevice
    | _ => .error .isDirectory

end FileSystem
end Groundplan
