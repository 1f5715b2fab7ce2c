import Groundplan.Error
import Groundplan.FileSystem
import Groundplan.Source
import Groundplan.Tree

/-!
# Dialects

A dialect knows which files are its documents and reads their text as a tree.
-/

namespace Groundplan

/-- A way of writing documents. -/
structure Dialect where
  name : String
  version : String
  /-- The ends of the paths of its documents. -/
  extensions : List String
  /-- The tree of a document at a path with a text. -/
  read : String → String → Except Error Body

/-- A document that was read. -/
structure Document where
  path : String
  /-- The text that the spans of the tree point into. -/
  text : String
  body : Body
  deriving Repr

/-- The source of a document. -/
def Document.source (d : Document) : Source := .ofString d.text

namespace Dialect

/-- Whether a path is that of a document. -/
def handles (d : Dialect) (path : String) : Bool :=
  d.extensions.any fun ending => ending.toList.isSuffixOf path.toList

/-- Reads a text as the document at a path. -/
def load (d : Dialect) (path text : String) : Except Error Document :=
  (fun body => ⟨path, text, body⟩) <$> d.read path text

/-- A document is at the path that it was read as. -/
theorem path_of_load {d : Dialect} {path text : String} {document : Document}
    (h : d.load path text = .ok document) : document.path = path := by
  unfold load at h
  cases hread : d.read path text with
  | error e =>
    rw [hread] at h
    cases h
  | ok body =>
    rw [hread] at h
    cases h
    rfl

/-- Reads the file at a path as a document. -/
def loadAt (d : Dialect) (fs : FileSystem) (path : String) : Except Error Document :=
  if fs.isFile path then
    match fs.readText path with
    | .ok text => d.load path text
    | .error fault => .error (.inaccessible path fault.message)
  else .error (.missingFile path)

end Dialect
end Groundplan
