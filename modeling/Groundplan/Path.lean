import Groundplan.Text.Utf8

/-!
# Paths

A path is a text whose parts are set apart by slashes.  Two paths are the same when they have the same
components: repeated slashes, a `.` inside and a slash at the end do not count, a `.` at the start
does.  The system takes paths of so many bytes only.
-/

namespace Groundplan.Path

/-- A component of a path. -/
inductive Component where
  /-- A slash at the start. -/
  | root
  /-- A point at the start of a path that does not start at the root. -/
  | here
  /-- Two points. -/
  | parent
  | name (text : String)
  deriving DecidableEq, Repr

/-- The texts between slashes, empty ones included. -/
def splitSlashes : List Char → List (List Char)
  | [] => [[]]
  | c :: rest =>
    if c = '/' then [] :: splitSlashes rest
    else
      match splitSlashes rest with
      | [] => [[c]]
      | segment :: segments => (c :: segment) :: segments

/-- The segments of a path, empty ones included. -/
def segments (path : String) : List String := (splitSlashes path.toList).map String.ofList

/-- Whether a path starts at the root. -/
def isAbsolute (path : String) : Bool := path.toList.head? == some '/'

/-- The component that a segment stands for after the start of a path. -/
def component? (segment : String) : Option Component :=
  if segment = "" ∨ segment = "." then none
  else if segment = ".." then some .parent
  else some (.name segment)

/-- The components of a path. -/
def components (path : String) : List Component :=
  let start :=
    if isAbsolute path then [.root]
    else if (segments path).head? = some "." then [.here] else []
  start ++ (segments path).filterMap component?

/-- Whether two paths have the same components. -/
def same (a b : String) : Bool := components a == components b

/-- A name below a path. -/
def join (path name : String) : String :=
  if path.toList.getLast? = some '/' then path ++ name else path ++ "/" ++ name

/-- The greatest number of bytes of a path that the system takes. -/
def maxBytes : Nat := 4095

/-- Whether the system takes a path. -/
def fits (path : String) : Bool := (Utf8.bytes path).length ≤ maxBytes

end Groundplan.Path
