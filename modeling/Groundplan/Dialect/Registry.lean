import Groundplan.Dialect.Terraform
import Groundplan.Value

/-!
# Registry of dialects

Dialects are registered under a name and a version.  A name has a default version: the one that was
registered first, until another one is chosen.
-/

namespace Groundplan

/-- Registered dialects and the default version of each name. -/
structure Registry where
  /-- For each name, in order, the dialects of its versions, in order. -/
  dialects : Entries (Entries Dialect) := []
  defaults : Entries String := []

namespace Registry

/-- The dialect that is registered under a name and a version. -/
def find? (r : Registry) (name version : String) : Option Dialect :=
  (Entries.find? r.dialects name).bind (Entries.find? · version)

/-- Registers a dialect in place of the one with the same name and version.  The first version of a
name becomes its default. -/
def register (r : Registry) (name version : String) (d : Dialect) : Registry where
  dialects :=
    r.dialects.insert name (((Entries.find? r.dialects name).getD []).insert version d)
  defaults :=
    match r.defaults.find? name with
    | none => r.defaults.insert name version
    | some _ => r.defaults

/-- Chooses the default version of a name among those that are registered. -/
def chooseDefault (r : Registry) (name version : String) : Except Error Registry :=
  match r.find? name version with
  | none => .error (.unknownDialect name version)
  | some _ => .ok { r with defaults := r.defaults.insert name version }

/-- The dialect of a name and a version, or of the default version when none is asked for. -/
def select (r : Registry) (name : String) (version : Option String) : Except Error Dialect :=
  let refused : Error := .unknownDialect name (version.getD "default")
  match version.or (r.defaults.find? name) with
  | none => .error refused
  | some version =>
    match r.find? name version with
    | none => .error refused
    | some d => .ok d

/-- Every registered name and version in order, and whether it is the default. -/
def entries (r : Registry) : List (String × String × Bool) :=
  r.dialects.flatMap fun (name, versions) =>
    versions.map fun (version, _) => (name, version, r.defaults.find? name == some version)

/-- The registry of the dialects that come with the library. -/
def builtin : Registry :=
  let empty : Registry := {}
  (empty.register "terraform" "v14" (.terraform "v14")).register "terraform" "v12"
    (.terraform "v12")

end Registry
end Groundplan
