import Groundplan.Dialect.Basic
import Groundplan.Hcl.Document
import Groundplan.Hcl.Lowering

/-!
# The Terraform dialect

Terraform documents are HCL documents.  All versions share one grammar and differ in what they are
called.
-/

namespace Groundplan.Dialect

/-- The tree of an HCL document. -/
def readHcl (path text : String) : Except Error Body :=
  match Hcl.BodyDef.read text with
  | .ok body => body.lower path
  | .error stop => .error (.unreadable path (stop.message text))

/-- A version of Terraform. -/
def terraform (version : String) : Dialect := ⟨"terraform", version, [".tf"], readHcl⟩

end Groundplan.Dialect
