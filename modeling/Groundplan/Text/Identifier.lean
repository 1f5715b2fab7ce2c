import Groundplan.Text.IdentifierTable
import Groundplan.Text.Ranges

/-!
# Identifiers

An identifier starts with a character of XID_Start or an underscore and goes on with characters of
XID_Continue or hyphens.
-/

namespace Groundplan.Text

/-- Whether an identifier may start with a character. -/
def isIdentifierStart (c : Char) : Bool :=
  c == '_' || (if c.toNat < 0x80 then c.isAlpha else inRanges identifierStartRanges c.toNat)

/-- Whether an identifier may go on with a character. -/
def isIdentifierPart (c : Char) : Bool :=
  c == '-' || c == '_' ||
    (if c.toNat < 0x80 then c.isAlphanum
    else inRanges identifierStartRanges c.toNat || inRanges identifierExtraRanges c.toNat)

end Groundplan.Text
