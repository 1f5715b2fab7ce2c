/-!
# Digits

The naturals that decimal and hexadecimal digits spell.
-/

namespace Groundplan.Text

/-- The natural that decimal digits spell. -/
def decimalValue (ds : List Char) : Nat := ds.foldl (fun n d => n * 10 + (d.toNat - 0x30)) 0

/-- The value of a hexadecimal digit. -/
def hexDigit? (c : Char) : Option Nat :=
  if '0' ≤ c ∧ c ≤ '9' then some (c.toNat - 0x30)
  else if 'a' ≤ c ∧ c ≤ 'f' then some (c.toNat - 0x57)
  else if 'A' ≤ c ∧ c ≤ 'F' then some (c.toNat - 0x37)
  else none

/-- The natural that hexadecimal digits spell; none when a character is no digit. -/
def hexValue? (ds : List Char) : Option Nat :=
  ds.foldlM (fun n c => (n * 16 + ·) <$> hexDigit? c) 0

/-- The character whose code point hexadecimal digits spell. -/
def scalar? (ds : List Char) : Option Char := do
  let n ← hexValue? ds
  if n.isValidChar then some (Char.ofNat n) else none

/-- The character that a letter after a backslash stands for in JSON and in quoted HCL text. -/
def escaped? (c : Char) : Option Char :=
  if c = '\"' ∨ c = '\\' ∨ c = '/' then some c
  else if c = 'n' then some '\n'
  else if c = 'r' then some '\r'
  else if c = 't' then some '\t'
  else if c = 'b' then some '\x08'
  else if c = 'f' then some '\x0c'
  else none

end Groundplan.Text
