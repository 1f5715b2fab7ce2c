/-!
# UTF-8

`Utf8.decode` reads bytes with a machine that takes one byte at a time; a lead byte promises the
number of continuation bytes and the range of the first of them, which rules out overlong forms,
surrogates and values past `0x10FFFF`.  A refusal names where the undecodable sequence starts and how
many of its bytes could still have begun a character.
-/

namespace Groundplan.Utf8

/-- A character of which some bytes are still owed. -/
structure Pending where
  /-- The payload bits read so far. -/
  value : Nat
  /-- How many bytes have been read. -/
  taken : Nat
  /-- How many bytes are owed after the next one. -/
  owed : Nat
  /-- The least next byte. -/
  low : Nat
  /-- The greatest next byte. -/
  high : Nat
  deriving DecidableEq, Repr

/-- Why bytes are not UTF-8. -/
inductive Fault where
  /-- At `index` stand `length` bytes that no character starts with, together with the byte that
  follows them, or alone when `length` is one. -/
  | invalid (length index : Nat)
  /-- The bytes end inside the character that starts at `index`. -/
  | incomplete (index : Nat)
  deriving DecidableEq, Repr

/-- The wording of a fault. -/
def Fault.message : Fault → String
  | .invalid length index => s!"invalid utf-8 sequence of {length} bytes from index {index}"
  | .incomplete index => s!"incomplete utf-8 byte sequence from index {index}"

/-- What a lead byte of two or more bytes promises. -/
def lead? (b : Nat) : Option Pending :=
  if b < 0xC2 then none
  else if b < 0xE0 then some ⟨b - 0xC0, 1, 0, 0x80, 0xBF⟩
  else if b = 0xE0 then some ⟨0, 1, 1, 0xA0, 0xBF⟩
  else if b = 0xED then some ⟨0xD, 1, 1, 0x80, 0x9F⟩
  else if b < 0xF0 then some ⟨b - 0xE0, 1, 1, 0x80, 0xBF⟩
  else if b = 0xF0 then some ⟨0, 1, 2, 0x90, 0xBF⟩
  else if b < 0xF4 then some ⟨b - 0xF0, 1, 2, 0x80, 0xBF⟩
  else if b = 0xF4 then some ⟨4, 1, 2, 0x80, 0x8F⟩
  else none

/-- Reads bytes from between characters or inside one; `index` is where the character at hand
starts. -/
def run (index : Nat) : Option Pending → List UInt8 → Except Fault (List Char)
  | none, [] => .ok []
  | some _, [] => .error (.incomplete index)
  | none, b :: rest =>
    if b.toNat < 0x80 then (Char.ofNat b.toNat :: ·) <$> run (index + 1) none rest
    else match lead? b.toNat with
      | some p => run index (some p) rest
      | none => .error (.invalid 1 index)
  | some p, b :: rest =>
    if p.low ≤ b.toNat ∧ b.toNat ≤ p.high then
      let value := p.value * 64 + (b.toNat - 0x80)
      match p.owed with
      | 0 => (Char.ofNat value :: ·) <$> run (index + p.taken + 1) none rest
      | k + 1 => run index (some ⟨value, p.taken + 1, k, 0x80, 0xBF⟩) rest
    else .error (.invalid p.taken index)

/-- The characters that bytes spell, or where they stop being UTF-8. -/
def decode (bytes : List UInt8) : Except Fault (List Char) := run 0 none bytes

/-- What stands in a text for bytes that spell no character. -/
def replacement : Char := '\ufffd'

/-- Reads bytes from between characters or inside one, with a replacement for each sequence of bytes
that no character goes on with. -/
def lossyRun : Option Pending → List UInt8 → List Char
  | none, [] => []
  | some _, [] => [replacement]
  | pending, b :: rest =>
    -- a byte that does not go on with the character at hand starts the next one
    let start : List Char :=
      if b.toNat < 0x80 then Char.ofNat b.toNat :: lossyRun none rest
      else match lead? b.toNat with
        | some p => lossyRun (some p) rest
        | none => replacement :: lossyRun none rest
    match pending with
    | none => start
    | some p =>
      if p.low ≤ b.toNat ∧ b.toNat ≤ p.high then
        let value := p.value * 64 + (b.toNat - 0x80)
        match p.owed with
        | 0 => Char.ofNat value :: lossyRun none rest
        | k + 1 => lossyRun (some ⟨value, p.taken + 1, k, 0x80, 0xBF⟩) rest
      else replacement :: start

/-- The text of bytes, with replacements where they spell none. -/
def lossy (bytes : List UInt8) : String := String.ofList (lossyRun none bytes)

/-- The bytes of characters. -/
def encode (text : List Char) : List UInt8 := text.flatMap String.utf8EncodeChar

/-- The bytes of a string. -/
def bytes (text : String) : List UInt8 := encode text.toList

end Groundplan.Utf8
