import Groundplan.Text.Utf8

/-!
# Source text

A document's source is a list of bytes, and syntax points into it with spans of byte offsets.
`Source.quote` gives back the text of a span, or says why the span holds none; `Source.lineAt` is the
line of an offset.
-/

namespace Groundplan

/-- A range of byte offsets, the end not included. -/
structure Span where
  /-- Offset of the first byte. -/
  start : Nat
  /-- Offset after the last byte. -/
  stop : Nat
  deriving DecidableEq, Repr, Inhabited

/-- The bytes that a syntax tree was read from. -/
structure Source where
  /-- All bytes. -/
  bytes : List UInt8
  deriving DecidableEq, Repr

/-- Why a span has no text. -/
inductive QuoteFault where
  /-- The span ends before it starts or goes past the `size` bytes of the source. -/
  | outside (span : Span) (size : Nat)
  /-- The bytes of the span are not UTF-8. -/
  | notText (span : Span) (fault : Utf8.Fault)
  deriving DecidableEq, Repr

/-- The wording of a fault. -/
def QuoteFault.message : QuoteFault → String
  | .outside span size =>
    s!"expression span {span.start}..{span.stop} is outside the {size}-byte source"
  | .notText span fault =>
    s!"expression span {span.start}..{span.stop} is not valid UTF-8: {fault.message}"

namespace Source

/-- The source that a text is. -/
def ofString (text : String) : Source := ⟨Utf8.bytes text⟩

/-- Number of bytes. -/
def size (s : Source) : Nat := s.bytes.length

/-- The bytes of a span that lies inside the source. -/
def slice? (s : Source) (span : Span) : Option (List UInt8) :=
  if span.start ≤ span.stop ∧ span.stop ≤ s.size then
    some ((s.bytes.drop span.start).take (span.stop - span.start))
  else none

/-- The text of a span. -/
def quote (s : Source) (span : Span) : Except QuoteFault String :=
  match s.slice? span with
  | none => .error (.outside span s.size)
  | some bytes =>
    match Utf8.decode bytes with
    | .ok text => .ok (String.ofList text)
    | .error fault => .error (.notText span fault)

/-- The line of a byte offset, counted from one; an offset past the end is on the last line. -/
def lineAt (s : Source) (offset : Nat) : Nat := (s.bytes.take offset).count 0x0A + 1

end Source
end Groundplan
