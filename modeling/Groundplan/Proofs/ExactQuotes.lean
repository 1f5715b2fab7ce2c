import Groundplan.Canonical.Expression
import Groundplan.Proofs.Decoding

/-!
# Quotes are exact

A conversion quotes a span iff it is a range of the source whose bytes are well-formed UTF-8
(`Conversion.exists_quote_iff_isValidUTF8`).  In a source that is UTF-8 as a whole these are the empty
ranges and the ranges between boundaries (`Source.isValidUTF8_extract_iff`), where an offset is a
boundary if the source ends there or a character starts there (`Source.IsBoundary`).  A quote depends
on nothing but the bytes of its range (`Source.quote_congr`), and two ranges that meet are quoted as
one (`Source.quote_append`).
-/

namespace Groundplan

/-! ### Lists of bytes and arrays of them -/

namespace Utf8

theorem toByteArray_eq_iff {text : String} {bytes : List UInt8} :
    text.toByteArray = bytes.toByteArray ↔ bytes = Utf8.bytes text := by
  rw [← toByteArray_bytes, List.toByteArray_inj, eq_comm]

/-- Well-formed bytes are those of a text. -/
theorem isValidUTF8_iff {bytes : List UInt8} :
    bytes.toByteArray.IsValidUTF8 ↔ ∃ text : String, bytes = Utf8.bytes text := by
  constructor
  · rintro ⟨chars, hchars⟩
    refine ⟨String.ofList chars, toByteArray_eq_iff.mp ?_⟩
    rw [String.toByteArray_ofList, hchars]
  · rintro ⟨text, rfl⟩
    rw [toByteArray_bytes]
    exact text.isValidUTF8

theorem toByteArray_extract (bytes : List UInt8) (a b : Nat) :
    (bytes.extract a b).toByteArray = bytes.toByteArray.extract a b := by
  refine ByteArray.ext (Array.toList_inj.mp ?_)
  rw [ByteArray.data_extract, Array.toList_extract, List.toList_data_toByteArray,
    List.toList_data_toByteArray]

/-- Two slices that meet are one slice. -/
theorem extract_append_extract (bytes : List UInt8) {a b d : Nat} (hab : a ≤ b) (hbd : b ≤ d) :
    bytes.extract a b ++ bytes.extract b d = bytes.extract a d := by
  rw [← List.toByteArray_inj, List.toByteArray_append]
  simp only [toByteArray_extract]
  exact (ByteArray.extract_eq_extract_append_extract b hab hbd).symm

theorem getElem?_bytes {text : String} {offset : Nat}
    (h : (⟨offset⟩ : String.Pos.Raw) < text.rawEndPos) :
    (bytes text)[offset]? = some (text.getUTF8Byte ⟨offset⟩ h) := by
  have hlt : offset < (bytes text).length := by
    rw [length_bytes]
    exact h
  rw [List.getElem?_eq_getElem hlt, Option.some_inj, List.getElem_eq_getElem_toByteArray,
    String.getUTF8Byte]
  congr 1
  exact toByteArray_bytes text

end Utf8

namespace Source

variable {s : Source} {a b d : Nat} {span : Span}

/-! ### Boundaries -/

/-- The source ends at the offset, or a byte stands there that starts a character. -/
def IsBoundary (s : Source) (offset : Nat) : Prop :=
  offset = s.size ∨ ∃ byte ∈ s.bytes[offset]?, byte.IsUTF8FirstByte

/-- The boundaries of a text are its positions. -/
theorem isBoundary_ofString_iff {text : String} {offset : Nat} :
    (ofString text).IsBoundary offset ↔ String.Pos.Raw.IsValid text ⟨offset⟩ := by
  rw [String.Pos.Raw.isValid_iff_isUTF8FirstByte, IsBoundary, size, ofString, Utf8.length_bytes]
  refine or_congr String.Pos.Raw.ext_iff.symm ⟨?_, ?_⟩
  · rintro ⟨byte, hbyte, hfirst⟩
    have hlt : offset < (Utf8.bytes text).length := (List.getElem?_eq_some_iff.mp hbyte).1
    rw [Utf8.length_bytes] at hlt
    dsimp only at hbyte
    rw [Utf8.getElem?_bytes hlt] at hbyte
    obtain rfl := Option.some.inj hbyte
    exact ⟨hlt, hfirst⟩
  · rintro ⟨hlt, hfirst⟩
    exact ⟨_, Utf8.getElem?_bytes hlt, hfirst⟩

/-- **Slices of UTF-8**: a range of well-formed bytes is well-formed iff it is empty or its ends are
boundaries. -/
theorem isValidUTF8_extract_iff (hs : s.bytes.toByteArray.IsValidUTF8) (hab : a ≤ b)
    (hb : b ≤ s.size) :
    (s.bytes.extract a b).toByteArray.IsValidUTF8 ↔ a = b ∨ s.IsBoundary a ∧ s.IsBoundary b := by
  obtain ⟨text, htext⟩ := Utf8.isValidUTF8_iff.mp hs
  obtain rfl : s = ofString text := congrArg Source.mk htext
  rw [size, ofString, Utf8.length_bytes] at hb
  rw [isBoundary_ofString_iff, isBoundary_ofString_iff, Utf8.toByteArray_extract, ofString,
    Utf8.toByteArray_bytes, String.Pos.Raw.isValidUTF8_extract_iff ⟨a⟩ ⟨b⟩ hab hb,
    String.Pos.Raw.ext_iff]

/-! ### Quotes of a source -/

theorem quote_eq_ok_iff_toByteArray {text : String} :
    s.quote ⟨a, b⟩ = .ok text ↔
      (a ≤ b ∧ b ≤ s.size) ∧ text.toByteArray = (s.bytes.extract a b).toByteArray := by
  rw [quote_eq_ok_iff, Utf8.toByteArray_eq_iff, List.extract_eq_take_drop]

/-- A span that is no range of the source is refused as such, and a range for its bytes. -/
theorem quote_eq_error {fault : QuoteFault} (h : s.quote span = .error fault) :
    ¬ (span.start ≤ span.stop ∧ span.stop ≤ s.size) ∧ fault = .outside span s.size ∨
      (span.start ≤ span.stop ∧ span.stop ≤ s.size) ∧
        ∃ malformed, fault = .notText span malformed := by
  by_cases hinside : span.start ≤ span.stop ∧ span.stop ≤ s.size
  · rw [quote, slice?_eq_some hinside] at h
    dsimp only at h
    split at h
    · cases h
    · obtain rfl := Except.error.inj h
      exact .inr ⟨hinside, _, rfl⟩
  · rw [quote, slice?, if_neg hinside] at h
    obtain rfl := Except.error.inj h
    exact .inl ⟨hinside, rfl⟩

/-- Of two sources of one size that agree on the bytes of a span, both quote it alike. -/
theorem quote_congr {other : Source} (hsize : other.size = s.size)
    (hslice : other.bytes.extract a b = s.bytes.extract a b) :
    other.quote ⟨a, b⟩ = s.quote ⟨a, b⟩ := by
  rw [List.extract_eq_take_drop, List.extract_eq_take_drop] at hslice
  simp only [quote, slice?, hsize, hslice]

/-- Ranges that meet are quoted as one. -/
theorem quote_append {left right : String} (hleft : s.quote ⟨a, b⟩ = .ok left)
    (hright : s.quote ⟨b, d⟩ = .ok right) : s.quote ⟨a, d⟩ = .ok (left ++ right) := by
  rw [quote_eq_ok_iff_toByteArray] at hleft hright ⊢
  obtain ⟨⟨hab, -⟩, hleft⟩ := hleft
  obtain ⟨⟨hbd, hd⟩, hright⟩ := hright
  refine ⟨⟨Nat.le_trans hab hbd, hd⟩, ?_⟩
  rw [String.toByteArray_append, hleft, hright, ← List.toByteArray_append,
    Utf8.extract_append_extract s.bytes hab hbd]

end Source

/-! ### Quotes of a conversion -/

namespace Conversion

variable {c : Conversion} {a b : Nat} {span : Span}

theorem quote_eq_ok_iff {text : String} :
    c.quote span = .ok text ↔ c.source.quote span = .ok text := by
  unfold quote
  cases c.source.quote span <;> simp

theorem quote_eq_error_iff {e : Error} :
    c.quote span = .error e ↔
      ∃ fault, c.source.quote span = .error fault ∧ e = .unreadable "" fault.message := by
  unfold quote
  cases c.source.quote span <;> simp [eq_comm]

theorem exists_quote_iff_isValidUTF8 :
    (∃ text, c.quote ⟨a, b⟩ = .ok text) ↔
      a ≤ b ∧ b ≤ c.source.size ∧ (c.source.bytes.extract a b).toByteArray.IsValidUTF8 := by
  simp only [quote_eq_ok_iff, Source.quote_eq_ok_iff_toByteArray, exists_and_left, and_assoc,
    Utf8.toByteArray_eq_iff, Utf8.isValidUTF8_iff]

/-- **Quotes are exact.**  A span is quoted iff it is a range of the source whose bytes are
well-formed UTF-8, and then as these bytes; every other span is unreadable, and bytes that are not of
the range do not matter.  Quotes that meet are one quote.  In a source that is UTF-8 as a whole a
range is quoted iff it is empty or both of its ends are boundaries. -/
theorem quote_exact (c : Conversion) (a b : Nat) :
    let slice := (c.source.bytes.extract a b).toByteArray
    ((∃ text, c.quote ⟨a, b⟩ = .ok text) ↔ a ≤ b ∧ b ≤ c.source.size ∧ slice.IsValidUTF8) ∧
    (∀ text, c.quote ⟨a, b⟩ = .ok text → text.toByteArray = slice) ∧
    (∀ e, c.quote ⟨a, b⟩ = .error e → ∃ fault : QuoteFault, e = .unreadable "" fault.message ∧
      (¬ (a ≤ b ∧ b ≤ c.source.size) ∧ fault = .outside ⟨a, b⟩ c.source.size ∨
        (a ≤ b ∧ b ≤ c.source.size) ∧ ∃ malformed, fault = .notText ⟨a, b⟩ malformed)) ∧
    (∀ other : Conversion, other.source.size = c.source.size →
      other.source.bytes.extract a b = c.source.bytes.extract a b →
      other.quote ⟨a, b⟩ = c.quote ⟨a, b⟩) ∧
    (∀ d left right, c.quote ⟨a, b⟩ = .ok left → c.quote ⟨b, d⟩ = .ok right →
      c.quote ⟨a, d⟩ = .ok (left ++ right)) ∧
    (c.source.bytes.toByteArray.IsValidUTF8 →
      ((∃ text, c.quote ⟨a, b⟩ = .ok text) ↔
        a ≤ b ∧ b ≤ c.source.size ∧ (a = b ∨ c.source.IsBoundary a ∧ c.source.IsBoundary b))) := by
  refine ⟨exists_quote_iff_isValidUTF8, fun text h => ?_, fun e h => ?_, fun other hsize hslice => ?_,
    fun d left right hleft hright => ?_, fun hs => ?_⟩
  · exact (Source.quote_eq_ok_iff_toByteArray.mp (quote_eq_ok_iff.mp h)).2
  · obtain ⟨fault, hfault, rfl⟩ := quote_eq_error_iff.mp h
    exact ⟨fault, rfl, Source.quote_eq_error hfault⟩
  · rw [quote, quote, Source.quote_congr hsize hslice]
  · exact quote_eq_ok_iff.mpr
      (Source.quote_append (quote_eq_ok_iff.mp hleft) (quote_eq_ok_iff.mp hright))
  · rw [exists_quote_iff_isValidUTF8]
    refine and_congr_right fun hab => and_congr_right fun hb => ?_
    exact Source.isValidUTF8_extract_iff hs hab hb

/-- Characters of one, two and three bytes: ranges that meet, an empty range inside a character, one
that splits a character and one that ends outside. -/
theorem quote_exact_split :
    let c : Conversion := ⟨⟨[0x61, 0xC3, 0xA9, 0xE2, 0x82, 0xAC]⟩, 8⟩
    c.source.bytes.toByteArray.IsValidUTF8 ∧ c.quote ⟨1, 3⟩ = .ok "é" ∧ c.quote ⟨3, 6⟩ = .ok "€" ∧
      c.quote ⟨1, 6⟩ = .ok "é€" ∧ (∃ text, c.quote ⟨2, 2⟩ = .ok text) ∧
      ¬ (∃ text, c.quote ⟨1, 2⟩ = .ok text) ∧ ¬ (∃ text, c.quote ⟨3, 7⟩ = .ok text) := by
  intro c
  have hs : c.source.bytes.toByteArray.IsValidUTF8 := ⟨['a', 'é', '€'], by rfl⟩
  have hleft : c.quote ⟨1, 3⟩ = .ok "é" := by rfl
  have hright : c.quote ⟨3, 6⟩ = .ok "€" := by rfl
  obtain ⟨-, -, -, -, hmeet, -⟩ := quote_exact c 1 3
  obtain ⟨-, -, -, -, -, hempty⟩ := quote_exact c 2 2
  obtain ⟨-, -, -, -, -, hsplit⟩ := quote_exact c 1 2
  obtain ⟨houtside, -⟩ := quote_exact c 3 7
  refine ⟨hs, hleft, hright, hmeet 6 _ _ hleft hright, ?_, ?_, ?_⟩
  · exact (hempty hs).mpr ⟨by decide, by decide, .inl rfl⟩
  · rw [hsplit hs]
    rintro ⟨-, -, hequal | ⟨-, hend | ⟨byte, hbyte, hfirst⟩⟩⟩
    · cases hequal
    · cases hend
    · obtain rfl := Option.some.inj hbyte
      exact absurd hfirst (by decide)
  · rw [houtside]
    rintro ⟨-, hend, -⟩
    exact absurd hend (by decide)

end Conversion
end Groundplan
