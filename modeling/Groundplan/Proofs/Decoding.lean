import Groundplan.Proofs.Quotation

/-!
# Decoding is exact

The machine that decodes UTF-8 accepts nothing but the bytes of texts: what it reads from between
characters starts with the bytes of the first character that it gives (`Utf8.exists_utf8EncodeChar`),
so bytes decode to a text iff they are the bytes of the text (`Utf8.decode_eq_ok_iff`).  Hence a span
has a text iff it is a range inside the source whose bytes are those of some text
(`Source.exists_quote_iff`).  In a source that is a text, every range that starts and ends between
characters is one of these (`Span.IsRangeOf.legible`).
-/

namespace Groundplan

namespace Utf8

variable {index n value taken owed low high : Nat} {p : Pending} {bytes rest : List UInt8}
  {text : List Char}

/-! ### Bytes that decode -/

/-- A code point is the value of its character. -/
theorem toNat_val_ofNat (h : n < 0xD800 ∨ 0xDFFF < n ∧ n < 0x110000) :
    (Char.ofNat n).val.toNat = n := by
  rw [Char.ofNat, dif_pos h]
  rfl

theorem utf8EncodeChar_one {a : Nat} (ha : a < 0x80) :
    String.utf8EncodeChar (Char.ofNat a) = [UInt8.ofNat a] := by
  have hval := toNat_val_ofNat (n := a) (by omega)
  simp only [String.utf8EncodeChar, hval]
  rw [if_pos (by omega)]

theorem utf8EncodeChar_two {a b : Nat} (ha : 0xC2 ≤ a) (ha' : a < 0xE0) (hb : 0x80 ≤ b)
    (hb' : b ≤ 0xBF) :
    String.utf8EncodeChar (Char.ofNat ((a - 0xC0) * 64 + (b - 0x80)))
      = [UInt8.ofNat a, UInt8.ofNat b] := by
  have hval := toNat_val_ofNat (n := (a - 0xC0) * 64 + (b - 0x80)) (by omega)
  generalize hv : (a - 0xC0) * 64 + (b - 0x80) = v at hval
  have hdigits : v / 64 % 32 + 192 = a ∧ v % 64 + 128 = b := by omega
  simp only [String.utf8EncodeChar, hval]
  rw [if_neg (by omega), if_pos (by omega), hdigits.1, hdigits.2]

theorem utf8EncodeChar_three {a b c : Nat} (ha : 0xE0 ≤ a) (ha' : a < 0xF0)
    (hb : (if a = 0xE0 then 0xA0 else 0x80) ≤ b) (hb' : b ≤ if a = 0xED then 0x9F else 0xBF)
    (hc : 0x80 ≤ c) (hc' : c ≤ 0xBF) :
    String.utf8EncodeChar (Char.ofNat (((a - 0xE0) * 64 + (b - 0x80)) * 64 + (c - 0x80)))
      = [UInt8.ofNat a, UInt8.ofNat b, UInt8.ofNat c] := by
  -- the bounds on the second byte leave out overlong forms and surrogates
  have hrange : 0x800 ≤ ((a - 0xE0) * 64 + (b - 0x80)) * 64 + (c - 0x80) ∧
      (((a - 0xE0) * 64 + (b - 0x80)) * 64 + (c - 0x80) < 0xD800 ∨
        0xDFFF < ((a - 0xE0) * 64 + (b - 0x80)) * 64 + (c - 0x80) ∧
          ((a - 0xE0) * 64 + (b - 0x80)) * 64 + (c - 0x80) < 0x10000) := by
    split at hb <;> split at hb' <;> omega
  have hbounds : 0x80 ≤ b ∧ b ≤ 0xBF := by split at hb <;> split at hb' <;> omega
  have hval := toNat_val_ofNat (n := ((a - 0xE0) * 64 + (b - 0x80)) * 64 + (c - 0x80)) (by omega)
  clear hb hb'
  generalize hv : ((a - 0xE0) * 64 + (b - 0x80)) * 64 + (c - 0x80) = v at hval hrange
  have hdigits : v / 4096 % 16 + 224 = a ∧ v / 64 % 64 + 128 = b ∧ v % 64 + 128 = c := by omega
  simp only [String.utf8EncodeChar, hval]
  rw [if_neg (by omega), if_neg (by omega), if_pos (by omega), hdigits.1, hdigits.2.1, hdigits.2.2]

theorem utf8EncodeChar_four {a b c d : Nat} (ha : 0xF0 ≤ a) (ha' : a < 0xF5)
    (hb : (if a = 0xF0 then 0x90 else 0x80) ≤ b) (hb' : b ≤ if a = 0xF4 then 0x8F else 0xBF)
    (hc : 0x80 ≤ c) (hc' : c ≤ 0xBF) (hd : 0x80 ≤ d) (hd' : d ≤ 0xBF) :
    String.utf8EncodeChar
        (Char.ofNat ((((a - 0xF0) * 64 + (b - 0x80)) * 64 + (c - 0x80)) * 64 + (d - 0x80)))
      = [UInt8.ofNat a, UInt8.ofNat b, UInt8.ofNat c, UInt8.ofNat d] := by
  have hrange : 0x10000 ≤ (((a - 0xF0) * 64 + (b - 0x80)) * 64 + (c - 0x80)) * 64 + (d - 0x80) ∧
      (((a - 0xF0) * 64 + (b - 0x80)) * 64 + (c - 0x80)) * 64 + (d - 0x80) < 0x110000 := by
    split at hb <;> split at hb' <;> omega
  have hbounds : 0x80 ≤ b ∧ b ≤ 0xBF := by split at hb <;> split at hb' <;> omega
  have hval := toNat_val_ofNat
    (n := (((a - 0xF0) * 64 + (b - 0x80)) * 64 + (c - 0x80)) * 64 + (d - 0x80)) (by omega)
  clear hb hb'
  generalize hv : (((a - 0xF0) * 64 + (b - 0x80)) * 64 + (c - 0x80)) * 64 + (d - 0x80) = v
    at hval hrange
  have hdigits : v / 262144 % 8 + 240 = a ∧ v / 4096 % 64 + 128 = b ∧ v / 64 % 64 + 128 = c ∧
      v % 64 + 128 = d := by omega
  simp only [String.utf8EncodeChar, hval]
  rw [if_neg (by omega), if_neg (by omega), if_neg (by omega), hdigits.1, hdigits.2.1,
    hdigits.2.2.1, hdigits.2.2.2]

/-- A byte that is owed has to be within its bounds, and the character goes on with it. -/
theorem exists_owed (h : run index (some ⟨value, taken, owed + 1, low, high⟩) bytes = .ok text) :
    ∃ b rest, bytes = b :: rest ∧ low ≤ b.toNat ∧ b.toNat ≤ high ∧
      run index (some ⟨value * 64 + (b.toNat - 0x80), taken + 1, owed, 0x80, 0xBF⟩) rest
        = .ok text := by
  cases bytes with
  | nil => cases h
  | cons b rest =>
    rw [run] at h
    split at h
    · rename_i hbounds
      exact ⟨b, rest, rfl, hbounds.1, hbounds.2, h⟩
    · cases h

/-- The last byte of a character has to be within its bounds, and ends it. -/
theorem exists_last (h : run index (some ⟨value, taken, 0, low, high⟩) bytes = .ok text) :
    ∃ b rest others, bytes = b :: rest ∧ low ≤ b.toNat ∧ b.toNat ≤ high ∧
      text = Char.ofNat (value * 64 + (b.toNat - 0x80)) :: others ∧
      run (index + taken + 1) none rest = .ok others := by
  cases bytes with
  | nil => cases h
  | cons b rest =>
    rw [run] at h
    split at h
    · rename_i hbounds
      obtain ⟨others, hothers, rfl⟩ := map_eq_ok.mp h
      exact ⟨b, rest, others, rfl, hbounds.1, hbounds.2, rfl, hothers⟩
    · cases h

/-- A lead byte is one of two, of three or of four bytes. -/
theorem lead?_eq_none (h : n < 0xC2 ∨ 0xF5 ≤ n) : lead? n = none := by
  rw [lead?]
  rcases h with h | h
  · rw [if_pos h]
  · rw [if_neg (by omega), if_neg (by omega), if_neg (by omega), if_neg (by omega),
      if_neg (by omega), if_neg (by omega), if_neg (by omega), if_neg (by omega)]

/-- Bytes that decode to a text start with the bytes of its first character. -/
theorem exists_utf8EncodeChar {b : UInt8} (h : run index none (b :: rest) = .ok text) :
    ∃ c others index' more, text = c :: others ∧ b :: rest = String.utf8EncodeChar c ++ more ∧
      run index' none more = .ok others := by
  rw [run] at h
  by_cases one : b.toNat < 0x80
  · rw [if_pos one] at h
    obtain ⟨others, hothers, rfl⟩ := map_eq_ok.mp h
    refine ⟨_, others, _, rest, rfl, ?_, hothers⟩
    rw [utf8EncodeChar_one one, UInt8.ofNat_toNat]
    rfl
  rw [if_neg one] at h
  by_cases none : b.toNat < 0xC2 ∨ 0xF5 ≤ b.toNat
  · rw [lead?_eq_none none] at h
    cases h
  by_cases two : b.toNat < 0xE0
  · rw [lead?_two (by omega) two] at h
    obtain ⟨b₁, rest, others, rfl, hlow, hhigh, rfl, hrest⟩ := exists_last h
    refine ⟨_, others, _, rest, rfl, ?_, hrest⟩
    rw [utf8EncodeChar_two (by omega) two hlow hhigh, UInt8.ofNat_toNat, UInt8.ofNat_toNat]
    rfl
  by_cases three : b.toNat < 0xF0
  · rw [lead?_three (by omega) three] at h
    obtain ⟨b₁, rest, rfl, hlow₁, hhigh₁, h⟩ := exists_owed h
    obtain ⟨b₂, rest, others, rfl, hlow₂, hhigh₂, rfl, hrest⟩ := exists_last h
    refine ⟨_, others, _, rest, rfl, ?_, hrest⟩
    rw [utf8EncodeChar_three (by omega) three hlow₁ hhigh₁ hlow₂ hhigh₂, UInt8.ofNat_toNat,
      UInt8.ofNat_toNat, UInt8.ofNat_toNat]
    rfl
  · rw [lead?_four (by omega) (by omega)] at h
    obtain ⟨b₁, rest, rfl, hlow₁, hhigh₁, h⟩ := exists_owed h
    obtain ⟨b₂, rest, rfl, hlow₂, hhigh₂, h⟩ := exists_owed h
    obtain ⟨b₃, rest, others, rfl, hlow₃, hhigh₃, rfl, hrest⟩ := exists_last h
    refine ⟨_, others, _, rest, rfl, ?_, hrest⟩
    rw [utf8EncodeChar_four (by omega) (by omega) hlow₁ hhigh₁ hlow₂ hhigh₂ hlow₃ hhigh₃,
      UInt8.ofNat_toNat, UInt8.ofNat_toNat, UInt8.ofNat_toNat, UInt8.ofNat_toNat]
    rfl

theorem eq_encode_of_run (h : run index none bytes = .ok text) : bytes = encode text := by
  induction text generalizing index bytes with
  | nil =>
    cases bytes with
    | nil => rfl
    | cons b rest =>
      obtain ⟨c, others, _, _, htext, -, -⟩ := exists_utf8EncodeChar h
      cases htext
  | cons c others ih =>
    cases bytes with
    | nil => cases h
    | cons b rest =>
      obtain ⟨c, others, index', more, htext, hbytes, hmore⟩ := exists_utf8EncodeChar h
      obtain ⟨rfl, rfl⟩ := List.cons.inj htext
      rw [hbytes, ih hmore, encode, encode, List.flatMap_cons]

/-- **Only the bytes of a text decode to it.** -/
theorem decode_eq_ok_iff : decode bytes = .ok text ↔ bytes = encode text := by
  constructor
  · exact eq_encode_of_run
  · rintro rfl
    exact decode_encode text

end Utf8

/-! ### Spans with a text -/

namespace Source

variable {s : Source} {span : Span} {text : String}

/-- The span is a range inside the source, and its bytes are those of a text. -/
def Legible (s : Source) (span : Span) : Prop :=
  span.start ≤ span.stop ∧ span.stop ≤ s.size ∧
    ∃ text : String, (s.bytes.drop span.start).take (span.stop - span.start) = Utf8.bytes text

theorem slice?_eq_some (h : span.start ≤ span.stop ∧ span.stop ≤ s.size) :
    s.slice? span = some ((s.bytes.drop span.start).take (span.stop - span.start)) := by
  rw [slice?, if_pos h]

/-- A span is quoted as the text that its bytes are. -/
theorem quote_eq_ok_iff :
    s.quote span = .ok text ↔ (span.start ≤ span.stop ∧ span.stop ≤ s.size) ∧
      (s.bytes.drop span.start).take (span.stop - span.start) = Utf8.bytes text := by
  by_cases hinside : span.start ≤ span.stop ∧ span.stop ≤ s.size
  · rw [and_iff_right hinside, Utf8.bytes, ← Utf8.decode_eq_ok_iff, quote, slice?_eq_some hinside]
    dsimp only
    cases Utf8.decode ((s.bytes.drop span.start).take (span.stop - span.start)) with
    | error fault => simp
    | ok chars =>
      simp only [Except.ok.injEq]
      constructor
      · rintro rfl
        exact String.toList_ofList.symm
      · rintro rfl
        exact String.ofList_toList
  · rw [quote, slice?, if_neg hinside]
    simp [hinside]

/-- **Legible spans**: a span has a text iff it is a range inside the source with the bytes of one. -/
theorem exists_quote_iff : (∃ text, s.quote span = .ok text) ↔ s.Legible span := by
  simp only [quote_eq_ok_iff, Legible, and_assoc, exists_and_left]

end Source

/-! ### Spans between characters -/

/-- The span is a range of the text that starts and ends between characters. -/
structure Span.IsRangeOf (span : Span) (text : String) : Prop where
  ordered : span.start ≤ span.stop
  start : String.Pos.Raw.IsValid text ⟨span.start⟩
  stop : String.Pos.Raw.IsValid text ⟨span.stop⟩

theorem Utf8.bytes_append (a b : String) : bytes (a ++ b) = bytes a ++ bytes b := by
  rw [bytes, String.toList_append, encode, List.flatMap_append]
  rfl

theorem Utf8.toByteArray_bytes (text : String) : (bytes text).toByteArray = text.toByteArray :=
  String.utf8Encode_toList

theorem Utf8.length_bytes (text : String) : (bytes text).length = text.utf8ByteSize := by
  rw [← String.size_toByteArray, ← toByteArray_bytes, List.size_toByteArray]

/-- The texts before two places between characters of a text: what lies between the places is a text
too. -/
theorem Span.IsRangeOf.exists_append {span : Span} {text : String} (h : span.IsRangeOf text) :
    ∃ before inside after, text = before ++ inside ++ after ∧
      span = ⟨before.utf8ByteSize, (before ++ inside).utf8ByteSize⟩ := by
  obtain ⟨start, stop⟩ := span
  obtain ⟨before, after, hbefore, hstart⟩ := String.Pos.Raw.isValid_iff_exists_append.mp h.start
  obtain ⟨upTo, rest, hupTo, hstop⟩ := String.Pos.Raw.isValid_iff_exists_append.mp h.stop
  obtain rfl : start = before.utf8ByteSize := congrArg String.Pos.Raw.byteIdx hstart
  obtain rfl : stop = upTo.utf8ByteSize := congrArg String.Pos.Raw.byteIdx hstop
  have hlength : before.utf8ByteSize ≤ upTo.utf8ByteSize := h.ordered
  have hbegins : before.toList <+: text.toList :=
    ⟨after.toList, by rw [hbefore, String.toList_append]⟩
  have hbegins' : upTo.toList <+: text.toList := ⟨rest.toList, by rw [hupTo, String.toList_append]⟩
  -- of two beginnings of a text one begins the other
  rcases List.prefix_or_prefix_of_prefix hbegins hbegins' with ⟨inside, hinside⟩ | ⟨more, hmore⟩
  · obtain rfl : upTo = before ++ String.ofList inside := by
      rw [← String.toList_inj, ← hinside]
      simp
    exact ⟨before, String.ofList inside, rest, hupTo, rfl⟩
  · obtain rfl : before = upTo ++ String.ofList more := by
      rw [← String.toList_inj, ← hmore]
      simp
    rw [String.utf8ByteSize_append] at hlength
    have hnone : String.ofList more = "" := String.utf8ByteSize_eq_zero_iff.mp (by omega)
    exact ⟨upTo, "", rest, by simpa using hupTo, by simp [hnone]⟩

/-- **Ranges are legible**: a span between characters has a text. -/
theorem Span.IsRangeOf.legible {span : Span} {text : String} (h : span.IsRangeOf text) :
    (Source.ofString text).Legible span := by
  obtain ⟨before, inside, after, rfl, rfl⟩ := h.exists_append
  rw [Source.Legible, Source.size, Source.ofString, Utf8.length_bytes]
  simp only [Utf8.bytes_append, String.utf8ByteSize_append]
  refine ⟨by omega, by omega, inside, ?_⟩
  rw [List.append_assoc, Nat.add_sub_cancel_left, ← Utf8.length_bytes before, List.drop_left,
    ← Utf8.length_bytes inside, List.take_left]

end Groundplan
