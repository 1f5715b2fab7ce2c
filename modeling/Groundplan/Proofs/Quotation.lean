import Groundplan.Proofs.Outcome
import Groundplan.Source

/-!
# Quoting a text

The machine that decodes UTF-8 reads back the bytes of every character (`Utf8.run_utf8EncodeChar`)
and so of every text (`Utf8.decode_encode`).  A source that is a text is quoted as a whole by the
span of all its bytes (`Source.quote_ofString`).
-/

namespace Groundplan

namespace Utf8

/-! ### Bytes of one character -/

theorem lead?_two {b : Nat} (h : 0xC2 ≤ b) (h' : b < 0xE0) :
    lead? b = some ⟨b - 0xC0, 1, 0, 0x80, 0xBF⟩ := by
  rw [lead?, if_neg (by omega), if_pos h']

theorem lead?_three {b : Nat} (h : 0xE0 ≤ b) (h' : b < 0xF0) :
    lead? b = some ⟨b - 0xE0, 1, 1, if b = 0xE0 then 0xA0 else 0x80,
      if b = 0xED then 0x9F else 0xBF⟩ := by
  rw [lead?, if_neg (by omega), if_neg (by omega)]
  by_cases hlow : b = 0xE0
  · subst hlow; rfl
  by_cases hhigh : b = 0xED
  · subst hhigh; rfl
  simp only [if_neg hlow, if_neg hhigh, if_pos h']

theorem lead?_four {b : Nat} (h : 0xF0 ≤ b) (h' : b < 0xF5) :
    lead? b = some ⟨b - 0xF0, 1, 2, if b = 0xF0 then 0x90 else 0x80,
      if b = 0xF4 then 0x8F else 0xBF⟩ := by
  rw [lead?, if_neg (by omega), if_neg (by omega), if_neg (by omega), if_neg (by omega),
    if_neg (by omega)]
  by_cases hlow : b = 0xF0
  · subst hlow; rfl
  by_cases hhigh : b = 0xF4
  · subst hhigh; rfl
  rw [if_neg hlow, if_pos (by omega), if_neg hlow, if_neg hhigh]

variable {index n value taken owed low high : Nat} {p : Pending} {rest : List UInt8}

theorem run_ascii (h : n < 0x80) :
    run index none (UInt8.ofNat n :: rest) = (Char.ofNat n :: ·) <$> run (index + 1) none rest := by
  have hbyte : (UInt8.ofNat n).toNat = n := UInt8.toNat_ofNat_of_lt' (show n < 256 by omega)
  rw [run, hbyte, if_pos h]

theorem run_lead (h : 0x80 ≤ n) (hn : n < 256) (hlead : lead? n = some p) :
    run index none (UInt8.ofNat n :: rest) = run index (some p) rest := by
  have hbyte : (UInt8.ofNat n).toNat = n := UInt8.toNat_ofNat_of_lt' hn
  rw [run, hbyte, if_neg (by omega), hlead]

theorem run_owed (hlow : low ≤ n) (hhigh : n ≤ high) (hn : n < 256) :
    run index (some ⟨value, taken, owed + 1, low, high⟩) (UInt8.ofNat n :: rest)
      = run index (some ⟨value * 64 + (n - 0x80), taken + 1, owed, 0x80, 0xBF⟩) rest := by
  have hbyte : (UInt8.ofNat n).toNat = n := UInt8.toNat_ofNat_of_lt' hn
  rw [run, hbyte, if_pos ⟨hlow, hhigh⟩]

theorem run_last (hlow : low ≤ n) (hhigh : n ≤ high) (hn : n < 256) :
    run index (some ⟨value, taken, 0, low, high⟩) (UInt8.ofNat n :: rest)
      = (Char.ofNat (value * 64 + (n - 0x80)) :: ·) <$> run (index + taken + 1) none rest := by
  have hbyte : (UInt8.ofNat n).toNat = n := UInt8.toNat_ofNat_of_lt' hn
  rw [run, hbyte, if_pos ⟨hlow, hhigh⟩]

/-- The bytes of a character are read as the character: its sixbit digits add up to it again, and
the bounds after the lead byte leave out only what is no character. -/
theorem run_utf8EncodeChar (c : Char) (index : Nat) (rest : List UInt8) :
    run index none (String.utf8EncodeChar c ++ rest)
      = (c :: ·) <$> run (index + (String.utf8EncodeChar c).length) none rest := by
  have hvalid : c.val.toNat < 0xD800 ∨ 0xDFFF < c.val.toNat ∧ c.val.toNat < 0x110000 := c.valid
  have hchar : c = Char.ofNat c.val.toNat := (Char.ofNat_toNat c).symm
  simp only [String.utf8EncodeChar]
  generalize c.val.toNat = v at hvalid hchar
  subst hchar
  by_cases one : v ≤ 0x7F
  · rw [if_pos one]
    exact run_ascii (by omega)
  by_cases two : v ≤ 0x7FF
  · rw [if_neg one, if_pos two]
    have hsum : (v / 64 % 32 + 192 - 192) * 64 + (v % 64 + 128 - 128) = v := by omega
    simp only [List.cons_append, List.nil_append]
    rw [run_lead (by omega) (by omega) (lead?_two (by omega) (by omega)),
      run_last (by omega) (by omega) (by omega), hsum]
    rfl
  by_cases three : v ≤ 0xFFFF
  · rw [if_neg one, if_neg two, if_pos three]
    have hsum : ((v / 4096 % 16 + 224 - 224) * 64 + (v / 64 % 64 + 128 - 128)) * 64 +
        (v % 64 + 128 - 128) = v := by omega
    simp only [List.cons_append, List.nil_append]
    rw [run_lead (by omega) (by omega) (lead?_three (by omega) (by omega)),
      run_owed (by split <;> omega) (by split <;> omega) (by omega),
      run_last (by omega) (by omega) (by omega), hsum]
    rfl
  · rw [if_neg one, if_neg two, if_neg three]
    have hsum : (((v / 262144 % 8 + 240 - 240) * 64 + (v / 4096 % 64 + 128 - 128)) * 64 +
        (v / 64 % 64 + 128 - 128)) * 64 + (v % 64 + 128 - 128) = v := by omega
    simp only [List.cons_append, List.nil_append]
    rw [run_lead (by omega) (by omega) (lead?_four (by omega) (by omega)),
      run_owed (by split <;> omega) (by split <;> omega) (by omega),
      run_owed (by omega) (by omega) (by omega),
      run_last (by omega) (by omega) (by omega), hsum]
    rfl

/-! ### Texts -/

theorem run_encode (text : List Char) (index : Nat) : run index none (encode text) = .ok text := by
  induction text generalizing index with
  | nil => rfl
  | cons c rest ih =>
    rw [encode, List.flatMap_cons, run_utf8EncodeChar, ← encode, ih]
    rfl

/-- The bytes of a text decode to it. -/
theorem decode_encode (text : List Char) : decode (encode text) = .ok text := run_encode text 0

end Utf8

/-- The span of all bytes of a text quotes the text. -/
theorem Source.quote_ofString (text : String) :
    (Source.ofString text).quote ⟨0, (Source.ofString text).size⟩ = .ok text := by
  have hslice : (Source.ofString text).slice? ⟨0, (Source.ofString text).size⟩
      = some (Utf8.encode text.toList) := by
    simp [Source.slice?, Source.size, Source.ofString, Utf8.bytes]
  rw [Source.quote, hslice]
  simp only [Utf8.decode_encode, String.ofList_toList]

end Groundplan
