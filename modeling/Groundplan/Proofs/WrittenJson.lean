import Groundplan.Json.Reader
import Groundplan.Json.Writer
import Mathlib.Data.List.TakeDrop
import Mathlib.Data.Nat.Init

/-!
# Reading written JSON

Whatever `Json.write` writes, `Json.read` reads back (`read_text`), as long as every number is an
integer (`Value.Integral`).  A string is read character by character as it was escaped
(`readString_escape`), an integer up to the first character that no number has (`EndsNumber`), and
blanks between them are skipped.  The induction over the value carries that the length of its text
bounds how deep the reader has to go.
-/

namespace Groundplan

/-- Every number in the value is an integer of the range that is kept. -/
inductive Value.Integral : Value → Prop where
  | null : Integral .null
  | bool (b : Bool) : Integral (.bool b)
  | number {i : Int} (h : Number.leastInteger ≤ i ∧ i ≤ Number.greatestInteger) :
    Integral (.number (.integer i))
  | string (s : String) : Integral (.string s)
  | array {items : List Value} (h : ∀ v ∈ items, Integral v) : Integral (.array items)
  | object {entries : List (String × Value)} (h : ∀ p ∈ entries, Integral p.2) :
    Integral (.object entries)

namespace Json

/-! ### Strings -/

theorem hexDigit_ofHex : ∀ n < 16, Text.hexDigit? (hexDigit n) = some n := by decide

/-- A control character is read from its code point. -/
theorem hexValue?_escape {c : Char} (h : c.toNat < 0x20) :
    Text.hexValue? ['0', '0', hexDigit (c.toNat / 16), hexDigit (c.toNat % 16)] = some c.toNat := by
  have hhigh : Text.hexDigit? (hexDigit (c.toNat / 16)) = some (c.toNat / 16) :=
    hexDigit_ofHex _ (by omega)
  have hlow : Text.hexDigit? (hexDigit (c.toNat % 16)) = some (c.toNat % 16) :=
    hexDigit_ofHex _ (by omega)
  have hzero : Text.hexDigit? '0' = some 0 := by decide
  simp only [Text.hexValue?, List.foldlM_cons, List.foldlM_nil, hzero, hhigh, hlow]
  simp
  omega

theorem readString_letter {letter c : Char} (rest : List Char) (hu : letter ≠ 'u')
    (h : Text.escaped? letter = some c) :
    readString ('\\' :: letter :: rest) = (fun p => (c :: p.1, p.2)) <$> readString rest := by
  rw [readString.eq_def]
  split
  · rename_i hcs
    cases hcs
  · rename_i hcs
    exact absurd (List.cons.inj (List.cons.inj hcs).2).1 hu
  · rename_i hcs
    obtain ⟨rfl, rfl⟩ := List.cons.inj (List.cons.inj hcs).2
    rw [h]
    cases readString rest <;> rfl
  · rename_i hother hcs
    obtain ⟨rfl, rfl⟩ := List.cons.inj hcs
    exact absurd rfl (hother _ _ rfl)

theorem readString_plain {c : Char} (rest : List Char) (hquote : c ≠ '\"') (hbackslash : c ≠ '\\')
    (h : ¬ c.toNat < 0x20) :
    readString (c :: rest) = (fun p => (c :: p.1, p.2)) <$> readString rest := by
  rw [readString.eq_def]
  split
  · rename_i hcs
    cases hcs
  · rename_i hcs
    exact absurd (List.cons.inj hcs).1 hbackslash
  · rename_i hcs
    exact absurd (List.cons.inj hcs).1 hbackslash
  · rename_i hcs
    obtain ⟨rfl, rfl⟩ := List.cons.inj hcs
    rw [if_neg hquote, if_neg h]
    cases readString rest <;> rfl

theorem readString_code {c : Char} (rest : List Char) (h : c.toNat < 0x20) :
    readString ('\\' :: 'u' :: '0' :: '0' :: hexDigit (c.toNat / 16) :: hexDigit (c.toNat % 16) :: rest)
      = (fun p => (c :: p.1, p.2)) <$> readString rest := by
  rw [readString, hexValue?_escape h]
  dsimp only [Option.bind_eq_bind, Option.bind_some]
  -- a control character is no half of a surrogate pair
  rw [if_neg (by omega), if_neg (by omega), Char.ofNat_toNat]
  cases readString rest <;> rfl

/-- An escaped character is read as itself. -/
theorem readString_escape (c : Char) (rest : List Char) :
    readString (escape c ++ rest) = (fun p => (c :: p.1, p.2)) <$> readString rest := by
  unfold escape
  split_ifs with hquote hbackslash hline hreturn htab hback hform hcontrol
  · exact readString_letter rest (by decide) (by rw [hquote]; rfl)
  · exact readString_letter rest (by decide) (by rw [hbackslash]; rfl)
  · exact readString_letter rest (by decide) (by rw [hline]; rfl)
  · exact readString_letter rest (by decide) (by rw [hreturn]; rfl)
  · exact readString_letter rest (by decide) (by rw [htab]; rfl)
  · exact readString_letter rest (by decide) (by rw [hback]; rfl)
  · exact readString_letter rest (by decide) (by rw [hform]; rfl)
  · exact readString_code rest hcontrol
  · exact readString_plain rest hquote hbackslash hcontrol

/-- A text is read up to the quote that closes it. -/
theorem readString_flatMap_escape (text rest : List Char) :
    readString (text.flatMap escape ++ '\"' :: rest) = some (text, rest) := by
  induction text with
  | nil =>
    rw [readString.eq_def]
    rfl
  | cons c text ih =>
    rw [List.flatMap_cons, List.append_assoc, readString_escape, ih]
    rfl

/-! ### Integers -/

/-- No number goes on with the text: it is empty or starts with a character that is in none. -/
def EndsNumber (rest : List Char) : Prop :=
  ∀ c ∈ rest.head?, c.isDigit = false ∧ c ≠ '.' ∧ c ≠ 'e' ∧ c ≠ 'E'

/-- Digits are split off up to the first character that is none. -/
theorem takeDigits_append {ds rest : List Char} (hds : ∀ d ∈ ds, d.isDigit = true)
    (hrest : EndsNumber rest) : takeDigits (ds ++ rest) = (ds, rest) := by
  have hnone : rest.takeWhile (·.isDigit) = [] ∧ rest.dropWhile (·.isDigit) = rest := by
    cases rest with
    | nil => exact ⟨rfl, rfl⟩
    | cons c rest =>
      have hc : c.isDigit = false := (hrest c rfl).1
      simp [hc]
  rw [takeDigits, List.span_eq_takeWhile_dropWhile, List.takeWhile_append_of_pos hds,
    List.dropWhile_append_of_pos hds, hnone.1, hnone.2, List.append_nil]

theorem decimalValue_toDigits (n : Nat) : Text.decimalValue (Nat.toDigits 10 n) = n := by
  have hsame : ∀ ds : List Char, Text.decimalValue ds = Nat.ofDigitChars 10 ds 0 := by
    intro ds
    simp only [Text.decimalValue, Nat.ofDigitChars, Nat.mul_comm]
    rfl
  rw [hsame, Nat.ofDigitChars_ten_toDigits]

/-- The digits of a number start with zero only for zero. -/
theorem head?_toDigits {n : Nat} (h : n ≠ 0) : (Nat.toDigits 10 n).head? ≠ some '0' := by
  induction n using Nat.strong_induction_on with
  | _ n ih =>
    by_cases hsmall : n < 10
    · have hdigit : ∀ d < 10, d ≠ 0 → Nat.digitChar d ≠ '0' := by decide
      rw [Nat.toDigits_of_lt_base hsmall]
      simpa using hdigit n hsmall h
    · rw [Nat.toDigits_of_base_le (by decide) (by omega)]
      -- the first digit is that of the number without its last digit
      obtain ⟨d, ds, hds⟩ := List.exists_cons_of_ne_nil (@Nat.toDigits_ne_nil (n / 10) 10)
      have hfirst := ih (n / 10) (by omega) (by omega)
      rw [hds] at hfirst ⊢
      exact hfirst

theorem integerNumber?_natAbs {i : Int}
    (h : Number.leastInteger ≤ i ∧ i ≤ Number.greatestInteger) :
    integerNumber? (decide (i < 0)) i.natAbs = some (.integer i) := by
  have habs : (if decide (i < 0) = true then -(i.natAbs : Int) else i.natAbs) = i := by
    split_ifs with hneg
    · have := of_decide_eq_true hneg
      omega
    · have : ¬ i < 0 := by simpa using hneg
      omega
  rw [integerNumber?]
  simp only [habs]
  rw [if_pos]
  refine ⟨h.1, h.2, ?_⟩
  rintro ⟨hneg, hzero⟩
  have := of_decide_eq_true hneg
  omega

theorem takeFraction_eq {rest : List Char} (h : EndsNumber rest) :
    takeFraction rest = some ([], rest) := by
  unfold takeFraction
  split
  · exact absurd rfl (h '.' rfl).2.1
  · rfl

theorem takeExponent_eq {rest : List Char} (h : EndsNumber rest) :
    takeExponent rest = some (none, rest) := by
  cases rest with
  | nil => rfl
  | cons c rest =>
    have hc := (h c rfl).2.2
    unfold takeExponent
    exact if_neg (not_or.mpr hc)

/-- Digits without a fraction and an exponent behind them are an integer. -/
theorem readNumber_toDigits {n : Nat} {number : Number} {rest : List Char} (negative : Bool)
    (h : integerNumber? negative n = some number) (hrest : EndsNumber rest) :
    readNumber negative (Nat.toDigits 10 n ++ rest) = some (number, rest) := by
  have hdigits : takeDigits (Nat.toDigits 10 n ++ rest) = (Nat.toDigits 10 n, rest) :=
    takeDigits_append (fun d hd => Nat.isDigit_of_mem_toDigits (by decide) (by decide) hd) hrest
  rw [readNumber, hdigits]
  split
  · rename_i hnil
    exact absurd (Prod.mk.inj hnil).1 Nat.toDigits_ne_nil
  · rename_i hzero
    -- more digits after a zero would be those of another number than zero
    have hdigits := (Prod.mk.inj hzero).1
    cases n with
    | zero => cases hdigits
    | succ n =>
      refine absurd ?_ (head?_toDigits n.succ_ne_zero)
      rw [hdigits]
      rfl
  · rename_i whole rest' _ _ hwhole
    obtain ⟨rfl, rfl⟩ := Prod.mk.inj hwhole
    rw [takeFraction_eq hrest]
    dsimp only [Option.bind_eq_bind, Option.bind_some]
    rw [takeExponent_eq hrest]
    dsimp only [Option.bind_eq_bind, Option.bind_some]
    rw [decimalValue_toDigits, h]
    rfl

/-! ### Blanks -/

variable {style : Style} {level : Nat} {text text' rest : List Char}

theorem skipBlanks_lineBreak : skipBlanks (style.lineBreak level ++ text) = skipBlanks text := by
  refine List.dropWhile_append_of_pos fun c hc => ?_
  cases style with
  | compact => cases hc
  | pretty =>
    rcases List.mem_cons.mp hc with rfl | hc
    · rfl
    · rw [List.eq_of_mem_replicate hc]
      rfl

theorem endsNumber_cons {c : Char} (h : c ∈ [',', ']', '}', '\n']) : EndsNumber (c :: rest) := by
  rintro c' ⟨⟩
  simp only [List.mem_cons, List.not_mem_nil, or_false] at h
  rcases h with rfl | rfl | rfl | rfl
  all_goals decide

theorem endsNumber_lineBreak {c : Char} (h : c ∈ [',', ']', '}', '\n']) :
    EndsNumber (style.lineBreak level ++ c :: rest) := by
  cases style with
  | compact => exact endsNumber_cons h
  | pretty => exact endsNumber_cons (by decide)

theorem endsNumber_nil : EndsNumber [] := by
  rintro _ ⟨⟩

/-- A value may have any blanks before it. -/
theorem readValue_congr {fuel depth : Nat} (h : skipBlanks text = skipBlanks text') :
    readValue fuel depth text = readValue fuel depth text' := by
  cases fuel with
  | zero => rfl
  | succ fuel => rw [readValue, readValue, h]

theorem readItems_congr {fuel depth : Nat} (h : skipBlanks text = skipBlanks text') :
    readItems fuel depth text = readItems fuel depth text' := by
  cases fuel with
  | zero => rfl
  | succ fuel => rw [readItems, readItems, readValue_congr h]

theorem readEntries_congr {fuel depth : Nat} (h : skipBlanks text = skipBlanks text') :
    readEntries fuel depth text = readEntries fuel depth text' := by
  cases fuel with
  | zero => rfl
  | succ fuel => rw [readEntries, readEntries, h]

/-! ### Values -/

/-- A character with which the text of a value starts. -/
def StartsValue (c : Char) : Prop := c.isDigit = true ∨ c ∈ ['n', 't', 'f', '\"', '-', '[', '\x7b']

theorem StartsValue.skipBlanks_eq {c : Char} (h : StartsValue c) :
    skipBlanks (c :: rest) = c :: rest := by
  refine List.dropWhile_cons_of_neg fun hblank => ?_
  simp only [Bool.or_eq_true, beq_iff_eq] at hblank
  revert h
  -- none of the four blanks starts a value
  rcases hblank with ((rfl | rfl) | rfl) | rfl
  all_goals
    unfold StartsValue
    decide

theorem StartsValue.ne_bracket {c : Char} (h : StartsValue c) : c ≠ ']' := by
  rintro rfl
  revert h
  unfold StartsValue
  decide

theorem exists_toDigits_eq_cons (n : Nat) :
    ∃ d ds, Nat.toDigits 10 n = d :: ds ∧ d.isDigit = true := by
  obtain ⟨d, ds, hds⟩ := List.exists_cons_of_ne_nil (@Nat.toDigits_ne_nil n 10)
  refine ⟨d, ds, hds, Nat.isDigit_of_mem_toDigits (b := 10) (n := n) (by decide) (by decide) ?_⟩
  rw [hds]
  exact List.mem_cons_self

/-- The text of a value starts with a character of its own. -/
theorem exists_write_eq_cons {v : Value} (hv : v.Integral) (style : Style) (level : Nat) :
    ∃ c more, write style level v = c :: more ∧ StartsValue c := by
  cases hv with
  | null => exact ⟨'n', _, by rw [write], .inr (by decide)⟩
  | bool b =>
    cases b with
    | true => exact ⟨'t', _, by rw [write], .inr (by decide)⟩
    | false => exact ⟨'f', _, by rw [write], .inr (by decide)⟩
  | @number i h =>
    rw [write, Number.write]
    split_ifs with hneg
    · exact ⟨'-', _, rfl, .inr (by decide)⟩
    · obtain ⟨d, ds, hds, hd⟩ := exists_toDigits_eq_cons i.natAbs
      exact ⟨d, ds, hds, .inl hd⟩
  | string s => exact ⟨'\"', _, by rw [write, quoted]; rfl, .inr (by decide)⟩
  | @array items h =>
    cases items with
    | nil => exact ⟨'[', _, by rw [write], .inr (by decide)⟩
    | cons item items => exact ⟨'[', _, by rw [write]; rfl, .inr (by decide)⟩
  | @object entries h =>
    cases entries with
    | nil => exact ⟨'\x7b', _, by rw [write], .inr (by decide)⟩
    | cons entry entries => exact ⟨'\x7b', _, by rw [write]; rfl, .inr (by decide)⟩

/-- What starts with a digit is read as a number. -/
theorem readValue_digit {fuel depth : Nat} {d : Char} (hd : d.isDigit = true) :
    readValue (fuel + 1) depth (d :: rest)
      = (fun p => (.number p.1, p.2)) <$> readNumber false (d :: rest) := by
  rw [readValue, StartsValue.skipBlanks_eq (.inl hd)]
  split
  case h_8 => rfl
  -- every other case has a first character that is no digit
  all_goals
    rename_i hcs
    obtain ⟨rfl, -⟩ := List.cons.inj hcs
    exact absurd hd (by decide)

/-- What stands after an element or an entry ends a number. -/
theorem endsNumber_writeItems (style : Style) (level outer : Nat) (items : List Value)
    (rest : List Char) :
    EndsNumber (writeItems style level items ++ (style.lineBreak outer ++ ']' :: rest)) := by
  cases items with
  | nil => exact endsNumber_lineBreak (by decide)
  | cons item items =>
    rw [writeItems]
    exact endsNumber_cons (by decide)

theorem endsNumber_writeEntries (style : Style) (level outer : Nat)
    (entries : List (String × Value)) (rest : List Char) :
    EndsNumber (writeEntries style level entries ++ (style.lineBreak outer ++ '}' :: rest)) := by
  cases entries with
  | nil => exact endsNumber_lineBreak (by decide)
  | cons entry entries =>
    rw [writeEntries]
    exact endsNumber_cons (by decide)

theorem readValue_bracket {fuel depth : Nat} {c : Char} (hc : StartsValue c)
    (h : skipBlanks text = c :: rest) :
    readValue (fuel + 1) (depth + 1) ('[' :: text)
      = (fun p => (.array p.1, p.2)) <$> readItems fuel depth (c :: rest) := by
  have hskip : skipBlanks ('[' :: text) = '[' :: text := rfl
  rw [readValue, hskip]
  simp only [h]
  split
  · rename_i hcs
    exact absurd (List.cons.inj hcs).1 hc.ne_bracket
  · rfl

theorem readValue_brace {fuel depth : Nat} (h : skipBlanks text = '\"' :: rest) :
    readValue (fuel + 1) (depth + 1) ('\x7b' :: text)
      = (fun p => (.object p.1, p.2)) <$> readEntries fuel depth ('\"' :: rest) := by
  have hskip : skipBlanks ('\x7b' :: text) = '\x7b' :: text := rfl
  rw [readValue, hskip]
  simp only [h]
  rfl

/-- A quoted text is read, and what stands after it is left. -/
theorem readString_quoted (s : String) (rest : List Char) :
    ∃ inside, quoted s ++ rest = '\"' :: inside ∧ readString inside = some (s.toList, rest) := by
  refine ⟨s.toList.flatMap escape ++ '\"' :: rest, ?_, readString_flatMap_escape _ _⟩
  rw [quoted, List.cons_append, List.cons_append, List.append_assoc]
  rfl

section Steps

variable {fuel depth : Nat} {item : Value} {after more inside between : List Char}

theorem readItems_last (hitem : readValue fuel depth text = some (item, after))
    (hafter : skipBlanks after = ']' :: rest) :
    readItems (fuel + 1) depth text = some ([item], rest) := by
  rw [readItems, hitem, Option.bind_eq_bind, Option.bind_some]
  simp only [hafter]
  rfl

theorem readItems_more (hitem : readValue fuel depth text = some (item, after))
    (hafter : skipBlanks after = ',' :: more) :
    readItems (fuel + 1) depth text = (fun p => (item :: p.1, p.2)) <$> readItems fuel depth more := by
  rw [readItems, hitem, Option.bind_eq_bind, Option.bind_some]
  simp only [hafter]
  cases readItems fuel depth more <;> rfl

variable {key : String} (hkey : readString inside = some (key.toList, between))
  (hbetween : skipBlanks between = ':' :: text)
  (hitem : readValue fuel depth text = some (item, after))

include hkey hbetween hitem

theorem readEntries_last (hafter : skipBlanks after = '}' :: rest) :
    readEntries (fuel + 1) depth ('\"' :: inside) = some ([(key, item)], rest) := by
  have hskip : skipBlanks ('\"' :: inside) = '\"' :: inside := rfl
  rw [readEntries, hskip]
  simp only [hkey, hbetween, hitem, hafter, Option.bind_eq_bind, Option.bind_some, String.ofList_toList]
  rfl

theorem readEntries_more (hafter : skipBlanks after = ',' :: more) :
    readEntries (fuel + 1) depth ('\"' :: inside)
      = (fun p => ((key, item) :: p.1, p.2)) <$> readEntries fuel depth more := by
  have hskip : skipBlanks ('\"' :: inside) = '\"' :: inside := rfl
  rw [readEntries, hskip]
  simp only [hkey, hbetween, hitem, hafter, Option.bind_eq_bind, Option.bind_some, String.ofList_toList]
  cases readEntries fuel depth more <;> rfl

end Steps

/-- The value is read from its text, whatever stands after it. -/
def ReadsBack (style : Style) (v : Value) : Prop :=
  ∀ (level fuel depth : Nat) (rest : List Char),
    (write style level v).length ≤ min fuel depth → EndsNumber rest →
      readValue fuel depth (write style level v ++ rest) = some (v, rest)

theorem writeItems_cons (item : Value) (items : List Value) :
    writeItems style level (item :: items)
      = ',' :: (style.lineBreak level ++ (write style level item ++ writeItems style level items)) := by
  rw [writeItems, List.cons_append, List.cons_append, List.append_assoc]

theorem writeEntries_cons (key : String) (item : Value) (entries : List (String × Value)) :
    writeEntries style level ((key, item) :: entries)
      = ',' :: (style.lineBreak level ++ (quoted key ++ (style.colon ++ (write style level item
        ++ writeEntries style level entries)))) := by
  simp only [writeEntries, List.cons_append, List.append_assoc]

/-- Written elements are read, up to the bracket that closes them. -/
theorem readItems_write {fuel depth outer : Nat} {item : Value} {items : List Value}
    (hread : ∀ v ∈ item :: items, ReadsBack style v)
    (hlength : (write style level item ++ writeItems style level items).length < min fuel depth) :
    readItems fuel depth (write style level item ++ (writeItems style level items
      ++ (style.lineBreak outer ++ ']' :: rest))) = some (item :: items, rest) := by
  induction items generalizing item fuel with
  | nil =>
    obtain ⟨fuel, rfl⟩ : ∃ n, fuel = n + 1 := ⟨fuel - 1, by omega⟩
    rw [List.length_append] at hlength
    refine readItems_last (hread item List.mem_cons_self level fuel depth _ (by omega)
      (endsNumber_writeItems style level outer [] rest)) ?_
    rw [writeItems, List.nil_append, skipBlanks_lineBreak]
    rfl
  | cons next items ih =>
    obtain ⟨fuel, rfl⟩ : ∃ n, fuel = n + 1 := ⟨fuel - 1, by omega⟩
    obtain ⟨hitem, hothers⟩ := List.forall_mem_cons.mp hread
    have hafter := endsNumber_writeItems style level outer (next :: items) rest
    -- what is left is shorter by the element and a comma, so that one step less is enough
    rw [writeItems_cons] at hlength hafter ⊢
    simp only [List.length_append, List.length_cons, List.cons_append, List.append_assoc]
      at hlength hafter ⊢
    rw [readItems_more (hitem level fuel depth _ (by omega) hafter) rfl,
      readItems_congr skipBlanks_lineBreak,
      ih hothers (by rw [List.length_append]; omega)]
    rfl

theorem exists_skipBlanks_colon (style : Style) (text : List Char) :
    ∃ gap, skipBlanks (style.colon ++ text) = ':' :: gap ∧ skipBlanks gap = skipBlanks text := by
  cases style with
  | compact => exact ⟨text, rfl, rfl⟩
  | pretty => exact ⟨' ' :: text, rfl, rfl⟩

/-- Written entries are read, up to the brace that closes them. -/
theorem readEntries_write {fuel depth outer : Nat} {key : String} {item : Value}
    {entries : List (String × Value)}
    (hread : ∀ p ∈ (key, item) :: entries, ReadsBack style p.2)
    (hlength : (write style level item ++ writeEntries style level entries).length < min fuel depth) :
    readEntries fuel depth (quoted key ++ (style.colon ++ (write style level item
      ++ (writeEntries style level entries ++ (style.lineBreak outer ++ '}' :: rest)))))
        = some ((key, item) :: entries, rest) := by
  induction entries generalizing key item fuel with
  | nil =>
    obtain ⟨fuel, rfl⟩ : ∃ n, fuel = n + 1 := ⟨fuel - 1, by omega⟩
    rw [List.length_append] at hlength
    have hback : ReadsBack style item := hread _ List.mem_cons_self
    have hitem := hback level fuel depth _ (by omega)
      (endsNumber_writeEntries style level outer [] rest)
    rw [writeEntries, List.nil_append] at hitem ⊢
    obtain ⟨inside, hquoted, hkey⟩ := readString_quoted key _
    -- the value is read behind the blank that may follow the colon
    obtain ⟨gap, hgap, hblank⟩ := exists_skipBlanks_colon style _
    rw [hquoted]
    refine readEntries_last hkey hgap ((readValue_congr hblank).trans hitem) ?_
    rw [skipBlanks_lineBreak]
    rfl
  | cons next entries ih =>
    obtain ⟨fuel, rfl⟩ : ∃ n, fuel = n + 1 := ⟨fuel - 1, by omega⟩
    obtain ⟨nextKey, next⟩ := next
    obtain ⟨hback, hothers⟩ := List.forall_mem_cons.mp hread
    have hback : ReadsBack style item := hback
    have hafter := endsNumber_writeEntries style level outer ((nextKey, next) :: entries) rest
    rw [writeEntries_cons] at hlength hafter ⊢
    simp only [List.length_append, List.length_cons, List.cons_append, List.append_assoc]
      at hlength hafter ⊢
    have hitem := hback level fuel depth _ (by omega) hafter
    obtain ⟨inside, hquoted, hkey⟩ := readString_quoted key _
    obtain ⟨gap, hgap, hblank⟩ := exists_skipBlanks_colon style _
    rw [hquoted, readEntries_more hkey hgap ((readValue_congr hblank).trans hitem) rfl,
      readEntries_congr skipBlanks_lineBreak, ih hothers (by rw [List.length_append]; omega)]
    rfl

/-- A text is not empty, so that the reader goes down one level for its value. -/
theorem readsBack_of_succ {v : Value} (hv : v.Integral)
    (h : ∀ (level fuel depth : Nat) (rest : List Char),
      (write style level v).length ≤ min (fuel + 1) (depth + 1) → EndsNumber rest →
        readValue (fuel + 1) (depth + 1) (write style level v ++ rest) = some (v, rest)) :
    ReadsBack style v := by
  intro level fuel depth rest hlength hrest
  obtain ⟨c, more, hwrite, -⟩ := exists_write_eq_cons hv style level
  have hpos : 0 < (write style level v).length := by
    rw [hwrite]
    exact Nat.succ_pos _
  obtain ⟨fuel, rfl⟩ : ∃ n, fuel = n + 1 := ⟨fuel - 1, by omega⟩
  obtain ⟨depth, rfl⟩ : ∃ n, depth = n + 1 := ⟨depth - 1, by omega⟩
  exact h level fuel depth rest hlength hrest

/-- A written integer is read. -/
theorem readValue_integer {fuel depth : Nat} {i : Int}
    (h : Number.leastInteger ≤ i ∧ i ≤ Number.greatestInteger) (hrest : EndsNumber rest) :
    readValue (fuel + 1) depth ((Number.integer i).write Number.jsonLayout ++ rest)
      = some (.number (.integer i), rest) := by
  have hread := readNumber_toDigits (decide (i < 0)) (integerNumber?_natAbs h) hrest
  rw [Number.write]
  split_ifs with hneg
  · rw [decide_eq_true hneg] at hread
    have hskip : skipBlanks ('-' :: (Nat.toDigits 10 i.natAbs ++ rest))
        = '-' :: (Nat.toDigits 10 i.natAbs ++ rest) := rfl
    rw [List.cons_append, List.nil_append, List.cons_append, readValue, hskip]
    simp only [hread]
    rfl
  · rw [decide_eq_false hneg] at hread
    obtain ⟨d, ds, hds, hd⟩ := exists_toDigits_eq_cons i.natAbs
    rw [List.nil_append, hds, List.cons_append, readValue_digit hd, ← List.cons_append, ← hds, hread]
    rfl

/-- **Values**: whatever is written is read. -/
theorem readsBack {v : Value} (hv : v.Integral) (style : Style) : ReadsBack style v := by
  induction hv with
  | null =>
    refine readsBack_of_succ .null fun level fuel depth rest _ _ => ?_
    rw [write]
    rfl
  | bool b =>
    refine readsBack_of_succ (.bool b) fun level fuel depth rest _ _ => ?_
    cases b <;> (rw [write]; rfl)
  | number h =>
    refine readsBack_of_succ (.number h) fun level fuel depth rest _ hrest => ?_
    rw [write]
    exact readValue_integer h hrest
  | string s =>
    refine readsBack_of_succ (.string s) fun level fuel depth rest _ _ => ?_
    obtain ⟨inside, hquoted, hread⟩ := readString_quoted s rest
    have hskip : skipBlanks ('\"' :: inside) = '\"' :: inside := rfl
    rw [write, hquoted, readValue, hskip]
    simp only [hread, Option.map_eq_map, Option.map_some, String.ofList_toList]
  | @array items h ih =>
    refine readsBack_of_succ (.array h) fun level fuel depth rest hlength _ => ?_
    cases items with
    | nil =>
      rw [write]
      rfl
    | cons item items =>
      -- the brackets make up for the level that is gone down
      rw [write] at hlength ⊢
      simp only [List.length_append, List.length_cons, List.cons_append, List.append_assoc,
        List.nil_append] at hlength ⊢
      have hread := @readItems_write style (level + 1) rest fuel depth level item items ih
        (by rw [List.length_append]; omega)
      obtain ⟨c, more, hwrite, hc⟩ := exists_write_eq_cons (h item List.mem_cons_self) style (level + 1)
      rw [hwrite, List.cons_append] at hread ⊢
      rw [readValue_bracket hc (skipBlanks_lineBreak.trans hc.skipBlanks_eq), hread]
      rfl
  | @object entries h ih =>
    refine readsBack_of_succ (.object h) fun level fuel depth rest hlength _ => ?_
    cases entries with
    | nil =>
      rw [write]
      rfl
    | cons entry entries =>
      obtain ⟨key, item⟩ := entry
      rw [write] at hlength ⊢
      simp only [List.length_append, List.length_cons, List.cons_append, List.append_assoc,
        List.nil_append] at hlength ⊢
      have hread := @readEntries_write style (level + 1) rest fuel depth level key item entries ih
        (by rw [List.length_append]; omega)
      obtain ⟨inside, hquoted, -⟩ := readString_quoted key _
      rw [hquoted] at hread ⊢
      rw [readValue_brace (skipBlanks_lineBreak.trans rfl), hread]
      rfl

/-- **Texts**: whatever is written is read back, in either layout. -/
theorem read_text {v : Value} (hv : v.Integral) (style : Style) :
    read (Json.text style v) = some v := by
  have hread := readsBack hv style 0 (2 * (write style 0 v).length + 2) (write style 0 v).length []
    (by omega) endsNumber_nil
  rw [List.append_nil] at hread
  rw [read, readWithin, Json.text, String.length_ofList, String.toList_ofList, hread]
  rfl

end Json
end Groundplan
