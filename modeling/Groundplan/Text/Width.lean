import Groundplan.Text.Ranges
import Groundplan.Text.WidthTable

/-!
# Width of text on a terminal

A character takes two columns when it is wide, none when it only modifies its neighbour, and otherwise
one.  Some sequences take less or more than their characters do by themselves: emoji that are joined or
modified, variation selectors, and the ligatures of a few scripts.  A text is measured from its end, so
that each character meets what is known of the ones behind it.
-/

namespace Groundplan.Text

/-! ### Single characters -/

/-- The columns that a character takes by itself. -/
def charWidth (c : Char) : Nat :=
  if c = '\u17d8' then 3
  else if c = '\u17a4' then 2
  else if inRanges zeroWidthRanges c.toNat then 0
  else if inRanges wideRanges c.toNat then 2
  else 1

/-- Whether a character is one half of a flag. -/
def isIndicator (c : Char) : Bool := 0x1F1E6 ≤ c.toNat && c.toNat ≤ 0x1F1FF

/-- Whether a character is a skin tone. -/
def isModifier (c : Char) : Bool := 0x1F3FB ≤ c.toNat && c.toNat ≤ 0x1F3FF

/-- Whether a character is an emoji by itself. -/
def isEmoji (c : Char) : Bool := inRanges emojiRanges c.toNat

/-- Whether a character is an invisible letter of the name of a flag. -/
def isTagLetter (c : Char) : Bool := 0xE0061 ≤ c.toNat && c.toNat ≤ 0xE007A

/-- Whether a character is an invisible digit of the name of a flag. -/
def isTagDigit (c : Char) : Bool := 0xE0030 ≤ c.toNat && c.toNat ≤ 0xE0039

/-- Whether a mark does not keep the Arabic letters around it from joining. -/
def isTransparent (c : Char) : Bool := charWidth c = 0 && !inRanges opaqueRanges c.toNat

/-- Whether a mark can stand inside a ligature without being seen. -/
def isIgnorableMark (c : Char) : Bool :=
  inRanges [(0x34F, 0x34F), (0x17B4, 0x17B5), (0x180B, 0x180D), (0x180F, 0x180F), (0xFE00, 0xFE0F),
    (0xE0100, 0xE01EF)] c.toNat

/-- Whether a letter is a form of alef. -/
def isAlef (c : Char) : Bool :=
  inRanges [(0x622, 0x623), (0x625, 0x625), (0x627, 0x627), (0x671, 0x673), (0x675, 0x675),
    (0x773, 0x774), (0x870, 0x882)] c.toNat

/-- Whether a letter is a form of lam. -/
def isLam (c : Char) : Bool :=
  inRanges [(0x644, 0x644), (0x6B5, 0x6B8), (0x76A, 0x76A), (0x8A6, 0x8A6), (0x8C7, 0x8C7)] c.toNat

/-- Whether a letter is a Tifinagh consonant. -/
def isTifinaghConsonant (c : Char) : Bool := inRanges [(0x2D31, 0x2D65), (0x2D6F, 0x2D6F)] c.toNat

/-- Whether a Khmer letter can stand below another one. -/
def isKhmerSubscript (c : Char) : Bool :=
  inRanges [(0x1780, 0x1782), (0x1784, 0x1787), (0x1789, 0x178C), (0x178E, 0x1793), (0x1795, 0x1798),
    (0x179B, 0x179D), (0x17A0, 0x17A0), (0x17A2, 0x17A2), (0x17A7, 0x17A7), (0x17AB, 0x17AC),
    (0x17AF, 0x17AF)] c.toNat

/-! ### What follows a character -/

/-- What the characters behind a position begin with, as far as it changes the columns before it. -/
inductive Follow where
  | other
  /-- An emoji, whole. -/
  | emoji
  /-- A skin tone. -/
  | modifier
  /-- One half of a flag, or several of them. -/
  | indicators (several : Bool)
  /-- A joiner with an emoji. -/
  | joined
  /-- A keycap with a joiner and an emoji. -/
  | joinedKeycap
  /-- Halves of flags with a joiner and an emoji: the first one, an odd number, an even number. -/
  | joinedIndicator
  | joinedOdd
  | joinedEven
  /-- The end of the name of a flag, after so many letters and digits, with a joiner and an emoji. -/
  | joinedLetters (n : Nat)
  | joinedDigits (n : Nat)
  /-- Parts of ligatures; some of them with a joiner before them. -/
  | alef
  | lamed (joiner : Bool)
  | ya (joiner : Bool)
  | vowelYa
  | consonant (joiner : Bool)
  | joinedConsonant
  | lowTone
  | orkhonI (joiner : Bool)
  | subscript
  | vowelE
  | vowelAi
  deriving DecidableEq, Repr

/-- A choice between the forms of the character before it. -/
inductive Variation where
  | text
  | emoji
  /-- The wide form of a quotation mark. -/
  | wide
  deriving DecidableEq, Repr

/-- What is known of the characters behind a position. -/
structure Context where
  follow : Follow
  variation : Option Variation
  deriving DecidableEq, Repr

namespace Follow

/-- Whether a variation selector leaves this part of a ligature as it is. -/
def isLigature : Follow → Bool
  | alef | lamed _ | ya _ | vowelYa | consonant _ | joinedConsonant | lowTone | orkhonI _
  | subscript => true
  | _ => false

/-- This with a joiner before it. -/
def withJoiner : Follow → Follow
  | lamed _ => lamed true
  | ya _ => ya true
  | consonant _ => consonant true
  | orkhonI _ => orkhonI true
  | f => f

/-- What a character begins by itself. -/
def ofChar (c : Char) : Follow :=
  if isModifier c then modifier
  else if isIndicator c then indicators false
  else if isEmoji c then emoji
  else if isAlef c then alef
  else if c = '\u05dc' then lamed false
  else if c = '\u1a10' then ya false
  else if isTifinaghConsonant c then consonant false
  else if c = '\ua4fc' ∨ c = '\ua4fd' then lowTone
  else if c.toNat = 0x10C03 then orkhonI false
  else if isKhmerSubscript c then subscript
  else if c.toNat = 0x16D67 then vowelE
  else if c.toNat = 0x16D68 then vowelAi
  else other

end Follow

/-- The variation that a selector chooses. -/
def Variation.ofChar? (c : Char) : Option Variation :=
  if c = '\ufe0f' then some .emoji
  else if c = '\ufe0e' then some .text
  else if c = '\ufe01' then some .wide
  else none

namespace Context

/-- Nothing that matters follows. -/
def none : Context := ⟨.other, .none⟩

/-- A context without a variation. -/
def of (follow : Follow) : Context := ⟨follow, .none⟩

/-- The context before a variation selector. -/
def withVariation (x : Context) (v : Variation) : Context :=
  let keeps := x.follow.isLigature || (v = .emoji && (x.follow = .joined || x.follow = .joinedKeycap))
  ⟨if keeps then x.follow else .other, some v⟩

/-- The context when its variation does not apply to the character before it. -/
def withoutVariation (x : Context) : Context :=
  match x.variation with
  | some _ => ⟨if x.follow.isLigature then x.follow else .other, .none⟩
  | .none => x

end Context

/-! ### Sequences -/

/-- The columns that a character adds before an invisible name of a flag, and the new context. -/
def tagStep? (f : Follow) (c : Char) : Option (Int × Follow) :=
  match f with
  | .joined => if c.toNat = 0xE007F then some (0, .joinedLetters 0) else none
  | .joinedLetters n =>
    if isTagLetter c && n < 6 then some (0, .joinedLetters (n + 1))
    else if isTagDigit c && n < 5 then some (0, .joinedDigits 1)
    else if c.toNat = 0x1F3F4 && 3 ≤ n then some (0, .emoji)
    else none
  | .joinedDigits n =>
    if isTagDigit c && n < 3 then some (0, .joinedDigits (n + 1))
    else if c.toNat = 0x1F3F4 && n = 3 then some (0, .emoji)
    else none
  | _ => none

/-- The columns that a character adds before a part of an emoji, and the new context. -/
def emojiStep? (f : Follow) (c : Char) : Option (Int × Follow) :=
  match f with
  | .modifier =>
    if inRanges modifierBaseRanges c.toNat then some (0, .emoji)
    else if c = '\u200d' then some (0, .joined)
    else none
  | .indicators several =>
    if isIndicator c then some (1, .indicators true)
    else if several && c = '\u200d' then some (0, .joined)
    else none
  | .emoji => if c = '\u200d' then some (0, .joined) else none
  | .joined =>
    if c = '\u20e3' then some (0, .joinedKeycap)
    else if isIndicator c then some (1, .joinedIndicator)
    else if isModifier c then some (0, .modifier)
    else if isEmoji c then some (0, .emoji)
    else tagStep? .joined c
  | .joinedIndicator => if isIndicator c then some (-1, .joinedEven) else none
  | .joinedOdd => if isIndicator c then some (-1, .joinedEven) else none
  | .joinedEven =>
    if isIndicator c then some (3, .joinedOdd)
    else if c = '\u200d' then some (0, .joined)
    else none
  | f => tagStep? f c

/-- The columns that a character adds before a part of a ligature, and the new context. -/
def ligatureStep? (f : Follow) (c : Char) : Option (Int × Follow) :=
  match f with
  | .alef =>
    if isLam c then some (0, .other) else if isTransparent c then some (0, .alef) else none
  | .lamed true => if c = '\u05d0' then some (0, .other) else none
  | .ya true => if c = '\u1a17' then some (0, .vowelYa) else none
  | .vowelYa => if c = '\u1a15' then some (0, .other) else none
  | .consonant joiner =>
    if c = '\u2d7f' then some (1, .joinedConsonant)
    else if joiner && isTifinaghConsonant c then some (0, .other)
    else none
  | .joinedConsonant => if isTifinaghConsonant c then some (-1, .other) else none
  | .lowTone => if '\ua4f8' ≤ c ∧ c ≤ '\ua4fb' then some (0, .other) else none
  | .orkhonI true => if c.toNat = 0x10C32 then some (0, .other) else none
  | .subscript => if c = '\u17d2' then some (-1, .other) else none
  | .vowelE =>
    if c.toNat = 0x16D63 then some (0, .other)
    else if c.toNat = 0x16D67 then some (0, .vowelAi)
    else if c.toNat = 0x16D68 then some (1, .vowelE)
    else if c.toNat = 0x16D69 then some (0, .other)
    else none
  | .vowelAi => if c.toNat = 0x16D63 then some (0, .other) else none
  | _ => none

/-- The columns that a character adds before a context without a variation, and the new context. -/
def plainStep (f : Follow) (c : Char) : Int × Context :=
  match Variation.ofChar? c with
  | some v => (0, (Context.of f).withVariation v)
  | none =>
    if f.isLigature && f != .alef && c = '\u200d' then (0, .of f.withJoiner)
    else if f.isLigature && f != .alef && isIgnorableMark c then (0, .of f)
    else
      match emojiStep? f c <|> ligatureStep? f c with
      | some (columns, f) => (columns, .of f)
      | none => (charWidth c, .of (.ofChar c))

/-- The columns that a character adds before a context, and the new context. -/
def step (x : Context) (c : Char) : Int × Context :=
  match x.variation with
  | some .emoji =>
    if inRanges emojiSequenceRanges c.toNat then
      (if x.follow = .joined ∨ x.follow = .joinedKeycap then 0 else 2, .of .emoji)
    else after
  | some .text => if inRanges textSequenceRanges c.toNat then (1, .none) else reselected
  | some .wide => if "‘’“”".toList.contains c then (2, .none) else reselected
  | none => after
where
  /-- The step when no variation applies. -/
  after : Int × Context :=
    if c.toNat ≤ 0xA0 then (1, .none) else plainStep x.withoutVariation.follow c
  /-- The step when no variation applies unless the character chooses another one. -/
  reselected : Int × Context :=
    match Variation.ofChar? c with
    | some v => (0, x.withVariation v)
    | none => after

/-- The columns that a text takes. -/
def width (text : List Char) : Nat :=
  (text.reverse.foldl (fun (columns, x) c =>
    let (more, x) := step x c
    (columns + more, x)) ((0 : Int), Context.none)).1.toNat

end Groundplan.Text
