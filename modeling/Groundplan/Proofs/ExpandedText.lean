import Groundplan.Settings.Expansion
import Mathlib.Data.List.Forall2
import Mathlib.Data.List.TakeWhile

/-!
# Expanded texts

The pieces of a text are described without a scanner: a text `Splits` into pieces if it is what they
say one after the other, where a variable has a name, a bare name goes on as far as it can, and a
plain character stands only where no variable starts.  Every text has one such split
(`exists_fits` finds its first piece), and it is the one that the scanner finds
(`pieces_written_append`, `splits_iff`).  So a text is expanded piece by piece: what a variable is
replaced by is not read again, and what holds a line break belongs to no variable
(`Splits.append_lineBreak`).  `expansion_literal` states all this of the expansion of a text.
-/

namespace Groundplan.Expansion

/-! ### Names -/

/-- A character that a name may start with: an ASCII letter or an underscore. -/
def IsNameStart (c : Char) : Prop := 'A' ≤ c ∧ c ≤ 'Z' ∨ 'a' ≤ c ∧ c ≤ 'z' ∨ c = '_'

/-- A character that a name may go on with: one of the former or an ASCII digit. -/
def IsNamePart (c : Char) : Prop := IsNameStart c ∨ '0' ≤ c ∧ c ≤ '9'

/-- A name is not empty. -/
def IsName : List Char → Prop
  | [] => False
  | c :: rest => IsNameStart c ∧ ∀ d ∈ rest, IsNamePart d

theorem startsName_iff {c : Char} : startsName c = true ↔ IsNameStart c := by
  have hranges : startsName c =
      (decide ('A' ≤ c ∧ c ≤ 'Z') || (decide ('a' ≤ c) && decide (c ≤ 'z')) || c == '_') := rfl
  rw [hranges, IsNameStart]
  simp only [Bool.or_eq_true, Bool.and_eq_true, decide_eq_true_eq, beq_iff_eq, or_assoc]

theorem continuesName_iff {c : Char} : continuesName c = true ↔ IsNamePart c := by
  have hranges : continuesName c =
      (c.isAlpha || (decide ('0' ≤ c) && decide (c ≤ '9')) || c == '_') := rfl
  rw [hranges, IsNamePart, ← startsName_iff, startsName]
  simp only [Bool.or_eq_true, Bool.and_eq_true, decide_eq_true_eq, or_right_comm]

theorem IsName.part {name : List Char} (h : IsName name) : ∀ c ∈ name, IsNamePart c := by
  cases name with
  | nil => cases h
  | cons first rest =>
    intro c hc
    rcases List.mem_cons.mp hc with rfl | hc
    · exact .inl h.1
    · exact h.2 c hc

theorem IsName.append {name more : List Char} (h : IsName name) (hmore : ∀ c ∈ more, IsNamePart c) :
    IsName (name ++ more) := by
  cases name with
  | nil => cases h
  | cons first rest =>
    refine ⟨h.1, fun c hc => ?_⟩
    rcases List.mem_append.mp hc with hc | hc
    · exact h.2 c hc
    · exact hmore c hc

/-- A text is at the end of a name: what follows, if anything, is no part of one. -/
def EndsName (rest : List Char) : Prop := ∀ c, rest.head? = some c → ¬ IsNamePart c

theorem takeWhile_name {name rest : List Char} (h : ∀ c ∈ name, IsNamePart c)
    (hrest : EndsName rest) : (name ++ rest).takeWhile continuesName = name := by
  rw [List.takeWhile_append_of_pos fun c hc => continuesName_iff.mpr (h c hc)]
  cases rest with
  | nil => simp
  | cons c rest =>
    have hc : continuesName c ≠ true := fun hc => hrest c rfl (continuesName_iff.mp hc)
    rw [List.takeWhile_cons_of_neg hc, List.append_nil]

theorem name?_append {name rest : List Char} (h : IsName name) (hrest : EndsName rest) :
    name? (name ++ rest) = some name := by
  cases name with
  | nil => cases h
  | cons c others =>
    rw [List.cons_append, name?, if_pos (startsName_iff.mpr h.1), takeWhile_name h.2 hrest]

theorem isName_of_name? {text name : List Char} (h : name? text = some name) :
    IsName name ∧ ∃ rest, text = name ++ rest := by
  cases text with
  | nil => cases h
  | cons c rest =>
    rw [name?] at h
    split_ifs at h with hstart
    obtain rfl := Option.some.inj h
    refine ⟨⟨startsName_iff.mp hstart, fun d hd => ?_⟩, rest.dropWhile continuesName, ?_⟩
    · exact continuesName_iff.mp (List.mem_takeWhile_imp hd)
    · rw [List.cons_append, List.takeWhile_append_dropWhile]

/-! ### Splits -/

/-- A variable starts the text. -/
def StartsVariable (text : List Char) : Prop :=
  ∃ braced name rest, IsName name ∧ text = (Piece.named braced name).written ++ rest

/-- A piece may stand before a text: a character only where no variable starts, a variable with a
name, and one without braces only at the end of the name. -/
def Piece.Fits : Piece → List Char → Prop
  | plain c, rest => ¬ StartsVariable (c :: rest)
  | named true name, _ => IsName name
  | named false name, rest => IsName name ∧ EndsName rest

/-- The text is made of the pieces, each of which may stand where it does. -/
inductive Splits : List Char → List Piece → Prop where
  | nil : Splits [] []
  | cons (p : Piece) {rest : List Char} {ps : List Piece} (h : p.Fits rest)
    (hrest : Splits rest ps) : Splits (p.written ++ rest) (p :: ps)

/-- Every text starts with a piece that may stand there. -/
theorem exists_fits {text : List Char} (h : text ≠ []) :
    ∃ p rest, text = Piece.written p ++ rest ∧ p.Fits rest := by
  by_cases hstarts : StartsVariable text
  · obtain ⟨braced, name, rest, hname, rfl⟩ := hstarts
    cases braced with
    | true => exact ⟨.named true name, rest, rfl, hname⟩
    | false =>
      -- a bare name takes all that can be part of it
      have hmore : ∀ c ∈ rest.takeWhile continuesName, IsNamePart c :=
        fun c hc => continuesName_iff.mp (List.mem_takeWhile_imp hc)
      refine ⟨.named false (name ++ rest.takeWhile continuesName), rest.dropWhile continuesName, ?_,
        hname.append hmore, fun c hc hpart => ?_⟩
      · simp [Piece.written]
      · -- the first character that is left cannot be part of it
        have hstop := List.head?_dropWhile_not continuesName rest
        rw [hc] at hstop
        simp [continuesName_iff.mpr hpart] at hstop
  · obtain ⟨c, rest, rfl⟩ := List.exists_cons_of_ne_nil h
    exact ⟨.plain c, rest, rfl, hstarts⟩

/-! ### The scanner -/

theorem piecesAfter_eq (skip : Nat) (text : List Char) :
    piecesAfter skip text = pieces (text.drop skip) := by
  induction text generalizing skip with
  | nil => cases skip <;> rfl
  | cons c rest ih =>
    cases skip with
    | zero => rfl
    | succ skip => rw [piecesAfter, ih, List.drop_succ_cons]

theorem pieces_dollar (rest : List Char) :
    pieces ('$' :: rest) =
      match named? rest with
      | some (p, length) => p :: pieces (rest.drop length)
      | none => .plain '$' :: pieces rest := by
  rw [pieces, piecesAfter, if_pos rfl]
  cases named? rest with
  | none => rfl
  | some found => exact congrArg (found.1 :: ·) (piecesAfter_eq found.2 rest)

theorem pieces_other {c : Char} (hc : c ≠ '$') (rest : List Char) :
    pieces (c :: rest) = .plain c :: pieces rest := by
  rw [pieces, piecesAfter, if_neg hc, pieces]

/-- A name does not start with a brace. -/
theorem IsName.ne_brace {c : Char} {name : List Char} (h : IsName (c :: name)) : c ≠ '{' := by
  rintro rfl
  exact absurd (startsName_iff.mpr h.1) (by decide)

theorem named?_braced {name rest : List Char} (h : IsName name) :
    named? ('{' :: name ++ '}' :: rest) = some (.named true name, name.length + 2) := by
  have hend : EndsName ('}' :: rest) := by
    rintro c hc hpart
    obtain rfl := Option.some.inj hc
    exact absurd (continuesName_iff.mpr hpart) (by decide)
  simp [named?, name?_append h hend]

theorem named?_bare {name rest : List Char} (h : IsName name) (hrest : EndsName rest) :
    named? (name ++ rest) = some (.named false name, name.length) := by
  have hread := name?_append h hrest
  cases name with
  | nil => cases h
  | cons c others =>
    rw [List.cons_append] at hread ⊢
    rw [named?, hread, Option.map_some]
    exact fun _ heq => h.ne_brace (List.cons.inj heq).1

/-- What the scanner takes for a variable is one. -/
theorem startsVariable_of_named? {rest : List Char} {found : Piece × Nat}
    (h : named? rest = some found) : StartsVariable ('$' :: rest) := by
  unfold named? at h
  split at h
  · rename_i inner
    split at h
    · rename_i name hname
      split_ifs at h with hclosed
      obtain ⟨his, more, rfl⟩ := isName_of_name? hname
      rw [List.getElem?_append_right le_rfl, Nat.sub_self] at hclosed
      obtain ⟨others, rfl⟩ : ∃ others, more = '}' :: others := by
        cases more with
        | nil => cases hclosed
        | cons c others => exact ⟨others, by rw [Option.some.inj hclosed]⟩
      exact ⟨true, name, others, his, by simp [Piece.written]⟩
    · cases h
  · obtain ⟨name, hname, -⟩ := Option.map_eq_some_iff.mp h
    obtain ⟨his, more, rfl⟩ := isName_of_name? hname
    exact ⟨false, name, more, his, rfl⟩

/-- The scanner takes a piece that may stand at the start of a text, and goes on after it. -/
theorem pieces_written_append {p : Piece} {rest : List Char} (h : p.Fits rest) :
    pieces (p.written ++ rest) = p :: pieces rest := by
  match p, h with
  | .plain c, h =>
    by_cases hc : c = '$'
    · subst hc
      -- where no variable starts, the scanner finds none and takes the dollar sign alone
      have hnone : named? rest = none :=
        Option.eq_none_iff_forall_ne_some.mpr fun found hfound => h (startsVariable_of_named? hfound)
      rw [Piece.written, List.singleton_append, pieces_dollar, hnone]
    · exact pieces_other hc rest
  | .named true name, h =>
    have hwritten : Piece.written (.named true name) ++ rest = '$' :: ('{' :: name ++ '}' :: rest) := by
      simp [Piece.written]
    have hdrop : ('{' :: name ++ '}' :: rest).drop (name.length + 2) = rest := by simp
    rw [hwritten, pieces_dollar, named?_braced h]
    exact congrArg (_ :: pieces ·) hdrop
  | .named false name, h =>
    rw [Piece.written, List.cons_append, pieces_dollar, named?_bare h.1 h.2]
    exact congrArg (_ :: pieces ·) List.drop_left

theorem Splits.eq_pieces {text : List Char} {ps : List Piece} (h : Splits text ps) :
    ps = pieces text := by
  induction h with
  | nil => rfl
  | cons p h hrest ih => rw [pieces_written_append h, ih]

theorem Piece.written_ne_nil (p : Piece) : p.written ≠ [] := by
  cases p with
  | plain c => simp [Piece.written]
  | named braced name => cases braced <;> simp [Piece.written]

theorem splits_pieces (text : List Char) : Splits text (pieces text) := by
  -- what is left behind the first piece is a shorter text, but not the tail of this one
  induction hlen : text.length using Nat.strong_induction_on generalizing text with
  | _ length ih =>
  by_cases hnil : text = []
  · subst hnil
    exact .nil
  · obtain ⟨p, rest, rfl, hfits⟩ := exists_fits hnil
    have hshorter : rest.length < length := by
      have := List.length_pos_of_ne_nil p.written_ne_nil
      rw [List.length_append] at hlen
      omega
    rw [pieces_written_append hfits]
    exact .cons p hfits (ih _ hshorter rest rfl)

/-- A text has one split. -/
theorem splits_iff {text : List Char} {ps : List Piece} : Splits text ps ↔ ps = pieces text :=
  ⟨Splits.eq_pieces, fun h => h ▸ splits_pieces text⟩

/-! ### Line breaks -/

theorem not_isNamePart_lineBreak : ¬ IsNamePart '\n' :=
  fun h => absurd (continuesName_iff.mpr h) (by decide)

/-- A variable holds no line break. -/
theorem IsName.lineBreak_notMem {name : List Char} (h : IsName name) (braced : Bool) :
    '\n' ∉ (Piece.named braced name).written := by
  have hname : '\n' ∉ name := fun hmem => not_isNamePart_lineBreak (h.part _ hmem)
  cases braced <;> simp [Piece.written, hname]

theorem startsVariable_of_append_lineBreak {text more : List Char}
    (h : StartsVariable (text ++ '\n' :: more)) : StartsVariable text := by
  obtain ⟨braced, name, rest, hname, heq⟩ := h
  rcases List.append_eq_append_iff.mp heq with ⟨excess, hwritten, hexcess⟩ | ⟨excess, htext, -⟩
  · -- the variable would reach beyond the line break
    cases excess with
    | nil => exact ⟨braced, name, [], hname, by simp [hwritten]⟩
    | cons c excess =>
      obtain ⟨rfl, -⟩ := List.cons.inj hexcess
      exact absurd (by simp [hwritten]) (hname.lineBreak_notMem braced)
  · exact ⟨braced, name, excess, hname, htext⟩

theorem EndsName.append_lineBreak {rest : List Char} (h : EndsName rest) (more : List Char) :
    EndsName (rest ++ '\n' :: more) := by
  intro c hc
  cases rest with
  | nil =>
    obtain rfl := Option.some.inj hc
    exact not_isNamePart_lineBreak
  | cons d rest => exact h c hc

theorem Piece.Fits.append_lineBreak {p : Piece} {rest : List Char} (h : p.Fits rest)
    (more : List Char) : p.Fits (rest ++ '\n' :: more) := by
  match p, h with
  | .plain c, h => exact fun hstarts => h (startsVariable_of_append_lineBreak hstarts)
  | .named true name, h => exact h
  | .named false name, h => exact ⟨h.1, h.2.append_lineBreak more⟩

theorem Splits.append_lineBreak {text more : List Char} {ps qs : List Piece} (h : Splits text ps)
    (hmore : Splits more qs) : Splits (text ++ '\n' :: more) (ps ++ .plain '\n' :: qs) := by
  induction h with
  | nil =>
    -- a variable starts with a dollar sign
    refine .cons (.plain '\n') (fun hstarts => ?_) hmore
    obtain ⟨braced, name, rest, -, heq⟩ := hstarts
    cases braced <;> cases heq
  | cons p hfits hrest ih =>
    rw [List.append_assoc]
    exact .cons p (hfits.append_lineBreak more) ih

theorem pieces_append_lineBreak (text more : List Char) :
    pieces (text ++ '\n' :: more) = pieces text ++ .plain '\n' :: pieces more :=
  ((splits_pieces text).append_lineBreak (splits_pieces more)).eq_pieces.symm

/-! ### The expansion -/

/-- What a piece becomes: a variable that is set its value, every other piece what was written. -/
inductive Becomes (env : Environment) : Piece → List Char → Prop where
  | plain (c : Char) : Becomes env (.plain c) [c]
  | set {braced : Bool} {name : List Char} {value : String}
    (h : env.get? (String.ofList name) = some value) :
    Becomes env (.named braced name) value.toList
  | unset {braced : Bool} {name : List Char} (h : env.get? (String.ofList name) = none) :
    Becomes env (.named braced name) (Piece.named braced name).written

/-- What a piece becomes is determined. -/
theorem becomes_iff {env : Environment} {p : Piece} {part : List Char} :
    Becomes env p part ↔ p.expanded env = part := by
  constructor
  · intro h
    cases h with
    | plain c => rfl
    | set h => rw [Piece.expanded, h]
    | unset h => rw [Piece.expanded, h]
  · rintro rfl
    cases p with
    | plain c => exact .plain c
    | named braced name =>
      rw [Piece.expanded]
      cases hget : env.get? (String.ofList name) with
      | none => exact .unset hget
      | some value => exact .set hget

theorem forall₂_becomes_iff {env : Environment} {ps : List Piece} {parts : List (List Char)} :
    List.Forall₂ (Becomes env) ps parts ↔ ps.map (Piece.expanded env) = parts := by
  have hbecomes : Becomes env = fun p part => p.expanded env = part :=
    funext₂ fun p part => propext becomes_iff
  rw [hbecomes, ← List.forall₂_map_left_iff, List.forall₂_eq_eq_eq]

theorem toList_expand (env : Environment) (text : String) :
    (env.expand text).toList = (pieces text.toList).flatMap (Piece.expanded env) := by
  rw [Environment.expand, String.toList_ofList]

theorem Splits.flatMap_written {text : List Char} {ps : List Piece} (h : Splits text ps) :
    ps.flatMap Piece.written = text := by
  induction h with
  | nil => rfl
  | cons p _ _ ih => rw [List.flatMap_cons, ih]

theorem Piece.expanded_eq_written {env : Environment} {p : Piece}
    (h : ∀ braced name, p = .named braced name → env.get? (String.ofList name) = none) :
    p.expanded env = p.written := by
  cases p with
  | plain c => rfl
  | named braced name => rw [Piece.expanded, h braced name rfl]

theorem Piece.expanded_congr {env env' : Environment} {p : Piece}
    (h : ∀ braced name, p = .named braced name →
      env.get? (String.ofList name) = env'.get? (String.ofList name)) :
    p.expanded env = p.expanded env' := by
  cases p with
  | plain c => rfl
  | named braced name => rw [Piece.expanded, Piece.expanded, h braced name rfl]

theorem expand_append_lineBreak (env : Environment) (text more : String) :
    env.expand (text ++ "\n" ++ more) = env.expand text ++ "\n" ++ env.expand more := by
  have hchars : (text ++ "\n" ++ more).toList = text.toList ++ '\n' :: more.toList := by simp
  refine String.toList_injective ?_
  rw [toList_expand, hchars, pieces_append_lineBreak, List.flatMap_append, List.flatMap_cons]
  simp [toList_expand, Piece.expanded]

/-- A text has one split, and the expansion puts what its pieces become one after the other.  So it
is the text itself if no variable named there is set, it depends on no other variable, and it takes a
text line by line. -/
theorem expansion_literal (text : String) :
    ∃ ps, (∀ qs, Splits text.toList qs ↔ qs = ps) ∧ ∀ env : Environment,
      (∃ parts, List.Forall₂ (Becomes env) ps parts ∧ (env.expand text).toList = parts.flatten) ∧
      ((∀ braced name, .named braced name ∈ ps → env.get? (String.ofList name) = none) →
        env.expand text = text) ∧
      (∀ env' : Environment,
        (∀ braced name, .named braced name ∈ ps →
          env'.get? (String.ofList name) = env.get? (String.ofList name)) →
        env'.expand text = env.expand text) ∧
      ∀ more, env.expand (text ++ "\n" ++ more) = env.expand text ++ "\n" ++ env.expand more := by
  refine ⟨pieces text.toList, fun qs => splits_iff, fun env => ⟨?_, fun hunset => ?_, ?_, ?_⟩⟩
  · exact ⟨_, forall₂_becomes_iff.mpr rfl, by rw [toList_expand, List.flatMap_def]⟩
  · refine String.toList_injective ?_
    rw [toList_expand, List.flatMap_congr fun p hp => Piece.expanded_eq_written fun braced name h =>
      hunset braced name (h ▸ hp), (splits_pieces text.toList).flatMap_written]
  · intro env' hagree
    refine String.toList_injective ?_
    rw [toList_expand, toList_expand]
    exact List.flatMap_congr fun p hp => Piece.expanded_congr fun braced name h =>
      hagree braced name (h ▸ hp)
  · exact expand_append_lineBreak env text

/-- Dollar signs next to each other, braces within braces, and braces that are not closed.  Variables are
replaced by values that name variables in their turn; one with the name `$A` is never meant, and one
that the text does not name does not matter. -/
theorem expansion_literal_overlapping :
    let text := "$$A $\x7b$\x7bB\x7d\x7d $\x7bA $A"
    Environment.expand [("A", "$B"), ("B", "$\x7bA\x7d")] text
        = "$$B $\x7b$\x7bA\x7d\x7d $\x7bA $B" ∧
    Environment.expand [("$A", "1")] text = text ∧
    Environment.expand [("C", "1"), ("B", "$A")] text = Environment.expand [("B", "$A")] text := by
  intro text
  obtain ⟨ps, hsplit, h⟩ := expansion_literal text
  have hps : [.plain '$', .named false ['A'], .plain ' ', .plain '$', .plain '{', .named true ['B'],
      .plain '}', .plain ' ', .plain '$', .plain '{', .plain 'A', .plain ' ', .named false ['A']]
      = ps :=
    (hsplit _).mp (splits_iff.mpr (by decide))
  have hnamed : ∀ braced name, Piece.named braced name ∈ ps → name = ['A'] ∨ name = ['B'] := by
    simp [← hps]
  refine ⟨?_, (h _).2.1 fun braced name hmem => ?_, (h _).2.2.1 _ fun braced name hmem => ?_⟩
  · obtain ⟨parts, hparts, hexpand⟩ := (h [("A", "$B"), ("B", "$\x7bA\x7d")]).1
    obtain rfl := forall₂_becomes_iff.mp hparts
    refine String.toList_injective ?_
    rw [hexpand, ← hps]
    decide
  · rcases hnamed braced name hmem with rfl | rfl <;> rfl
  · rcases hnamed braced name hmem with rfl | rfl <;> rfl

end Groundplan.Expansion
