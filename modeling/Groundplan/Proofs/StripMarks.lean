import Groundplan.Canonical.Expression
import Groundplan.Proofs.Placement
import Mathlib.Data.List.DropRight
import Mathlib.Data.List.Forall2

/-!
# Strip marks

A template is a sequence of texts and markers, in the order of the source and whatever the directives
that the markers belong to (`piecesOf`).  `facing` lists its texts with what the two neighbours of each
say: whether the piece before it strips the white space after itself, and whether the piece after it
strips the white space before itself.  Lowering gives a part of the matching kind for each element
(`Element.Matches`), and the texts of these parts are the texts of the template, each without the white
space that its neighbours strip and otherwise unchanged (`lowerElements_eq_ok_iff`).  So white space
that a marker strips makes no difference (`strips_exact`).
-/

namespace Groundplan.Hcl

open Text

/-! ### White space around a text -/

/-- The text is another one with white space around it, on the sides that are stripped only. -/
def Pads (start stop : Bool) (core text : String) : Prop :=
  ∃ before after : List Char, text.toList = before ++ core.toList ++ after ∧
    (∀ c ∈ before, isBlank c = true) ∧ (∀ c ∈ after, isBlank c = true) ∧
    (start = false → before = []) ∧ (stop = false → after = [])

/-- The result is the text without the white space on the sides that are stripped. -/
structure IsStripped (start stop : Bool) (text result : String) : Prop where
  pads : Pads start stop result text
  start : start = true → ∀ c ∈ result.toList.head?, isBlank c = false
  stop : stop = true → ∀ c ∈ result.toList.getLast?, isBlank c = false

section Trimming

variable {start stop : Bool} {core text result : String} {blanks chars : List Char}

/-- Leading white space, and nothing else, is trimmed at the start. -/
theorem exists_trimStart (chars : List Char) :
    ∃ before, chars = before ++ trimStart chars ∧ ∀ c ∈ before, isBlank c = true :=
  ⟨chars.takeWhile isBlank, List.takeWhile_append_dropWhile.symm, fun _ h => List.mem_takeWhile_imp h⟩

/-- Trailing white space, and nothing else, is trimmed at the end. -/
theorem exists_trimEnd (chars : List Char) :
    ∃ after, chars = trimEnd chars ++ after ∧ ∀ c ∈ after, isBlank c = true := by
  obtain ⟨before, hchars, hblank⟩ := exists_trimStart chars.reverse
  refine ⟨before.reverse, ?_, fun c hc => hblank c (List.mem_reverse.mp hc)⟩
  have hreverse : chars = (before ++ trimStart chars.reverse).reverse := by
    rw [← hchars, List.reverse_reverse]
  rwa [List.reverse_append] at hreverse

theorem head?_trimStart (chars : List Char) : ∀ c ∈ (trimStart chars).head?, isBlank c = false := by
  intro c hc
  have hhead := List.head?_dropWhile_not isBlank chars
  rw [← trimStart, Option.mem_def.mp hc] at hhead
  simpa using hhead

theorem getLast?_trimEnd (chars : List Char) : ∀ c ∈ (trimEnd chars).getLast?, isBlank c = false := by
  intro c hc
  unfold trimEnd at hc
  rw [List.getLast?_reverse] at hc
  exact head?_trimStart chars.reverse c hc

theorem trimStart_eq_self (h : ∀ c ∈ chars.head?, isBlank c = false) : trimStart chars = chars := by
  unfold trimStart
  cases chars with
  | nil => rfl
  | cons c rest => rw [List.dropWhile_cons_of_neg (by simp [h c rfl])]

theorem trimEnd_eq_self (h : ∀ c ∈ chars.getLast?, isBlank c = false) : trimEnd chars = chars := by
  have hreverse : trimStart chars.reverse = chars.reverse := by
    apply trimStart_eq_self
    rwa [List.head?_reverse]
  unfold trimEnd
  rw [← trimStart, hreverse, List.reverse_reverse]

theorem trimStart_append (h : ∀ c ∈ blanks, isBlank c = true) (chars : List Char) :
    trimStart (blanks ++ chars) = trimStart chars :=
  List.dropWhile_append_of_pos h

theorem trimEnd_append (h : ∀ c ∈ blanks, isBlank c = true) (chars : List Char) :
    trimEnd (chars ++ blanks) = trimEnd chars := by
  unfold trimEnd
  rw [List.reverse_append, List.dropWhile_append_of_pos]
  intro c hc
  exact h c (List.mem_reverse.mp hc)

/-- White space at the end does not matter once the end is trimmed, also after the start was. -/
theorem trimEnd_trimStart_append (h : ∀ c ∈ blanks, isBlank c = true) (chars : List Char) :
    trimEnd (trimStart (chars ++ blanks)) = trimEnd (trimStart chars) := by
  unfold trimStart
  rw [List.dropWhile_append]
  split_ifs with hempty
  · -- nothing but white space
    have hblank : blanks.dropWhile isBlank = [] := List.dropWhile_eq_nil_iff.mpr h
    rw [hblank, List.isEmpty_iff.mp hempty]
  · exact trimEnd_append h _

/-- White space on stripped sides is taken away. -/
theorem stripped_of_pads (h : Pads start stop core text) :
    stripped start stop text = stripped start stop core := by
  obtain ⟨before, after, htext, hbefore, hafter, hstart, hstop⟩ := h
  unfold stripped
  dsimp only
  rw [htext]
  cases start with
  | false =>
    rw [hstart rfl, List.nil_append]
    cases stop with
    | false => rw [hstop rfl, List.append_nil]
    | true => simp only [Bool.false_eq_true, if_false, if_true, trimEnd_append hafter]
  | true =>
    simp only [if_true]
    rw [List.append_assoc, trimStart_append hbefore]
    cases stop with
    | false => rw [hstop rfl, List.append_nil]
    | true => simp only [if_true, trimEnd_trimStart_append hafter]

/-- A text without white space on the stripped sides stays as it is. -/
theorem stripped_eq_self (hstart : start = true → ∀ c ∈ text.toList.head?, isBlank c = false)
    (hstop : stop = true → ∀ c ∈ text.toList.getLast?, isBlank c = false) :
    stripped start stop text = text := by
  have hchars : (if start then trimStart text.toList else text.toList) = text.toList := by
    split_ifs with h
    · exact trimStart_eq_self (hstart h)
    · rfl
  unfold stripped
  dsimp only
  rw [hchars]
  split_ifs with h
  · rw [trimEnd_eq_self (hstop h), String.ofList_toList]
  · exact String.ofList_toList

theorem isStripped_stripped (start stop : Bool) (text : String) :
    IsStripped start stop text (stripped start stop text) := by
  -- first the start is trimmed, and then the end of what is left
  set middle := if start then trimStart text.toList else text.toList with hmiddle
  set result := if stop then trimEnd middle else middle with hresult
  have hchars : (stripped start stop text).toList = result := by
    unfold stripped
    rw [String.toList_ofList]
  obtain ⟨before, htext, hbefore, hstart⟩ : ∃ before, text.toList = before ++ middle ∧
      (∀ c ∈ before, isBlank c = true) ∧ (start = false → before = []) := by
    cases start with
    | false => exact ⟨[], by simp [hmiddle]⟩
    | true =>
      obtain ⟨before, htext, hbefore⟩ := exists_trimStart text.toList
      exact ⟨before, htext, hbefore, by simp⟩
  obtain ⟨after, hsplit, hafter, hstop⟩ : ∃ after, middle = result ++ after ∧
      (∀ c ∈ after, isBlank c = true) ∧ (stop = false → after = []) := by
    cases stop with
    | false => exact ⟨[], by simp [hresult]⟩
    | true =>
      obtain ⟨after, hsplit, hafter⟩ := exists_trimEnd middle
      exact ⟨after, hsplit, hafter, by simp⟩
  refine ⟨⟨before, after, ?_, hbefore, hafter, hstart, hstop⟩, ?_, ?_⟩
  · rw [hchars, htext, hsplit, List.append_assoc]
  · intro h c hc
    have hhead : ∀ c ∈ middle.head?, isBlank c = false := by
      rw [hmiddle, if_pos h]
      exact head?_trimStart text.toList
    rw [hchars] at hc
    apply hhead
    rw [hsplit]
    exact List.mem_head?_append_of_mem_head? hc
  · intro h
    rw [hchars, hresult, if_pos h]
    exact getLast?_trimEnd middle

/-- Stripping takes away the white space on the sides that are stripped, and nothing else. -/
theorem isStripped_iff : IsStripped start stop text result ↔ result = stripped start stop text := by
  constructor
  · intro h
    rw [stripped_of_pads h.pads, stripped_eq_self h.start h.stop]
  · rintro rfl
    exact isStripped_stripped start stop text

end Trimming

/-! ### Texts between markers -/

/-- What a template is made of, in the order of the source. -/
inductive Piece where
  | text (text : String)
  /-- `${…}`, or a marker of a directive: `%{if …}`, `%{else}`, `%{endif}`, `%{for …}` or
  `%{endfor}`. -/
  | marker (strip : Strip)

mutual

/-- The pieces of an element. -/
def Element.pieces (element : Element) : List Piece :=
  match element with
  | .literal text => [.text text]
  | .interpolation strip _ => [.marker strip]
  | .ifThen opening _ yes closing => .marker opening :: (piecesOf yes ++ [.marker closing])
  | .ifElse opening _ yes middle no closing =>
    .marker opening :: (piecesOf yes ++ .marker middle :: (piecesOf no ++ [.marker closing]))
  | .repetition opening _ _ _ body closing =>
    .marker opening :: (piecesOf body ++ [.marker closing])
termination_by structural element

/-- The pieces of a template. -/
def piecesOf (elements : List Element) : List Piece :=
  match elements with
  | [] => []
  | element :: rest => Element.pieces element ++ piecesOf rest
termination_by structural elements

end

/-- On which sides a piece strips its neighbours. -/
def Piece.strips : Piece → Strip
  | text _ => ⟨false, false⟩
  | marker strip => strip

/-- Whether the piece after some place strips the white space before it; `last` says so for the place
after all pieces. -/
def stripsBefore (pieces : List Piece) (last : Bool) : Bool :=
  match pieces with
  | [] => last
  | next :: _ => next.strips.before

/-- The texts among pieces, each with whether the piece before it strips its start and whether the
piece after it strips its end. -/
def facing (first : Bool) (pieces : List Piece) (last : Bool) : List (Bool × String × Bool) :=
  match pieces with
  | [] => []
  | .text text :: rest => (first, text, stripsBefore rest last) :: facing false rest last
  | .marker strip :: rest => facing strip.after rest last

mutual

/-- The texts of a part that stand outside of its interpolations, in the order of the source. -/
def textsOfPart (part : Part) : List String :=
  match part with
  | .literal text => [text]
  | .interpolation _ => []
  | .directive e => textsOfBranches e
termination_by structural part

/-- The texts of parts, one part after the other. -/
def textsOf (parts : List Part) : List String :=
  match parts with
  | [] => []
  | part :: rest => textsOfPart part ++ textsOf rest
termination_by structural parts

/-- The texts of the branches of a directive. -/
def textsOfBranches (e : Expression) : List String :=
  match e with
  | .template _ parts => textsOf parts
  | .conditional _ _ yes no => textsOfBranches yes ++ textsOfBranches no
  | .forEach _ _ _ _ body => textsOfBranches body
  | .literal _ _ | .wrap _ _ | .tuple _ _ | .object _ _ | .reference _ | .dynamic _ => []
termination_by structural e

end

/-! ### Parts of the matching kind -/

mutual

/-- The part is of the kind of the element, and all of it but its texts is what the expressions in the
element lower to. -/
def Element.Matches (file : String) (element : Element) (part : Part) : Prop :=
  match element with
  | .literal _ => ∃ text, part = .literal text
  | .interpolation _ e => ∃ x, e.lower file = .ok x ∧ part = .interpolation x
  | .ifThen _ condition yes _ => ∃ x ys, condition.lower file = .ok x ∧ MatchAll file yes ys ∧
    part = .directive (.conditional x.span x (.template x.span ys) (.template x.span []))
  | .ifElse _ condition yes _ no _ => ∃ x ys ns, condition.lower file = .ok x ∧
    MatchAll file yes ys ∧ MatchAll file no ns ∧
    part = .directive (.conditional x.span x (.template x.span ys) (.template x.span ns))
  | .repetition _ key value collection body _ => ∃ x bs, collection.lower file = .ok x ∧
    MatchAll file body bs ∧
    part = .directive (.forEach x.span key value x (.template x.span bs))
termination_by structural element

/-- There is one part for each element, and they match in turn. -/
def MatchAll (file : String) (elements : List Element) (parts : List Part) : Prop :=
  match elements with
  | [] => parts = []
  | element :: rest => ∃ part others, parts = part :: others ∧ Element.Matches file element part ∧
    MatchAll file rest others
termination_by structural elements

end

section Facing

variable {file : String} {first last : Bool} {pieces more : List Piece} {elements : List Element}
  {parts : List Part}

theorem matchAll_iff :
    MatchAll file elements parts ↔ List.Forall₂ (Element.Matches file) elements parts := by
  induction elements generalizing parts with
  | nil => rw [MatchAll, List.forall₂_nil_left_iff]
  | cons element rest ih =>
    rw [MatchAll, List.forall₂_cons_left_iff]
    simp only [ih]
    constructor
    · rintro ⟨part, others, rfl, hpart, hothers⟩
      exact ⟨part, others, hpart, hothers, rfl⟩
    · rintro ⟨part, others, hpart, hothers, rfl⟩
      exact ⟨part, others, rfl, hpart, hothers⟩

/-- Whether the piece before the place after some pieces strips the white space after itself. -/
def stripsAfter (first : Bool) (pieces : List Piece) : Bool :=
  match pieces with
  | [] => first
  | piece :: rest => stripsAfter piece.strips.after rest

theorem facing_append (first : Bool) (pieces more : List Piece) (last : Bool) :
    facing first (pieces ++ more) last
      = facing first pieces (stripsBefore more last)
        ++ facing (stripsAfter first pieces) more last := by
  induction pieces generalizing first with
  | nil => rfl
  | cons piece rest ih =>
    cases piece with
    | marker strip =>
      rw [List.cons_append, facing, ih, facing]
      rfl
    | text text =>
      have hnext : stripsBefore (rest ++ more) last = stripsBefore rest (stripsBefore more last) := by
        cases rest with
        | nil => rfl
        | cons next others => rfl
      rw [List.cons_append, facing, ih, facing, hnext]
      rfl

/-- The marker at the end of pieces is the neighbour of the text before it only. -/
theorem facing_append_marker (first : Bool) (pieces more : List Piece) (strip : Strip) (last : Bool) :
    facing first (pieces ++ .marker strip :: more) last
      = facing first pieces strip.before ++ facing strip.after more last := by
  rw [facing_append, facing]
  rfl

theorem stripsBefore_pieces (element : Element) (more : List Piece) (last : Bool) :
    stripsBefore (element.pieces ++ more) last = element.strips.before := by
  cases element <;> rfl

theorem stripsAfter_append_singleton (first : Bool) (pieces : List Piece) (piece : Piece) :
    stripsAfter first (pieces ++ [piece]) = piece.strips.after := by
  induction pieces generalizing first with
  | nil => rfl
  | cons next rest ih => exact ih next.strips.after

theorem stripsAfter_pieces (element : Element) (first : Bool) :
    stripsAfter first element.pieces = element.strips.after := by
  cases element with
  | literal | interpolation => rfl
  | ifThen opening condition yes closing =>
    rw [Element.pieces, ← List.cons_append]
    exact stripsAfter_append_singleton first (.marker opening :: piecesOf yes) (.marker closing)
  | ifElse opening condition yes middle no closing =>
    rw [Element.pieces, ← List.cons_append, ← List.cons_append, ← List.append_assoc]
    exact stripsAfter_append_singleton first
      (.marker opening :: piecesOf yes ++ .marker middle :: piecesOf no) (.marker closing)
  | repetition opening key value collection body closing =>
    rw [Element.pieces, ← List.cons_append]
    exact stripsAfter_append_singleton first (.marker opening :: piecesOf body) (.marker closing)

theorem stripsEnd_eq (last : Bool) (rest : List Element) :
    stripsEnd last rest = stripsBefore (piecesOf rest) last := by
  cases rest with
  | nil => rw [stripsEnd, piecesOf, stripsBefore]
  | cons next others =>
    rw [stripsEnd, piecesOf, stripsBefore_pieces]

theorem facing_cons (first : Bool) (element : Element) (rest : List Element) (last : Bool) :
    facing first (piecesOf (element :: rest)) last
      = facing first element.pieces (stripsEnd last rest)
        ++ facing element.strips.after (piecesOf rest) last := by
  rw [piecesOf, facing_append, stripsAfter_pieces, stripsEnd_eq]

end Facing

/-! ### How many texts there are -/

mutual

/-- A part of the matching kind has as many texts as the element. -/
theorem Element.Matches.length_texts {file : String} (element : Element) {part : Part}
    (h : element.Matches file part) (first last : Bool) :
    (textsOfPart part).length = (facing first element.pieces last).length := by
  cases element with
  | literal text =>
    obtain ⟨text', rfl⟩ := h
    rfl
  | interpolation strip e =>
    obtain ⟨x, -, rfl⟩ := h
    rfl
  | ifThen opening condition yes closing =>
    obtain ⟨x, ys, -, hyes, rfl⟩ := h
    have hlength := length_textsOf yes hyes opening.after closing.before
    simp [textsOfPart, textsOfBranches, textsOf, Element.pieces, facing, facing_append_marker, hlength]
  | ifElse opening condition yes middle no closing =>
    obtain ⟨x, ys, ns, -, hyes, hno, rfl⟩ := h
    have hlength := length_textsOf yes hyes opening.after middle.before
    have hlength' := length_textsOf no hno middle.after closing.before
    simp [textsOfPart, textsOfBranches, Element.pieces, facing, facing_append_marker, hlength, hlength']
  | repetition opening key value collection body closing =>
    obtain ⟨x, bs, -, hbody, rfl⟩ := h
    have hlength := length_textsOf body hbody opening.after closing.before
    simp [textsOfPart, textsOfBranches, Element.pieces, facing, facing_append_marker, hlength]
termination_by structural element

theorem length_textsOf {file : String} (elements : List Element) {parts : List Part}
    (h : MatchAll file elements parts) (first last : Bool) :
    (textsOf parts).length = (facing first (piecesOf elements) last).length := by
  cases elements with
  | nil =>
    obtain rfl := h
    rfl
  | cons element rest =>
    obtain ⟨part, others, rfl, hpart, hothers⟩ := h
    have hlength := Element.Matches.length_texts element hpart first (stripsEnd last rest)
    have hlength' := length_textsOf rest hothers element.strips.after last
    rw [textsOf, List.length_append, facing_cons, List.length_append, hlength, hlength']
termination_by structural elements

end

/-! ### Lowering -/

/-- The text with the white space taken away that its neighbours strip. -/
def settled (text : Bool × String × Bool) : String := stripped text.1 text.2.2 text.2.1

mutual

/-- What an element other than text lowers to. -/
theorem Element.lower_eq_ok_iff (file : String) (element : Element) (part : Part)
    (hmarker : ∀ text, element ≠ .literal text) (first last : Bool) :
    element.lower file = .ok part ↔
      element.Matches file part ∧ textsOfPart part = (facing first element.pieces last).map settled := by
  cases element with
  | literal text => exact absurd rfl (hmarker text)
  | interpolation strip e =>
    rw [Element.lower, map_eq_ok, Element.Matches, Element.pieces]
    constructor
    · rintro ⟨x, hx, rfl⟩
      exact ⟨⟨x, hx, rfl⟩, rfl⟩
    · rintro ⟨⟨x, hx, rfl⟩, -⟩
      exact ⟨x, hx, rfl⟩
  | ifThen opening condition yes closing =>
    have htexts : facing first (Element.ifThen opening condition yes closing).pieces last
        = facing opening.after (piecesOf yes) closing.before := by
      rw [Element.pieces, facing, facing_append_marker, facing, List.append_nil]
    have hyes := lowerElements_eq_ok_iff file opening.after closing.before yes
    rw [htexts, Element.lower, Element.Matches, bind_eq_ok]
    simp only [bind_eq_ok, hyes, pure_eq_ok, Except.ok.injEq]
    constructor
    · rintro ⟨x, hx, ys, ⟨hmatch, htext⟩, rfl⟩
      exact ⟨⟨x, ys, hx, hmatch, rfl⟩, by simp [textsOfPart, textsOfBranches, textsOf, htext]⟩
    · rintro ⟨⟨x, ys, hx, hmatch, rfl⟩, htext⟩
      exact ⟨x, hx, ys, ⟨hmatch, by simpa [textsOfPart, textsOfBranches, textsOf] using htext⟩, rfl⟩
  | ifElse opening condition yes middle no closing =>
    have htexts : facing first (Element.ifElse opening condition yes middle no closing).pieces last
        = facing opening.after (piecesOf yes) middle.before
          ++ facing middle.after (piecesOf no) closing.before := by
      rw [Element.pieces, facing, facing_append_marker, facing_append_marker, facing,
        List.append_nil]
    have hyes := lowerElements_eq_ok_iff file opening.after middle.before yes
    have hno := lowerElements_eq_ok_iff file middle.after closing.before no
    rw [htexts, Element.lower, Element.Matches, bind_eq_ok]
    simp only [bind_eq_ok, hyes, hno, pure_eq_ok, Except.ok.injEq, List.map_append]
    constructor
    · rintro ⟨x, hx, ys, ⟨hmatch, htext⟩, ns, ⟨hmatch', htext'⟩, rfl⟩
      exact ⟨⟨x, ys, ns, hx, hmatch, hmatch', rfl⟩, by simp [textsOfPart, textsOfBranches, htext, htext']⟩
    · rintro ⟨⟨x, ys, ns, hx, hmatch, hmatch', rfl⟩, htext⟩
      -- the texts of the first branch end where those of the second begin
      have hlength := length_textsOf yes hmatch opening.after middle.before
      rw [textsOfPart, textsOfBranches, textsOfBranches, textsOfBranches] at htext
      obtain ⟨htext, htext'⟩ := List.append_inj htext (by rw [List.length_map, hlength])
      exact ⟨x, hx, ys, ⟨hmatch, htext⟩, ns, ⟨hmatch', htext'⟩, rfl⟩
  | repetition opening key value collection body closing =>
    have htexts : facing first (Element.repetition opening key value collection body closing).pieces
        last = facing opening.after (piecesOf body) closing.before := by
      rw [Element.pieces, facing, facing_append_marker, facing, List.append_nil]
    have hbody := lowerElements_eq_ok_iff file opening.after closing.before body
    rw [htexts, Element.lower, Element.Matches, bind_eq_ok]
    simp only [bind_eq_ok, hbody, pure_eq_ok, Except.ok.injEq]
    constructor
    · rintro ⟨x, hx, bs, ⟨hmatch, htext⟩, rfl⟩
      exact ⟨⟨x, bs, hx, hmatch, rfl⟩, by simp [textsOfPart, textsOfBranches, htext]⟩
    · rintro ⟨⟨x, bs, hx, hmatch, rfl⟩, htext⟩
      exact ⟨x, hx, bs, ⟨hmatch, by simpa [textsOfPart, textsOfBranches] using htext⟩, rfl⟩
termination_by structural element

/-- **Lowered texts**: a template lowers to parts of the matching kinds, whose texts are those of the
template without the white space that their neighbours strip. -/
theorem lowerElements_eq_ok_iff (file : String) (first last : Bool) (elements : List Element)
    (parts : List Part) :
    lowerElements file first last elements = .ok parts ↔
      MatchAll file elements parts ∧
        textsOf parts = (facing first (piecesOf elements) last).map settled := by
  cases elements with
  | nil =>
    rw [lowerElements, MatchAll, Except.ok.injEq]
    constructor
    · rintro rfl
      exact ⟨rfl, rfl⟩
    · rintro ⟨rfl, -⟩
      rfl
  | cons element rest =>
    rw [MatchAll, facing_cons, List.map_append]
    have hrest := fun others => lowerElements_eq_ok_iff file element.strips.after last rest others
    by_cases hmarker : ∀ text, element ≠ .literal text
    · have helement := fun part =>
        Element.lower_eq_ok_iff file element part hmarker first (stripsEnd last rest)
      have hlower : lowerElements file first last (element :: rest) = (do
          let part ← Element.lower file element
          let others ← lowerElements file element.strips.after last rest
          return part :: others) := by
        cases element with
        | literal text => exact absurd rfl (hmarker text)
        | interpolation | ifThen | ifElse | repetition =>
          rw [lowerElements]
          exact fun text h => nomatch h
      rw [hlower]
      simp only [bind_eq_ok, pure_eq_ok, Except.ok.injEq, helement, hrest]
      constructor
      · rintro ⟨part, ⟨hpart, htext⟩, others, ⟨hothers, htexts⟩, rfl⟩
        exact ⟨⟨part, others, rfl, hpart, hothers⟩, by rw [textsOf, htext, htexts]⟩
      · rintro ⟨⟨part, others, rfl, hpart, hothers⟩, htexts⟩
        -- the texts of the part end where those of the others begin
        have hlength := Element.Matches.length_texts element hpart first (stripsEnd last rest)
        rw [textsOf] at htexts
        obtain ⟨htext, htexts⟩ := List.append_inj htexts (by rw [List.length_map, hlength])
        exact ⟨part, ⟨hpart, htext⟩, others, ⟨hothers, htexts⟩, rfl⟩
    · obtain ⟨text, rfl⟩ : ∃ text, element = .literal text := by
        by_contra hnone
        exact hmarker fun text htext => hnone ⟨text, htext⟩
      have hrest := fun others => lowerElements_eq_ok_iff file false last rest others
      rw [lowerElements]
      simp only [bind_eq_ok, pure_eq_ok, Except.ok.injEq, hrest]
      constructor
      · rintro ⟨others, ⟨hothers, htexts⟩, rfl⟩
        refine ⟨⟨_, others, rfl, ⟨_, rfl⟩, hothers⟩, ?_⟩
        rw [textsOf, htexts]
        rfl
      · rintro ⟨⟨part, others, rfl, ⟨text', rfl⟩, hothers⟩, htexts⟩
        rw [textsOf, textsOfPart] at htexts
        obtain ⟨htext, hrest⟩ := List.append_inj htexts rfl
        have heq : text' = stripped first (stripsEnd last rest) text := List.head_eq_of_cons_eq htext
        exact ⟨others, ⟨hothers, hrest⟩, by rw [heq]⟩
termination_by structural elements

end

/-! ### White space that makes no difference -/

mutual

/-- The elements are of one kind, with the same marks, and all expressions in them lower alike; their
texts may differ. -/
def Element.Alike (file : String) (element other : Element) : Prop :=
  match element with
  | .literal _ => ∃ text, other = .literal text
  | .interpolation strip e => ∃ e', other = .interpolation strip e' ∧ e.lower file = e'.lower file
  | .ifThen opening condition yes closing => ∃ condition' yes',
    other = .ifThen opening condition' yes' closing ∧
      condition.lower file = condition'.lower file ∧ AlikeAll file yes yes'
  | .ifElse opening condition yes middle no closing => ∃ condition' yes' no',
    other = .ifElse opening condition' yes' middle no' closing ∧
      condition.lower file = condition'.lower file ∧ AlikeAll file yes yes' ∧ AlikeAll file no no'
  | .repetition opening key value collection body closing => ∃ collection' body',
    other = .repetition opening key value collection' body' closing ∧
      collection.lower file = collection'.lower file ∧ AlikeAll file body body'
termination_by structural element

/-- The elements of two templates are alike, each with its counterpart. -/
def AlikeAll (file : String) (elements others : List Element) : Prop :=
  match elements with
  | [] => others = []
  | element :: rest => ∃ other rest', others = other :: rest' ∧ Element.Alike file element other ∧
    AlikeAll file rest rest'
termination_by structural elements

end

/-- Two texts with the same neighbours differ only in the white space that these strip. -/
def SameOnceStripped (a b : Bool × String × Bool) : Prop :=
  a.1 = b.1 ∧ a.2.2 = b.2.2 ∧ ∃ core, Pads a.1 a.2.2 core a.2.1 ∧ Pads a.1 a.2.2 core b.2.1

/-- Two templates between the same markers differ only in white space that a marker strips. -/
def Respaced (file : String) (first last : Bool) (elements others : List Element) : Prop :=
  AlikeAll file elements others ∧
    List.Forall₂ SameOnceStripped (facing first (piecesOf elements) last)
      (facing first (piecesOf others) last)

mutual

theorem Element.Alike.matches_iff {file : String} (element : Element) {other : Element}
    (h : element.Alike file other) (part : Part) :
    element.Matches file part ↔ other.Matches file part := by
  cases element with
  | literal text =>
    obtain ⟨text', rfl⟩ := h
    exact Iff.rfl
  | interpolation strip e =>
    obtain ⟨e', rfl, he⟩ := h
    rw [Element.Matches, Element.Matches, he]
  | ifThen opening condition yes closing =>
    obtain ⟨condition', yes', rfl, hcondition, hyes⟩ := h
    simp only [Element.Matches, hcondition, AlikeAll.matchAll_iff yes hyes]
  | ifElse opening condition yes middle no closing =>
    obtain ⟨condition', yes', no', rfl, hcondition, hyes, hno⟩ := h
    simp only [Element.Matches, hcondition, AlikeAll.matchAll_iff yes hyes,
      AlikeAll.matchAll_iff no hno]
  | repetition opening key value collection body closing =>
    obtain ⟨collection', body', rfl, hcollection, hbody⟩ := h
    simp only [Element.Matches, hcollection, AlikeAll.matchAll_iff body hbody]
termination_by structural element

theorem AlikeAll.matchAll_iff {file : String} (elements : List Element) {others : List Element}
    (h : AlikeAll file elements others) (parts : List Part) :
    MatchAll file elements parts ↔ MatchAll file others parts := by
  cases elements with
  | nil =>
    obtain rfl := h
    exact Iff.rfl
  | cons element rest =>
    obtain ⟨other, rest', rfl, helement, hrest⟩ := h
    simp only [MatchAll, Element.Alike.matches_iff element helement,
      AlikeAll.matchAll_iff rest hrest]
termination_by structural elements

end

theorem map_settled_eq {texts others : List (Bool × String × Bool)}
    (h : List.Forall₂ SameOnceStripped texts others) : texts.map settled = others.map settled := by
  induction h with
  | nil => rfl
  | cons hab _ ih =>
    obtain ⟨hbefore, hafter, core, ha, hb⟩ := hab
    rw [List.map_cons, List.map_cons, ih, settled, settled, stripped_of_pads ha, ← hbefore, ← hafter,
      stripped_of_pads hb]

/-- White space that a marker strips makes no difference. -/
theorem lowerElements_respaced {file : String} {first last : Bool} {elements others : List Element}
    (h : Respaced file first last elements others) :
    lowerElements file first last others = lowerElements file first last elements := by
  obtain ⟨halike, htexts⟩ := h
  have hok : ∀ parts, lowerElements file first last elements = .ok parts ↔
      lowerElements file first last others = .ok parts := by
    intro parts
    rw [lowerElements_eq_ok_iff, lowerElements_eq_ok_iff, AlikeAll.matchAll_iff elements halike,
      map_settled_eq htexts]
  cases hothers : lowerElements file first last others with
  | ok parts => exact ((hok parts).mpr hothers).symm
  | error e =>
    cases helements : lowerElements file first last elements with
    | ok parts => exact absurd ((hok parts).mp helements) (by rw [hothers]; exact fun h => nomatch h)
    | error e' =>
      -- there is one error only
      rw [fails_of_decided (lowerElements_decided file first last others) e hothers,
        fails_of_decided (lowerElements_decided file first last elements) e' helements]

/-- **Strip marks.**  A template lowers iff nothing in it that has to be placed is without a span.  It
then has one part for each element, in order and of the matching kind, and each of its texts is what
was written less the white space that the two pieces next to it strip.  Templates that differ only in
such white space lower to the same parts, and so they convert to the same value. -/
theorem strips_exact (file : String) (first last : Bool) (elements : List Element) :
    ((∃ parts, lowerElements file first last elements = .ok parts) ↔
      none ∉ placesOfElements elements) ∧
    (∀ parts, lowerElements file first last elements = .ok parts ↔
      List.Forall₂ (Element.Matches file) elements parts ∧
        List.Forall₂ (fun text result => IsStripped text.1 text.2.2 text.2.1 result)
          (facing first (piecesOf elements) last) (textsOf parts)) ∧
    ∀ others, Respaced file first last elements others →
      lowerElements file first last others = lowerElements file first last elements ∧
      ∀ (c : Conversion) depth span,
        (ofParts span <$> lowerElements file first last others >>= c.expression depth)
          = (ofParts span <$> lowerElements file first last elements >>= c.expression depth) := by
  refine ⟨?_, fun parts => ?_, fun others h => ?_⟩
  · exact exists_ok_iff_of_decided (lowerElements_decided file first last elements)
  · rw [lowerElements_eq_ok_iff, matchAll_iff, eq_comm (a := textsOf parts), ← List.forall₂_eq_eq_eq,
      List.forall₂_map_left_iff]
    simp only [isStripped_iff, settled, eq_comm]
  · have hsame := lowerElements_respaced h
    exact ⟨hsame, fun c depth span => by rw [hsame]⟩

/-- A conditional whose `if` strips on both sides and whose `endif` strips on none, written with more
and with other white space. -/
theorem strips_exact_conditional :
    let condition : Expr := .mk (some ⟨6, 7⟩) (.variable "c")
    let written (before start : String) : List Element :=
      [.literal ("a" ++ before), .ifThen ⟨true, true⟩ condition [.literal (start ++ "b ")]
        ⟨false, false⟩, .literal " d"]
    Respaced "m.tf" false false (written "" "") (written "  " "\t ") ∧
    (∃ parts, lowerElements "m.tf" false false (written "" "") = .ok parts ∧
      textsOf parts = ["a", "b ", " d"]) ∧
    lowerElements "m.tf" false false (written "  " "\t ")
      = lowerElements "m.tf" false false (written "" "") := by
  intro condition written
  obtain ⟨hlowers, -, hrespaced⟩ := strips_exact "m.tf" false false (written "" "")
  have hpads : ∀ (text : String) (start stop : Bool), Pads start stop text text :=
    fun text start stop => ⟨[], [], by simp⟩
  have hsame : Respaced "m.tf" false false (written "" "") (written "  " "\t ") := by
    constructor
    · exact ⟨_, _, rfl, ⟨_, rfl⟩, _, _, rfl, ⟨_, _, rfl, rfl, _, _, rfl, ⟨_, rfl⟩, rfl⟩, _, _, rfl,
        ⟨_, rfl⟩, rfl⟩
    · have hafter : Pads false true "a" "a  " :=
        ⟨[], [' ', ' '], by decide, List.forall_mem_nil _, List.all_eq_true.mp (by decide),
          fun _ => rfl, fun h => nomatch h⟩
      have hbefore : Pads true false "b " "\t b " :=
        ⟨['\t', ' '], [], by decide, List.all_eq_true.mp (by decide), List.forall_mem_nil _,
          fun h => (nomatch h), fun _ => rfl⟩
      refine .cons ⟨rfl, rfl, "a", hpads _ _ _, hafter⟩ ?_
      refine .cons ⟨rfl, rfl, "b ", hpads _ _ _, hbefore⟩ ?_
      exact .cons ⟨rfl, rfl, " d", hpads _ _ _, hpads _ _ _⟩ .nil
  obtain ⟨parts, hlower⟩ := hlowers.mpr (by decide)
  refine ⟨hsame, ⟨parts, hlower, ?_⟩, (hrespaced _ hsame).1⟩
  obtain ⟨-, htexts⟩ := (lowerElements_eq_ok_iff ..).mp hlower
  rw [htexts]
  decide

end Groundplan.Hcl
