import Groundplan.Proofs.Skeleton
import Groundplan.Proofs.SkeletonToken
import Groundplan.Text.Identifier

/-!
# Reading a skeleton back from its text

A skeleton is written as a sequence of tokens (`tokens`, `spelled_tokens`), in which every directive
is closed, inside the one that it stands in (`Nested`, `nested_tokens`).  The tokens determine the
skeleton (`eq_of_tokens`): a skeleton ends where a closing directive has no opening one.  A legible
skeleton has readable tokens (`readable_tokens`), so that its text determines it
(`Conversion.rendered_determines_skeleton`).
-/

namespace Groundplan

namespace Skeleton

/-! ### Tokens of a skeleton -/

/-- The header that opens a conditional. -/
def ifHeader (condition : String) : String := "if " ++ condition

/-- The variables of a repetition. -/
def names (key : Option String) (value : String) : String :=
  match key with
  | some key => key ++ ", " ++ value
  | none => value

/-- The header that opens a repetition. -/
def forHeader (key : Option String) (value collection : String) : String :=
  "for " ++ names key value ++ " in " ++ collection

/-- A second branch with its directive; an empty one is left out. -/
def elseTokens (no : Skeleton) (inner : List Token) : List Token :=
  if no = nil then [] else .directive "else" :: inner

/-- The tokens of a skeleton. -/
def tokens : Skeleton → List Token
  | nil => []
  | text run rest => .text run :: rest.tokens
  | marker source rest => .marker source :: rest.tokens
  | choice condition yes no rest =>
    .directive (ifHeader condition) ::
      (yes.tokens ++ (elseTokens no no.tokens ++ .directive "endif" :: rest.tokens))
  | loop key value collection body rest =>
    .directive (forHeader key value collection) ::
      (body.tokens ++ .directive "endfor" :: rest.tokens)

/-- Directives are closed by their own closing directive, one inside the other, and an `else` has
something behind it. -/
inductive Nested : List Token → Prop
  | nil : Nested []
  | text {run : String} {rest : List Token} : Nested rest → Nested (.text run :: rest)
  | marker {source : String} {rest : List Token} : Nested rest → Nested (.marker source :: rest)
  | choice {condition : String} {yes rest : List Token} : Nested yes → Nested rest →
      Nested (.directive (ifHeader condition) :: (yes ++ .directive "endif" :: rest))
  | choiceElse {condition : String} {yes no rest : List Token} : Nested yes → Nested no → no ≠ [] →
      Nested rest →
      Nested (.directive (ifHeader condition) ::
        (yes ++ .directive "else" :: (no ++ .directive "endif" :: rest)))
  | loop {key : Option String} {value collection : String} {body rest : List Token} :
      Nested body → Nested rest →
      Nested (.directive (forHeader key value collection) ::
        (body ++ .directive "endfor" :: rest))

variable {k l : Skeleton}

theorem tokens_ne_nil (h : k ≠ nil) : k.tokens ≠ [] := by
  cases k with
  | nil => exact absurd rfl h
  | text | marker | choice | loop => exact List.cons_ne_nil _ _

theorem nested_tokens (k : Skeleton) : Nested k.tokens := by
  induction k with
  | nil => exact .nil
  | text run rest ih => exact .text ih
  | marker source rest ih => exact .marker ih
  | choice condition yes no rest ihyes ihno ihrest =>
    rw [tokens, elseTokens]
    by_cases hno : no = nil
    · rw [if_pos hno]
      exact .choice ihyes ihrest
    · rw [if_neg hno]
      exact .choiceElse ihyes ihno (tokens_ne_nil hno) ihrest
  | loop key value collection body rest ihbody ihrest => exact .loop ihbody ihrest

/-! ### The text of the tokens -/

theorem render_eq_empty_iff (h : k.Normal) : k.render = "" ↔ k = nil := by
  cases k with
  | nil => simp [render]
  | text run rest => simp [render, h.1]
  | marker source rest => simp [render]
  | choice condition yes no rest => simp [render, Conversion.ifText]
  | loop key value collection body rest => simp [render, Conversion.forText]

/-- A skeleton is spelled as it is rendered. -/
theorem spelled_tokens (h : k.Normal) : spelled k.tokens = k.render.toList := by
  induction k with
  | nil => rfl
  | text run rest ih => simp [tokens, render, Token.chars, ih h.2.2]
  | marker source rest ih => simp [tokens, render, Token.chars, ih h]
  | choice condition yes no rest ihyes ihno ihrest =>
    obtain ⟨hyes, hno, hrest⟩ := h
    simp only [tokens, render, Conversion.ifText, render_eq_empty_iff hno]
    by_cases hnil : no = nil
    · simp [elseTokens, hnil, Token.chars, ifHeader, ihyes hyes, ihrest hrest]
    · simp [elseTokens, hnil, Token.chars, ifHeader, ihyes hyes, ihno hno, ihrest hrest]
  | loop key value collection body rest ihbody ihrest =>
    simp only [tokens, render, Conversion.forText]
    cases key <;>
      simp [Token.chars, forHeader, names, ihbody h.1, ihrest h.2]

/-! ### Legible skeletons -/

/-- A name that the language takes for a variable. -/
def IsIdentifier (name : String) : Prop :=
  ∃ first rest, name.toList = first :: rest ∧ Text.isIdentifierStart first = true ∧
    ∀ c ∈ rest, Text.isIdentifierPart c = true

/-- No run of text has an opening in it, nothing that is quoted has a closing brace, and variables
are identifiers. -/
def Legible : Skeleton → Prop
  | nil => True
  | text run rest => Plain run.toList ∧ rest.Legible
  | marker source rest => '}' ∉ source.toList ∧ rest.Legible
  | choice condition yes no rest =>
    '}' ∉ condition.toList ∧ yes.Legible ∧ no.Legible ∧ rest.Legible
  | loop key value collection body rest =>
    (∀ name ∈ key, IsIdentifier name) ∧ IsIdentifier value ∧ '}' ∉ collection.toList ∧
      body.Legible ∧ rest.Legible

theorem IsIdentifier.notMem {name : String} {c : Char} (h : IsIdentifier name)
    (hstart : Text.isIdentifierStart c = false) (hpart : Text.isIdentifierPart c = false) :
    c ∉ name.toList := by
  obtain ⟨first, rest, hname, hfirst, hrest⟩ := h
  rw [hname]
  intro hc
  rcases List.mem_cons.mp hc with rfl | hc
  · exact absurd (hfirst.symm.trans hstart) (by decide)
  · exact absurd ((hrest c hc).symm.trans hpart) (by decide)

variable {key key' : Option String} {value value' collection collection' : String}

theorem closed_ifHeader {condition : String} (h : '}' ∉ condition.toList) :
    (Token.directive (ifHeader condition)).Closed := by
  simpa [Token.Closed, ifHeader] using h

theorem closed_forHeader (hkey : ∀ name ∈ key, IsIdentifier name) (hvalue : IsIdentifier value)
    (h : '}' ∉ collection.toList) :
    (Token.directive (forHeader key value collection)).Closed := by
  have hvalue : '}' ∉ value.toList := hvalue.notMem (by decide) (by decide)
  cases key with
  | none => simp [Token.Closed, forHeader, names, hvalue, h]
  | some name =>
    have hname : '}' ∉ name.toList := (hkey name rfl).notMem (by decide) (by decide)
    simp [Token.Closed, forHeader, names, hname, hvalue, h]

/-- A variable ends at the first character that an identifier cannot hold. -/
theorem IsIdentifier.eq_of_append {name name' : String} {x y : Char} {rest rest' : List Char}
    (hname : IsIdentifier name) (hname' : IsIdentifier name') (hx : x = ' ' ∨ x = ',')
    (hy : y = ' ' ∨ y = ',') (h : name.toList ++ x :: rest = name'.toList ++ y :: rest') :
    name = name' ∧ x = y ∧ rest = rest' := by
  have notMem {name : String} {c : Char} (hname : IsIdentifier name) (hc : c = ' ' ∨ c = ',') :
      c ∉ name.toList := by
    rcases hc with rfl | rfl <;> exact hname.notMem (by decide) (by decide)
  obtain ⟨heq, hdelimiter, hrest⟩ := eq_of_delimited (notMem hname hy) (notMem hname' hx) h
  exact ⟨String.toList_inj.mp heq, hdelimiter, hrest⟩

theorem toList_forHeader_none (value collection : String) :
    (forHeader none value collection).toList
      = "for ".toList ++ (value.toList ++ ' ' :: ("in ".toList ++ collection.toList)) := by
  simp [forHeader, names]

theorem toList_forHeader_some (name value collection : String) :
    (forHeader (some name) value collection).toList
      = "for ".toList ++ (name.toList ++ ',' :: ' ' ::
          (value.toList ++ ' ' :: ("in ".toList ++ collection.toList))) := by
  simp [forHeader, names]

/-- The header of a repetition determines its variables and its collection. -/
theorem forHeader_inj (hkey : ∀ name ∈ key, IsIdentifier name) (hvalue : IsIdentifier value)
    (hkey' : ∀ name ∈ key', IsIdentifier name) (hvalue' : IsIdentifier value')
    (h : forHeader key value collection = forHeader key' value' collection') :
    key = key' ∧ value = value' ∧ collection = collection' := by
  have source {rest rest' : String}
      (h : "in ".toList ++ rest.toList = "in ".toList ++ rest'.toList) : rest = rest' :=
    String.toList_inj.mp (List.append_cancel_left h)
  replace h := congrArg String.toList h
  cases key with
  | none =>
    rw [toList_forHeader_none] at h
    cases key' with
    | none =>
      rw [toList_forHeader_none] at h
      obtain ⟨rfl, -, hrest⟩ :=
        hvalue.eq_of_append hvalue' (.inl rfl) (.inl rfl) (List.append_cancel_left h)
      exact ⟨rfl, rfl, source hrest⟩
    | some name' =>
      rw [toList_forHeader_some] at h
      obtain ⟨-, hdelimiter, -⟩ :=
        hvalue.eq_of_append (hkey' name' rfl) (.inl rfl) (.inr rfl) (List.append_cancel_left h)
      exact absurd hdelimiter (by decide)
  | some name =>
    rw [toList_forHeader_some] at h
    cases key' with
    | none =>
      rw [toList_forHeader_none] at h
      obtain ⟨-, hdelimiter, -⟩ :=
        (hkey name rfl).eq_of_append hvalue' (.inr rfl) (.inl rfl) (List.append_cancel_left h)
      exact absurd hdelimiter (by decide)
    | some name' =>
      rw [toList_forHeader_some] at h
      obtain ⟨rfl, -, hrest⟩ := (hkey name rfl).eq_of_append (hkey' name' rfl) (.inr rfl) (.inr rfl)
        (List.append_cancel_left h)
      obtain ⟨rfl, -, hrest⟩ :=
        hvalue.eq_of_append hvalue' (.inl rfl) (.inl rfl) (List.cons.inj hrest).2
      exact ⟨rfl, rfl, source hrest⟩

/-- A legible skeleton has readable tokens. -/
theorem readable_tokens (hnormal : k.Normal) (h : k.Legible) : Readable k.tokens := by
  induction k with
  | nil => exact .nil
  | text run rest ih =>
    obtain ⟨hrun, hnext, hrest⟩ := hnormal
    refine .cons ⟨hrun, h.1⟩ (ih hrest h.2) ?_
    cases rest with
    | text => cases hnext
    | nil | marker | choice | loop => simp [tokens, Token.isText]
  | marker source rest ih => exact .cons h.1 (ih hnormal h.2) (by simp [Token.isText])
  | choice condition yes no rest ihyes ihno ihrest =>
    obtain ⟨hcondition, hyes, hno, hrest⟩ := h
    have hend : Readable (.directive "endif" :: rest.tokens) :=
      .cons (show '}' ∉ _ by decide) (ihrest hnormal.2.2 hrest) (by simp [Token.isText])
    refine .cons (closed_ifHeader hcondition) ?_ (by simp [Token.isText])
    rw [elseTokens]
    by_cases hnil : no = nil
    · rw [if_pos hnil]
      exact (ihyes hnormal.1 hyes).append rfl hend
    · rw [if_neg hnil]
      refine (ihyes hnormal.1 hyes).append rfl
        (.cons (show '}' ∉ _ by decide) ?_ (by simp [Token.isText]))
      exact (ihno hnormal.2.1 hno).append rfl hend
  | loop key value collection body rest ihbody ihrest =>
    obtain ⟨hkey, hvalue, hcollection, hbody, hrest⟩ := h
    have hend : Readable (.directive "endfor" :: rest.tokens) :=
      .cons (show '}' ∉ _ by decide) (ihrest hnormal.2 hrest) (by simp [Token.isText])
    refine .cons (closed_forHeader hkey hvalue hcollection) ?_ (by simp [Token.isText])
    exact (ihbody hnormal.1 hbody).append rfl hend

/-! ### Tokens determine the skeleton -/

/-- What can follow a skeleton inside a directive: nothing, or a directive that goes on with one
that is open. -/
def Closes (ts : List Token) : Prop :=
  ts = [] ∨ ∃ header rest, header ∈ ["else", "endif", "endfor"] ∧ ts = .directive header :: rest

theorem ifHeader_notMem_closing (condition : String) :
    ifHeader condition ∉ ["else", "endif", "endfor"] := by
  simp only [List.mem_cons, List.not_mem_nil, or_false]
  rintro (h | h | h) <;> simpa [ifHeader] using congrArg String.toList h

theorem forHeader_notMem_closing (key : Option String) (value collection : String) :
    forHeader key value collection ∉ ["else", "endif", "endfor"] := by
  simp only [List.mem_cons, List.not_mem_nil, or_false]
  rintro (h | h | h) <;> simpa [forHeader] using congrArg String.toList h

theorem ifHeader_ne_forHeader (condition : String) (key : Option String)
    (value collection : String) : ifHeader condition ≠ forHeader key value collection := by
  intro h
  simpa [ifHeader, forHeader] using congrArg String.toList h

variable {rest rest' : List Token}

/-- A skeleton that is not empty begins with something that closes nothing. -/
theorem not_closes_tokens_append (hk : k ≠ nil) : ¬ Closes (k.tokens ++ rest) := by
  rintro (hnil | ⟨header, more, hheader, heq⟩)
  · exact tokens_ne_nil hk (List.append_eq_nil_iff.mp hnil).1
  cases k with
  | nil => exact absurd rfl hk
  | text | marker => cases heq
  | choice condition yes no next =>
    obtain rfl := Token.directive.inj (List.cons.inj heq).1
    exact ifHeader_notMem_closing condition hheader
  | loop key value collection body next =>
    obtain rfl := Token.directive.inj (List.cons.inj heq).1
    exact forHeader_notMem_closing key value collection hheader

theorem ne_nil_of_tokens_append_eq (hk : k ≠ nil) (hrest' : Closes rest')
    (h : k.tokens ++ rest = l.tokens ++ rest') : l ≠ nil := by
  rintro rfl
  change k.tokens ++ rest = rest' at h
  exact not_closes_tokens_append hk (h ▸ hrest')

theorem closes_directive {header : String} (h : header ∈ ["else", "endif", "endfor"])
    (rest : List Token) : Closes (.directive header :: rest) := .inr ⟨header, rest, h, rfl⟩

theorem closes_elseTokens (no : Skeleton) (inner rest : List Token) :
    Closes (elseTokens no inner ++ .directive "endif" :: rest) := by
  rw [elseTokens]
  split
  case isTrue => exact closes_directive (by simp) rest
  case isFalse => exact closes_directive (by simp) _

/-- The end of a conditional shows whether there is a second branch. -/
theorem elseTokens_append_inj {no no' : Skeleton}
    (hno : ∀ {rest rest' : List Token}, Closes rest → Closes rest' →
      no.tokens ++ rest = no'.tokens ++ rest' → no = no' ∧ rest = rest')
    (h : elseTokens no no.tokens ++ .directive "endif" :: rest
      = elseTokens no' no'.tokens ++ .directive "endif" :: rest') : no = no' ∧ rest = rest' := by
  simp only [elseTokens] at h
  by_cases hnil : no = nil <;> by_cases hnil' : no' = nil
  · rw [if_pos hnil, if_pos hnil'] at h
    exact ⟨hnil.trans hnil'.symm, (List.cons.inj h).2⟩
  · rw [if_pos hnil, if_neg hnil'] at h
    simp at h
  · rw [if_neg hnil, if_pos hnil'] at h
    simp at h
  · rw [if_neg hnil, if_neg hnil'] at h
    obtain ⟨heq, hend⟩ := hno (closes_directive (by simp) rest) (closes_directive (by simp) rest')
      (List.cons.inj h).2
    exact ⟨heq, (List.cons.inj hend).2⟩

/-- A skeleton ends where a directive goes on that it has not opened; so its tokens determine it,
and where it ends. -/
theorem tokens_append_inj (hk : k.Legible) (hl : l.Legible) (hrest : Closes rest)
    (hrest' : Closes rest') (h : k.tokens ++ rest = l.tokens ++ rest') : k = l ∧ rest = rest' := by
  induction k generalizing l rest rest' with
  | nil =>
    by_cases hnil : l = nil
    · subst hnil
      exact ⟨rfl, h⟩
    · exact absurd rfl (ne_nil_of_tokens_append_eq hnil hrest h.symm)
  | text run next ih =>
    cases l with
    | nil => exact absurd rfl (ne_nil_of_tokens_append_eq (by simp) hrest' h)
    | text run' next' =>
      obtain ⟨hhead, htail⟩ := List.cons.inj h
      obtain rfl := Token.text.inj hhead
      obtain ⟨rfl, heq⟩ := ih hk.2 hl.2 hrest hrest' htail
      exact ⟨rfl, heq⟩
    | marker | choice | loop => cases h
  | marker source next ih =>
    cases l with
    | nil => exact absurd rfl (ne_nil_of_tokens_append_eq (by simp) hrest' h)
    | marker source' next' =>
      obtain ⟨hhead, htail⟩ := List.cons.inj h
      obtain rfl := Token.marker.inj hhead
      obtain ⟨rfl, heq⟩ := ih hk.2 hl.2 hrest hrest' htail
      exact ⟨rfl, heq⟩
    | text | choice | loop => cases h
  | choice condition yes no next ihyes ihno ihnext =>
    cases l with
    | nil => exact absurd rfl (ne_nil_of_tokens_append_eq (by simp) hrest' h)
    | text | marker => cases h
    | loop key value collection =>
      exact absurd (Token.directive.inj (List.cons.inj h).1)
        (ifHeader_ne_forHeader condition key value collection)
    | choice condition' yes' no' next' =>
      obtain ⟨-, hyes, hno, hnext⟩ := hk
      obtain ⟨-, hyes', hno', hnext'⟩ := hl
      simp only [tokens, List.cons_append, List.append_assoc, List.cons.injEq,
        Token.directive.injEq] at h
      obtain ⟨hhead, htail⟩ := h
      obtain rfl : condition = condition' := by simpa [ifHeader] using hhead
      obtain ⟨rfl, hbranch⟩ := ihyes hyes hyes' (closes_elseTokens no no.tokens _)
        (closes_elseTokens no' no'.tokens _) htail
      obtain ⟨rfl, hend⟩ := elseTokens_append_inj (ihno hno hno') hbranch
      obtain ⟨rfl, heq⟩ := ihnext hnext hnext' hrest hrest' hend
      exact ⟨rfl, heq⟩
  | loop key value collection body next ihbody ihnext =>
    cases l with
    | nil => exact absurd rfl (ne_nil_of_tokens_append_eq (by simp) hrest' h)
    | text | marker => cases h
    | choice condition =>
      exact absurd (Token.directive.inj (List.cons.inj h).1).symm
        (ifHeader_ne_forHeader condition key value collection)
    | loop key' value' collection' body' next' =>
      obtain ⟨hkey, hvalue, -, hbody, hnext⟩ := hk
      obtain ⟨hkey', hvalue', -, hbody', hnext'⟩ := hl
      simp only [tokens, List.cons_append, List.append_assoc, List.cons.injEq,
        Token.directive.injEq] at h
      obtain ⟨hhead, htail⟩ := h
      obtain ⟨rfl, rfl, rfl⟩ := forHeader_inj hkey hvalue hkey' hvalue' hhead
      obtain ⟨rfl, hend⟩ := ihbody hbody hbody' (closes_directive (by simp) _)
        (closes_directive (by simp) _) htail
      obtain ⟨rfl, heq⟩ := ihnext hnext hnext' hrest hrest' (List.cons.inj hend).2
      exact ⟨rfl, heq⟩

theorem eq_of_tokens (hk : k.Legible) (hl : l.Legible) (h : k.tokens = l.tokens) : k = l := by
  refine (tokens_append_inj hk hl (.inl rfl) (.inl rfl) ?_).1
  rw [List.append_nil, List.append_nil, h]

end Skeleton

/-! ### Rendered templates -/

namespace Conversion

open Skeleton

/-- **Rendering loses no structure.**  A template that renders has a skeleton, which is normal, and
its text is that of the skeleton's tokens, whose directives are closed, one inside the other.  The
text of a legible template reads in this one way only, and two legible templates with the same text
have the same skeleton. -/
theorem rendered_determines_skeleton {c₁ c₂ : Conversion} {parts₁ parts₂ : List Part} {s : String}
    (h₁ : c₁.Renders parts₁ s) (h₂ : c₂.Renders parts₂ s) :
    ∃ k₁ k₂, c₁.templateSkeleton parts₁ = .ok k₁ ∧ c₂.templateSkeleton parts₂ = .ok k₂ ∧
      k₁.Normal ∧ k₁.render = s ∧ spelled k₁.tokens = s.toList ∧ Nested k₁.tokens ∧
      (k₁.Legible → Readable k₁.tokens ∧
        ∀ ts, Readable ts → spelled ts = s.toList → ts = k₁.tokens) ∧
      (k₁.Legible → k₂.Legible → k₁ = k₂) := by
  obtain ⟨k₁, hk₁, hnormal₁, hrender₁⟩ := h₁.exists_skeleton
  obtain ⟨k₂, hk₂, hnormal₂, hrender₂⟩ := h₂.exists_skeleton
  have hspelled₁ : spelled k₁.tokens = s.toList := hrender₁ ▸ spelled_tokens hnormal₁
  have hspelled₂ : spelled k₂.tokens = s.toList := hrender₂ ▸ spelled_tokens hnormal₂
  refine ⟨k₁, k₂, hk₁, hk₂, hnormal₁, hrender₁, hspelled₁, nested_tokens k₁, ?_, ?_⟩
  · intro hlegible
    have hreadable := readable_tokens hnormal₁ hlegible
    refine ⟨hreadable, fun ts hts hspelled => ?_⟩
    exact eq_of_spelled hts hreadable (hspelled.trans hspelled₁.symm)
  · intro hlegible₁ hlegible₂
    refine eq_of_tokens hlegible₁ hlegible₂ ?_
    exact eq_of_spelled (readable_tokens hnormal₁ hlegible₁) (readable_tokens hnormal₂ hlegible₂)
      (hspelled₁.trans hspelled₂.symm)

/-- Sigils next to a marker and a directive, a repetition behind an `else`, a wrapped and a nested
template: the text of two templates over two sources has one reading, and that is the skeleton of
both. -/
theorem rendered_determines_skeleton_mixed :
    let c₁ : Conversion := ⟨.ofString "x ok xs", 9⟩
    let c₂ : Conversion := ⟨.ofString "xs?ok:x", 4⟩
    let at₀ : Span := ⟨0, 0⟩
    let parts₁ : List Part := [.literal "a$", .interpolation (.reference ⟨0, 1⟩),
      .directive (.conditional at₀ (.reference ⟨2, 4⟩) (.template at₀ [.literal "%"])
        (.template at₀ [.directive (.forEach at₀ (some "i") "v" (.reference ⟨5, 7⟩)
          (.template at₀ [.literal "b", .literal "c"]))]))]
    let parts₂ : List Part := [.literal "a", .interpolation (.literal at₀ (.string "$")),
      .interpolation (.template at₀ [.interpolation (.wrap at₀ (.reference ⟨6, 7⟩))]),
      .directive (.conditional at₀ (.reference ⟨3, 5⟩) (.literal at₀ (.string "%"))
        (.forEach at₀ (some "i") "v" (.reference ⟨0, 2⟩) (.literal at₀ (.string "bc"))))]
    let s := "a$$\x7bx\x7d%\x7bif ok\x7d%%\x7belse\x7d" ++
      "%\x7bfor i, v in xs\x7dbc%\x7bendfor\x7d%\x7bendif\x7d"
    let k : Skeleton := .text "a$" (.marker "x" (.choice "ok" (.text "%" .nil)
      (.loop (some "i") "v" "xs" (.text "bc" .nil) .nil) .nil))
    c₁.Renders parts₁ s ∧ c₂.Renders parts₂ s ∧ k.Legible ∧
      c₁.templateSkeleton parts₁ = .ok k ∧ c₂.templateSkeleton parts₂ = .ok k ∧
      ∀ ts, Readable ts → spelled ts = s.toList → ts = k.tokens := by
  intro c₁ c₂ at₀ parts₁ parts₂ s k
  have h₁ : c₁.Renders parts₁ s := ⟨0, at₀, .inl rfl⟩
  have h₂ : c₂.Renders parts₂ s := ⟨0, at₀, .inr rfl⟩
  have hlegible : k.Legible := by
    have hkey : ∀ name ∈ some "i", IsIdentifier name := by
      intro name hname
      obtain rfl := Option.some.inj hname
      exact ⟨'i', [], rfl, by decide, List.forall_mem_nil _⟩
    have hvalue : IsIdentifier "v" := ⟨'v', [], rfl, by decide, List.forall_mem_nil _⟩
    exact ⟨by decide, by decide, by decide, ⟨by decide, trivial⟩,
      ⟨hkey, hvalue, by decide, ⟨by decide, trivial⟩, trivial⟩, trivial⟩
  have hk₁ : c₁.templateSkeleton parts₁ = .ok k := rfl
  have hk₂ : c₂.templateSkeleton parts₂ = .ok k := rfl
  obtain ⟨k₁, k₂, hsame₁, -, -, -, -, -, hreading, -⟩ := rendered_determines_skeleton h₁ h₂
  obtain rfl := Except.ok.inj (hk₁.symm.trans hsame₁)
  exact ⟨h₁, h₂, hlegible, hk₁, hk₂, (hreading hlegible).2⟩

end Conversion
end Groundplan
