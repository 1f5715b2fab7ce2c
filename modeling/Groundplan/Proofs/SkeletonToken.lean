import Mathlib.Data.List.Chain
import Mathlib.Data.List.Infix

/-!
# Tokens of a rendered template

The text of a template is a sequence of runs of text, markers `${…}` and directives `%{…}`.  Where
no run contains an opening, nothing that is quoted contains the closing brace, and runs do not
follow each other (`Readable`), the text says where each of them begins and ends: two readable
sequences that are spelled alike are equal (`eq_of_spelled`).
-/

namespace Groundplan.Skeleton

/-- A piece of the text of a template. -/
inductive Token where
  | text (run : String)
  | marker (source : String)
  | directive (header : String)
  deriving DecidableEq, Repr

/-! ### Openings -/

/-- Text that begins with the opening of a marker or a directive. -/
def Opens (cs : List Char) : Prop :=
  ∃ sigil rest, (sigil = '$' ∨ sigil = '%') ∧ cs = sigil :: '{' :: rest

/-- Text that is at its end, or where a marker or a directive begins. -/
def Border (cs : List Char) : Prop := cs = [] ∨ Opens cs

/-- Text without openings. -/
def Plain (cs : List Char) : Prop := ¬ ['$', '{'] <:+: cs ∧ ¬ ['%', '{'] <:+: cs

instance (cs : List Char) : Decidable (Plain cs) := inferInstanceAs (Decidable (_ ∧ _))

variable {c x y : Char} {cs run run₁ run₂ rest rest₁ rest₂ : List Char}

theorem Plain.tail (h : Plain (c :: cs)) : Plain cs :=
  ⟨fun hinfix => h.1 (List.infix_cons hinfix), fun hinfix => h.2 (List.infix_cons hinfix)⟩

theorem Plain.not_opens (h : Plain cs) : ¬ Opens cs := by
  rintro ⟨sigil, rest, rfl | rfl, rfl⟩
  · exact h.1 (List.prefix_append ['$', '{'] rest).isInfix
  · exact h.2 (List.prefix_append ['%', '{'] rest).isInfix

/-- A run does not open anything together with what follows it: that begins with a sigil, and no
sigil is a brace. -/
theorem not_border_append (hrun : Plain run) (hne : run ≠ []) (hrest : Border rest) :
    ¬ Border (run ++ rest) := by
  rintro (hempty | ⟨sigil, more, hsigil, heq⟩)
  · exact hne (List.append_eq_nil_iff.mp hempty).1
  obtain ⟨c, cs, rfl⟩ := List.exists_cons_of_ne_nil hne
  obtain ⟨rfl, hnext⟩ := List.cons.inj heq
  cases cs with
  | nil =>
    obtain rfl | ⟨next, _, hsigil', rfl⟩ := hrest
    · cases hnext
    · obtain ⟨rfl, -⟩ := List.cons.inj hnext
      rcases hsigil' with h | h <;> exact absurd h (by decide)
  | cons d cs =>
    obtain ⟨rfl, -⟩ := List.cons.inj hnext
    exact hrun.not_opens ⟨c, cs, hsigil, rfl⟩

/-- A run ends where the first opening is. -/
theorem run_unique (h₁ : Plain run₁) (h₂ : Plain run₂) (hrest₁ : Border rest₁)
    (hrest₂ : Border rest₂) (h : run₁ ++ rest₁ = run₂ ++ rest₂) : run₁ = run₂ ∧ rest₁ = rest₂ := by
  induction run₁ generalizing run₂ with
  | nil =>
    cases run₂ with
    | nil => exact ⟨rfl, h⟩
    | cons c cs => exact absurd (h ▸ hrest₁) (not_border_append h₂ (List.cons_ne_nil c cs) hrest₂)
  | cons c cs ih =>
    cases run₂ with
    | nil => exact absurd (h ▸ hrest₂) (not_border_append h₁ (List.cons_ne_nil c cs) hrest₁)
    | cons d ds =>
      obtain ⟨rfl, htail⟩ := List.cons.inj h
      obtain ⟨rfl, hrest⟩ := ih h₁.tail h₂.tail htail
      exact ⟨rfl, hrest⟩

/-- What stands before a delimiter that does not occur in it is determined. -/
theorem eq_of_delimited (h₁ : y ∉ run₁) (h₂ : x ∉ run₂)
    (h : run₁ ++ x :: rest₁ = run₂ ++ y :: rest₂) : run₁ = run₂ ∧ x = y ∧ rest₁ = rest₂ := by
  induction run₁ generalizing run₂ with
  | nil =>
    cases run₂ with
    | nil => exact ⟨rfl, List.cons.inj h⟩
    | cons c cs =>
      obtain ⟨rfl, -⟩ := List.cons.inj h
      exact absurd List.mem_cons_self h₂
  | cons c cs ih =>
    cases run₂ with
    | nil =>
      obtain ⟨rfl, -⟩ := List.cons.inj h
      exact absurd List.mem_cons_self h₁
    | cons d ds =>
      obtain ⟨rfl, htail⟩ := List.cons.inj h
      obtain ⟨rfl, hrest⟩ := ih (List.not_mem_of_not_mem_cons h₁) (List.not_mem_of_not_mem_cons h₂)
        htail
      exact ⟨rfl, hrest⟩

/-! ### Readable sequences -/

namespace Token

/-- How a token is written. -/
def chars : Token → List Char
  | text run => run.toList
  | marker source => '$' :: '{' :: (source.toList ++ ['}'])
  | directive header => '%' :: '{' :: (header.toList ++ ['}'])

/-- Whether a token is a run of text. -/
def isText : Token → Bool
  | text _ => true
  | _ => false

/-- No token begins or ends inside the token. -/
def Closed : Token → Prop
  | text run => run ≠ "" ∧ Plain run.toList
  | marker source => '}' ∉ source.toList
  | directive header => '}' ∉ header.toList

theorem opens_chars_append {t : Token} (h : t.isText = false) (rest : List Char) :
    Opens (t.chars ++ rest) := by
  cases t with
  | text => cases h
  | marker source => exact ⟨'$', _, .inl rfl, rfl⟩
  | directive header => exact ⟨'%', _, .inr rfl, rfl⟩

theorem chars_ne_nil {t : Token} (h : t.Closed) : t.chars ≠ [] := by
  cases t with
  | text run => exact mt String.toList_eq_nil_iff.mp h.1
  | marker | directive => exact List.cons_ne_nil _ _

end Token

variable {t u : Token} {ts us : List Token}

/-- The text of a sequence of tokens. -/
def spelled (ts : List Token) : List Char := ts.flatMap Token.chars

/-- A sequence of tokens that its text determines. -/
def Readable (ts : List Token) : Prop :=
  (∀ t ∈ ts, t.Closed) ∧ ts.IsChain fun t u => ¬ (t.isText ∧ u.isText)

@[simp] theorem spelled_cons (t : Token) (ts : List Token) :
    spelled (t :: ts) = t.chars ++ spelled ts := rfl

@[simp] theorem spelled_append (ts us : List Token) :
    spelled (ts ++ us) = spelled ts ++ spelled us := List.flatMap_append

namespace Readable

theorem nil : Readable [] := ⟨by simp, .nil⟩

theorem head (h : Readable (t :: ts)) : t.Closed := h.1 t List.mem_cons_self

theorem tail (h : Readable (t :: ts)) : Readable ts :=
  ⟨fun u hu => h.1 u (List.mem_cons_of_mem t hu), h.2.tail⟩

theorem cons (ht : t.Closed) (hts : Readable ts)
    (hnext : ∀ u ∈ ts.head?, ¬ (t.isText ∧ u.isText)) : Readable (t :: ts) :=
  ⟨List.forall_mem_cons.mpr ⟨ht, hts.1⟩, hts.2.cons hnext⟩

/-- A marker or a directive may follow anything. -/
theorem append (hts : Readable ts) (hu : u.isText = false) (hus : Readable (u :: us)) :
    Readable (ts ++ u :: us) := by
  refine ⟨List.forall_mem_append.mpr ⟨hts.1, hus.1⟩, List.isChain_append.mpr ⟨hts.2, hus.2, ?_⟩⟩
  intro t _ v hv
  obtain rfl : u = v := by simpa using hv
  simp [hu]

/-- Behind a run there is a marker, a directive or nothing. -/
theorem border (h : Readable (t :: ts)) (ht : t.isText = true) : Border (spelled ts) := by
  cases ts with
  | nil => exact .inl rfl
  | cons u us =>
    have hu : u.isText = false := by
      simpa [ht] using (List.isChain_cons_cons.mp h.2).1
    exact .inr (Token.opens_chars_append hu _)

theorem spelled_ne_nil (h : Readable (t :: ts)) : spelled (t :: ts) ≠ [] := by
  rw [spelled_cons]
  exact List.append_ne_nil_of_left_ne_nil (Token.chars_ne_nil h.head) _

/-- A text does not begin with a run in one reading and with an opening in another. -/
theorem spelled_ne (h : Readable (t :: ts)) (ht : t.isText = true) (hu : u.isText = false) :
    spelled (t :: ts) ≠ spelled (u :: us) := by
  cases t with
  | marker | directive => cases ht
  | text run =>
    intro heq
    have hborder : Border (spelled (.text run :: ts)) := by
      rw [heq]
      exact .inr (Token.opens_chars_append hu (spelled us))
    exact not_border_append h.head.2 (Token.chars_ne_nil h.head) (h.border rfl) hborder

end Readable

/-- What is quoted ends at the first closing brace. -/
theorem eq_of_quoted {source₁ source₂ : String} (h₁ : '}' ∉ source₁.toList)
    (h₂ : '}' ∉ source₂.toList)
    (h : source₁.toList ++ ['}'] ++ rest₁ = source₂.toList ++ ['}'] ++ rest₂) :
    source₁ = source₂ ∧ rest₁ = rest₂ := by
  rw [List.append_assoc, List.append_assoc] at h
  obtain ⟨hsource, -, hrest⟩ := eq_of_delimited h₁ h₂ h
  exact ⟨String.toList_inj.mp hsource, hrest⟩

/-- The first token of a text is determined, and so is where it ends. -/
theorem eq_head_of_spelled (hts : Readable (t :: ts)) (hus : Readable (u :: us))
    (h : spelled (t :: ts) = spelled (u :: us)) : t = u ∧ spelled ts = spelled us := by
  cases t with
  | text run =>
    cases u with
    | text other =>
      obtain ⟨hrun, hrest⟩ := run_unique hts.head.2 hus.head.2 (hts.border rfl) (hus.border rfl) h
      exact ⟨congrArg Token.text (String.toList_inj.mp hrun), hrest⟩
    | marker | directive => exact absurd h (hts.spelled_ne rfl rfl)
  | marker source =>
    cases u with
    | text other => exact absurd h.symm (hus.spelled_ne rfl rfl)
    | marker other =>
      simp only [spelled_cons, Token.chars, List.cons_append, List.cons.injEq, true_and] at h
      obtain ⟨rfl, hrest⟩ := eq_of_quoted hts.head hus.head h
      exact ⟨rfl, hrest⟩
    | directive other => simp [Token.chars] at h
  | directive header =>
    cases u with
    | text other => exact absurd h.symm (hus.spelled_ne rfl rfl)
    | marker other => simp [Token.chars] at h
    | directive other =>
      simp only [spelled_cons, Token.chars, List.cons_append, List.cons.injEq, true_and] at h
      obtain ⟨rfl, hrest⟩ := eq_of_quoted hts.head hus.head h
      exact ⟨rfl, hrest⟩

/-- **Tokens are read back**: two readable sequences with the same text are equal. -/
theorem eq_of_spelled (hts : Readable ts) (hus : Readable us) (h : spelled ts = spelled us) :
    ts = us := by
  induction ts generalizing us with
  | nil =>
    cases us with
    | nil => rfl
    | cons u us => exact absurd h.symm hus.spelled_ne_nil
  | cons t ts ih =>
    cases us with
    | nil => exact absurd h hts.spelled_ne_nil
    | cons u us =>
      obtain ⟨rfl, hrest⟩ := eq_head_of_spelled hts hus h
      rw [ih hts.tail hus.tail hrest]

-- a sigil in front of a marker belongs to the run
example : spelled [.text "a$", .marker "x", .text "%"] = "a$$\x7bx\x7d%".toList := by
  decide

end Groundplan.Skeleton
