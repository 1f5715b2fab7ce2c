/-!
# Outcomes of steps that can fail

Laws of `Except` that take a run of steps apart: `bind_eq_ok` and `bind_eq_error` say how a
sequence of two ends, `map_eq_ok` and `map_eq_error` how a step ends whose result is changed.
`FailsWith P` says that every error of a step has the property `P`, and `SucceedsWith P` that every
result has it; both are closed under sequencing.  An outcome is `DecidedBy` a list of demands if it
is a success when none of them is refused, and otherwise the refusal of the first one that is; the
demands of a sequence are those of its steps in turn (`DecidedBy.bind`).  Two outcomes
`AgreeBy R` if both are the same result, or errors that `R` relates.
-/

namespace Groundplan

variable {ε α β : Type}

/-! ### Sequencing -/

@[simp] theorem ok_bind (a : α) (f : α → Except ε β) : (Except.ok a >>= f) = f a := rfl

@[simp] theorem error_bind (e : ε) (f : α → Except ε β) :
    (Except.error e >>= f) = Except.error e := rfl

@[simp] theorem map_ok (f : α → β) (a : α) : f <$> (Except.ok a : Except ε α) = .ok (f a) := rfl

@[simp] theorem map_error (f : α → β) (e : ε) :
    f <$> (Except.error e : Except ε α) = .error e := rfl

@[simp] theorem pure_eq_ok (a : α) : (pure a : Except ε α) = .ok a := rfl

/-- A sequence succeeds iff both steps do. -/
theorem bind_eq_ok {x : Except ε α} {f : α → Except ε β} {b : β} :
    (x >>= f) = .ok b ↔ ∃ a, x = .ok a ∧ f a = .ok b := by
  cases x with
  | error e => simp
  | ok a => simp

/-- A sequence fails where its first step fails, or else where the second does. -/
theorem bind_eq_error {x : Except ε α} {f : α → Except ε β} {e : ε} :
    (x >>= f) = .error e ↔ x = .error e ∨ ∃ a, x = .ok a ∧ f a = .error e := by
  cases x with
  | error e' => simp
  | ok a => simp

theorem map_eq_ok {x : Except ε α} {f : α → β} {b : β} :
    f <$> x = .ok b ↔ ∃ a, x = .ok a ∧ f a = b := by
  cases x with
  | error e => simp
  | ok a => simp

theorem map_eq_error {x : Except ε α} {f : α → β} {e : ε} :
    f <$> x = .error e ↔ x = .error e := by
  cases x with
  | error e' => simp
  | ok a => simp

/-! ### Errors of a kind -/

/-- Every error of the outcome has the property. -/
def FailsWith (P : ε → Prop) (x : Except ε α) : Prop := ∀ e, x = .error e → P e

namespace FailsWith

variable {P Q : ε → Prop} {x : Except ε α}

theorem ok (a : α) : FailsWith P (.ok a : Except ε α) := by
  intro e h
  cases h

theorem error {e : ε} (h : P e) : FailsWith P (.error e : Except ε α) := by
  intro e' h'
  obtain rfl := Except.error.inj h'
  exact h

theorem bind {f : α → Except ε β} (hx : FailsWith P x) (hf : ∀ a, FailsWith P (f a)) :
    FailsWith P (x >>= f) := by
  intro e h
  rcases bind_eq_error.mp h with h | ⟨a, -, h⟩
  · exact hx e h
  · exact hf a e h

theorem map (f : α → β) (hx : FailsWith P x) : FailsWith P (f <$> x) := by
  intro e h
  exact hx e (map_eq_error.mp h)

theorem mono (hx : FailsWith P x) (h : ∀ e, P e → Q e) : FailsWith Q x :=
  fun e he => h e (hx e he)

end FailsWith

/-! ### Results of a kind -/

/-- Every result of the outcome has the property. -/
def SucceedsWith (P : α → Prop) (x : Except ε α) : Prop := ∀ a, x = .ok a → P a

namespace SucceedsWith

variable {P : α → Prop} {Q : β → Prop} {x : Except ε α}

theorem ok {a : α} (h : P a) : SucceedsWith P (.ok a : Except ε α) := by
  intro a' h'
  obtain rfl := Except.ok.inj h'
  exact h

theorem error (e : ε) : SucceedsWith P (.error e : Except ε α) := by
  intro a h
  cases h

theorem bind {f : α → Except ε β} (hx : SucceedsWith P x)
    (hf : ∀ a, P a → SucceedsWith Q (f a)) : SucceedsWith Q (x >>= f) := by
  intro b h
  obtain ⟨a, ha, h⟩ := bind_eq_ok.mp h
  exact hf a (hx a ha) b h

theorem map {f : α → β} (hx : SucceedsWith P x) (hf : ∀ a, P a → Q (f a)) :
    SucceedsWith Q (f <$> x) := by
  intro b h
  obtain ⟨a, ha, rfl⟩ := map_eq_ok.mp h
  exact hf a (hx a ha)

end SucceedsWith

/-! ### Outcomes that demands decide -/

section Decided

variable {δ : Type} {refusal? : δ → Option ε} {ds ds' : List δ} {outcome : Except ε α}

/-- The outcome is a success if no demand is refused, and otherwise the refusal of the first that
is. -/
structure DecidedBy (refusal? : δ → Option ε) (demands : List δ) (outcome : Except ε α) : Prop where
  succeeds : demands.findSome? refusal? = none → ∃ a, outcome = .ok a
  fails : ∀ e, demands.findSome? refusal? = some e → outcome = .error e

namespace DecidedBy

theorem ok (refusal? : δ → Option ε) (a : α) : DecidedBy refusal? [] (.ok a : Except ε α) :=
  ⟨fun _ => ⟨a, rfl⟩, fun _ h => nomatch h⟩

/-- One demand decides the outcome. -/
theorem single {d : δ} (hok : refusal? d = none → ∃ a, outcome = .ok a)
    (herror : ∀ e, refusal? d = some e → outcome = .error e) : DecidedBy refusal? [d] outcome := by
  constructor
  · rwa [List.findSome?_singleton]
  · rwa [List.findSome?_singleton]

/-- The demands of a sequence are those of its steps, in turn. -/
theorem bind {k : α → Except ε β} (h : DecidedBy refusal? ds outcome)
    (hk : ∀ a, DecidedBy refusal? ds' (k a)) : DecidedBy refusal? (ds ++ ds') (outcome >>= k) := by
  cases hfirst : ds.findSome? refusal? with
  | some e =>
    rw [h.fails e hfirst]
    constructor
    · intro hnone
      rw [List.findSome?_append, hfirst] at hnone
      cases hnone
    · intro e' he'
      rw [List.findSome?_append, hfirst] at he'
      obtain rfl := Option.some.inj he'
      rfl
  | none =>
    obtain ⟨a, rfl⟩ := h.succeeds hfirst
    rw [ok_bind]
    constructor
    · intro hnone
      rw [List.findSome?_append, hfirst, Option.none_or] at hnone
      exact (hk a).succeeds hnone
    · intro e he
      rw [List.findSome?_append, hfirst, Option.none_or] at he
      exact (hk a).fails e he

theorem map (f : α → β) (h : DecidedBy refusal? ds outcome) :
    DecidedBy refusal? ds (f <$> outcome) := by
  constructor
  · intro hnone
    obtain ⟨a, rfl⟩ := h.succeeds hnone
    exact ⟨f a, rfl⟩
  · intro e he
    rw [h.fails e he]
    rfl

/-- The outcome is a success iff no demand is refused. -/
theorem exists_ok_iff (h : DecidedBy refusal? ds outcome) :
    (∃ a, outcome = .ok a) ↔ ∀ d ∈ ds, refusal? d = none := by
  rw [← List.findSome?_eq_none_iff]
  refine ⟨?_, h.succeeds⟩
  rintro ⟨a, rfl⟩
  cases hfirst : ds.findSome? refusal? with
  | none => rfl
  | some e => cases h.fails e hfirst

/-- The error is that of the first demand that is refused. -/
theorem eq_error_iff (h : DecidedBy refusal? ds outcome) {e : ε} :
    outcome = .error e ↔ ∃ before d after, ds = before ++ d :: after ∧
      (∀ m ∈ before, refusal? m = none) ∧ refusal? d = some e := by
  have hfirst : outcome = .error e ↔ ds.findSome? refusal? = some e := by
    refine ⟨?_, h.fails e⟩
    rintro rfl
    cases hfind : ds.findSome? refusal? with
    | none =>
      obtain ⟨a, ha⟩ := h.succeeds hfind
      cases ha
    | some e' => rw [Except.error.inj (h.fails e' hfind)]
  rw [hfirst, List.findSome?_eq_some_iff]
  simp only [and_comm]

end DecidedBy
end Decided

/-! ### Outcomes that agree -/

/-- Two outcomes are the same result, or errors in the relation. -/
inductive AgreeBy (R : ε → ε → Prop) : Except ε α → Except ε α → Prop where
  | ok (a : α) : AgreeBy R (.ok a) (.ok a)
  | error {e e' : ε} (h : R e e') : AgreeBy R (.error e) (.error e')

namespace AgreeBy

variable {R : ε → ε → Prop} {x y : Except ε α}

theorem refl (hR : ∀ e, R e e) (x : Except ε α) : AgreeBy R x x := by
  cases x with
  | ok a => exact .ok a
  | error e => exact .error (hR e)

/-- Sequences agree whose steps do. -/
theorem bind {f g : α → Except ε β} (h : AgreeBy R x y) (hf : ∀ a, AgreeBy R (f a) (g a)) :
    AgreeBy R (x >>= f) (y >>= g) := by
  cases h with
  | ok a => exact hf a
  | error h => exact .error h

theorem map (f : α → β) (h : AgreeBy R x y) : AgreeBy R (f <$> x) (f <$> y) := by
  cases h with
  | ok a => exact .ok (f a)
  | error h => exact .error h

theorem eq_ok {a : α} (h : AgreeBy R x y) (hx : x = .ok a) : y = .ok a := by
  cases h with
  | ok a => exact hx
  | error h => cases hx

/-- Outcomes that agree up to nothing are equal. -/
theorem eq (h : AgreeBy Eq x y) : x = y := by
  cases h with
  | ok a => rfl
  | error h => rw [h]

end AgreeBy
end Groundplan
