import Groundplan.Proofs.ReadingErrors
import Mathlib.Data.List.Induction

/-!
# Runs of a registry

A registry is changed by calls: dialects are registered, and default versions are chosen.  After any
run of calls the registry is what their history says (`run_reflects`): under a name and a version
stands the dialect that was registered there last (`find?_run_iff`), and the default version of a name
is the last one that was chosen for it, or else the first one that was ever registered
(`find?_defaults_run_iff`).  Both are proved by induction from the end of the run: `find?_register`
and `find?_defaults_call` say what one call changes in the registry, `isLast_append_singleton` and
`isFirst_append_singleton` what it changes in the history.
-/

namespace Groundplan.Registry

/-! ### Calls -/

/-- What changes a registry. -/
inductive Call where
  /-- Registers a dialect under a name and a version. -/
  | register (name version : String) (d : Dialect)
  /-- Chooses the default version of a name. -/
  | chooseDefault (name version : String)

/-- The registry after a call; a choice that is refused changes nothing. -/
def call (r : Registry) : Call → Registry
  | .register name version d => r.register name version d
  | .chooseDefault name version => (r.chooseDefault name version).toOption.getD r

/-- The registry after calls, one after the other. -/
def run (r : Registry) (calls : List Call) : Registry := calls.foldl call r

/-- The calls that make the registry of the library. -/
def shipped : List Call :=
  [.register "terraform" "v14" (.terraform "v14"), .register "terraform" "v12" (.terraform "v12")]

theorem run_append (r : Registry) (calls more : List Call) :
    r.run (calls ++ more) = (r.run calls).run more := by
  unfold run
  rw [List.foldl_append]

theorem run_append_singleton (r : Registry) (calls : List Call) (c : Call) :
    r.run (calls ++ [c]) = (r.run calls).call c := by
  rw [run_append]
  rfl

theorem run_builtin (calls : List Call) : builtin.run calls = run {} (shipped ++ calls) := by
  rw [run_append]
  rfl

/-! ### Last and first calls of a history -/

/-- The call is the last one with a property, which may depend on the calls before. -/
def IsLast (p : List Call → Call → Prop) (calls : List Call) (c : Call) : Prop :=
  ∃ before after, calls = before ++ c :: after ∧ p before c ∧
    ∀ between c' rest, after = between ++ c' :: rest → ¬ p (before ++ c :: between) c'

/-- The call is the first one with a property. -/
def IsFirst (p : Call → Prop) (calls : List Call) (c : Call) : Prop :=
  ∃ before after, calls = before ++ c :: after ∧ p c ∧ ∀ c' ∈ before, ¬ p c'

section Ends

variable {p : List Call → Call → Prop} {q : Call → Prop} {calls before after : List Call}
  {c last : Call}

/-- A call of a history is its last one, or a call of the history before. -/
theorem append_singleton_eq_iff :
    calls ++ [last] = before ++ c :: after ↔
      (calls = before ∧ last = c ∧ after = []) ∨
        ∃ after', after = after' ++ [last] ∧ calls = before ++ c :: after' := by
  constructor
  · intro h
    rcases List.eq_nil_or_concat after with rfl | ⟨after', last', rfl⟩
    · obtain ⟨hcalls, hlast⟩ := List.append_inj' h rfl
      exact .inl ⟨hcalls, List.head_eq_of_cons_eq hlast, rfl⟩
    · rw [List.concat_eq_append, ← List.cons_append, ← List.append_assoc] at h
      obtain ⟨hcalls, hlast⟩ := List.append_inj' h rfl
      rw [List.head_eq_of_cons_eq hlast]
      exact .inr ⟨after', List.concat_eq_append, hcalls⟩
  · rintro (⟨rfl, rfl, rfl⟩ | ⟨after', rfl, rfl⟩)
    · rfl
    · rw [List.append_assoc, List.cons_append]

/-- The last call with a property is the last of all, unless that does not have the property. -/
theorem isLast_append_singleton :
    IsLast p (calls ++ [last]) c ↔ p calls last ∧ last = c ∨ ¬ p calls last ∧ IsLast p calls c := by
  constructor
  · rintro ⟨before, after, hcalls, hc, hafter⟩
    rcases append_singleton_eq_iff.mp hcalls with ⟨rfl, rfl, rfl⟩ | ⟨after, rfl, rfl⟩
    · exact .inl ⟨hc, rfl⟩
    · refine .inr ⟨hafter after last [] rfl, before, after, rfl, hc, ?_⟩
      intro between c' rest hsplit
      apply hafter between c' (rest ++ [last])
      rw [hsplit, List.append_assoc, List.cons_append]
  · rintro (⟨hlast, rfl⟩ | ⟨hlast, before, after, rfl, hc, hafter⟩)
    · refine ⟨calls, [], rfl, hlast, fun between c' rest hnil => ?_⟩
      simp at hnil
    · refine ⟨before, after ++ [last], by simp, hc, ?_⟩
      intro between c' rest hsplit
      rcases append_singleton_eq_iff.mp hsplit with ⟨rfl, rfl, -⟩ | ⟨rest, -, hsplit⟩
      · exact hlast
      · exact hafter between c' rest hsplit

/-- The first call with a property is the last of all only if none before has the property. -/
theorem isFirst_append_singleton :
    IsFirst q (calls ++ [last]) c ↔ IsFirst q calls c ∨ (∀ c' ∈ calls, ¬ q c') ∧ q last ∧ last = c := by
  constructor
  · rintro ⟨before, after, hcalls, hc, hbefore⟩
    rcases append_singleton_eq_iff.mp hcalls with ⟨rfl, rfl, -⟩ | ⟨after, -, rfl⟩
    · exact .inr ⟨hbefore, hc, rfl⟩
    · exact .inl ⟨before, after, rfl, hc, hbefore⟩
  · rintro (⟨before, after, rfl, hc, hbefore⟩ | ⟨hnone, hlast, rfl⟩)
    · exact ⟨before, after ++ [last], by simp, hc, hbefore⟩
    · exact ⟨calls, [], rfl, hlast, hnone⟩

/-- The last call with a property has it after some calls. -/
theorem IsLast.exists_before (h : IsLast p calls c) : ∃ before after, calls = before ++ c :: after ∧
    p before c := by
  obtain ⟨before, after, hcalls, hc, -⟩ := h
  exact ⟨before, after, hcalls, hc⟩

theorem not_isLast_nil : ¬ IsLast p [] c := by
  rintro ⟨before, after, hnil, -⟩
  simp at hnil

theorem not_isFirst_nil : ¬ IsFirst q [] c := by
  rintro ⟨before, after, hnil, -⟩
  simp at hnil

/-- Where some call has a property, one is the last that has it. -/
theorem exists_isLast_iff :
    (∃ c, IsLast p calls c) ↔ ∃ before c after, calls = before ++ c :: after ∧ p before c := by
  constructor
  · rintro ⟨c, before, after, hcalls, hc, -⟩
    exact ⟨before, c, after, hcalls, hc⟩
  · intro h
    induction calls using List.reverseRecOn with
    | nil =>
      obtain ⟨before, c, after, hnil, -⟩ := h
      simp at hnil
    | append_singleton calls last ih =>
      by_cases hlast : p calls last
      · exact ⟨last, isLast_append_singleton.mpr (.inl ⟨hlast, rfl⟩)⟩
      · obtain ⟨before, c, after, hcalls, hc⟩ := h
        rcases append_singleton_eq_iff.mp hcalls with ⟨rfl, rfl, -⟩ | ⟨after, -, hcalls⟩
        · exact absurd hc hlast
        · obtain ⟨c', hc'⟩ := ih ⟨before, c, after, hcalls, hc⟩
          exact ⟨c', isLast_append_singleton.mpr (.inr ⟨hlast, hc'⟩)⟩

end Ends

/-! ### What a history says -/

/-- Whether a call registers a dialect under a name and a version. -/
def Call.RegistersUnder (name version : String) : Call → Prop
  | register name' version' _ => name' = name ∧ version' = version
  | chooseDefault _ _ => False

/-- Whether a call registers a version of a name. -/
def Call.Registers (name : String) : Call → Prop
  | register name' _ _ => name' = name
  | chooseDefault _ _ => False

/-- Whether some call registers a dialect under the name and the version. -/
def Registered (calls : List Call) (name version : String) : Prop :=
  ∃ c ∈ calls, c.RegistersUnder name version

/-- Whether a call that comes after others chooses a default version of a name: one that is registered
by then. -/
def Chooses (name : String) (before : List Call) : Call → Prop
  | .register _ _ _ => False
  | .chooseDefault name' version => name' = name ∧ Registered before name version

/-- The dialect was registered last under the name and the version. -/
def LastRegistered (calls : List Call) (name version : String) (d : Dialect) : Prop :=
  IsLast (fun _ c => c.RegistersUnder name version) calls (.register name version d)

/-- The version was chosen last for the name, or it was registered first for it and none was ever
chosen. -/
def DefaultVersion (calls : List Call) (name version : String) : Prop :=
  IsLast (Chooses name) calls (.chooseDefault name version) ∨
    (∀ c, ¬ IsLast (Chooses name) calls c) ∧
      ∃ d, IsFirst (Call.Registers name) calls (.register name version d)

variable {calls : List Call} {name version : String} {d : Dialect} {r : Registry}

/-! ### Registered dialects -/

theorem find?_chooseDefault {r' : Registry} (h : r.chooseDefault name version = .ok r')
    (name' version' : String) : r'.find? name' version' = r.find? name' version' := by
  unfold chooseDefault at h
  split at h
  · cases h
  · obtain rfl := Except.ok.inj h
    rfl

theorem find?_call_chooseDefault (name' version' : String) :
    (r.call (.chooseDefault name version)).find? name' version' = r.find? name' version' := by
  rw [call]
  cases h : r.chooseDefault name version with
  | error e => rfl
  | ok r' => exact find?_chooseDefault h name' version'

/-- **Last registration**: under a name and a version stands the dialect that was registered there
last. -/
theorem find?_run_iff (calls : List Call) (name version : String) (d : Dialect) :
    (run {} calls).find? name version = some d ↔ LastRegistered calls name version d := by
  induction calls using List.reverseRecOn with
  | nil =>
    have hnone : (run {} []).find? name version = none := rfl
    rw [hnone]
    exact iff_of_false (fun h => nomatch h) not_isLast_nil
  | append_singleton calls c ih =>
    rw [LastRegistered, isLast_append_singleton, ← LastRegistered, ← ih, run_append_singleton]
    cases c with
    | chooseDefault name' version' =>
      rw [find?_call_chooseDefault]
      simp [Call.RegistersUnder]
    | register name' version' d' =>
      rw [call, find?_register]
      by_cases hpair : name = name' ∧ version = version'
      · obtain ⟨rfl, rfl⟩ := hpair
        simp [Call.RegistersUnder]
      · have hother : ¬ (name' = name ∧ version' = version) := by
          rintro ⟨rfl, rfl⟩
          exact hpair ⟨rfl, rfl⟩
        rw [if_neg hpair]
        simp only [Call.RegistersUnder, hother, not_false_eq_true, true_and, false_and, false_or]

/-- A dialect is found iff one was registered. -/
theorem exists_find?_run_iff (calls : List Call) (name version : String) :
    (∃ d, (run {} calls).find? name version = some d) ↔ Registered calls name version := by
  constructor
  · rintro ⟨d, hd⟩
    obtain ⟨before, after, rfl, hc, -⟩ := (find?_run_iff calls name version d).mp hd
    exact ⟨.register name version d, by simp, hc⟩
  · rintro ⟨c, hmem, hc⟩
    obtain ⟨before, after, rfl⟩ := List.append_of_mem hmem
    have hsome : ∃ last, IsLast (fun _ c => c.RegistersUnder name version)
        (before ++ c :: after) last := exists_isLast_iff.mpr ⟨before, c, after, rfl, hc⟩
    obtain ⟨last, hlast⟩ := hsome
    -- only a registration under the name and the version can be the last one
    obtain ⟨-, -, -, hunder⟩ := hlast.exists_before
    cases last with
    | chooseDefault name' version' => exact hunder.elim
    | register name' version' d =>
      obtain ⟨rfl, rfl⟩ := hunder
      exact ⟨d, (find?_run_iff _ _ _ d).mpr hlast⟩

/-! ### Default versions -/

open Entries in
theorem find?_defaults_register (name' : String) :
    (r.register name version d).defaults.find? name'
      = if name = name' then some ((r.defaults.find? name').getD version)
        else r.defaults.find? name' := by
  unfold register
  dsimp only
  cases hdefault : r.defaults.find? name with
  | some chosen =>
    split_ifs with hname
    · subst hname
      rw [hdefault]
      rfl
    · rfl
  | none =>
    split_ifs with hname
    · subst hname
      rw [find?_insert_self, hdefault]
      rfl
    · rw [find?_insert_of_ne (Ne.symm hname)]

open Entries in
theorem find?_defaults_call_chooseDefault (name' : String) :
    (r.call (.chooseDefault name version)).defaults.find? name'
      = if name = name' ∧ (r.find? name version).isSome then some version
        else r.defaults.find? name' := by
  unfold call chooseDefault
  dsimp only
  cases hfind : r.find? name version with
  | none => simp [Except.toOption]
  | some d =>
    simp only [Except.toOption, Option.getD_some, Option.isSome_some, and_true]
    split_ifs with hname
    · subst hname
      exact find?_insert_self
    · exact find?_insert_of_ne (Ne.symm hname)

/-- A name without registrations, and no other, has no default version. -/
theorem find?_defaults_run_eq_none_iff (calls : List Call) (name : String) :
    (run {} calls).defaults.find? name = none ↔ ∀ c ∈ calls, ¬ c.Registers name := by
  induction calls using List.reverseRecOn with
  | nil => exact iff_of_true rfl (List.forall_mem_nil _)
  | append_singleton calls c ih =>
    rw [run_append_singleton, List.forall_mem_append, List.forall_mem_singleton, ← ih]
    cases c with
    | register name' version' d' =>
      rw [call, find?_defaults_register]
      by_cases hname : name' = name
      · simp [hname, Call.Registers]
      · simp [hname, Call.Registers]
    | chooseDefault name' version' =>
      rw [find?_defaults_call_chooseDefault]
      simp only [Call.Registers, not_false_eq_true, and_true]
      split_ifs with hchosen
      · -- what can be chosen is registered, so the name has a default version already
        obtain ⟨rfl, hfind⟩ := hchosen
        obtain ⟨c, hmem, hc⟩ :=
          (exists_find?_run_iff calls name' version').mp (Option.isSome_iff_exists.mp hfind)
        have hregisters : c.Registers name' := by
          cases c with
          | register n v d => exact hc.1
          | chooseDefault n v => exact hc.elim
        rw [ih]
        exact iff_of_false (fun h => nomatch h) fun h => h c hmem hregisters
      · exact Iff.rfl

/-- A version is registered before it is chosen. -/
theorem registers_of_chooses {before : List Call} {c : Call} (h : Chooses name before c) :
    ∃ c' ∈ before, c'.Registers name := by
  cases c with
  | register name' version' d' => exact h.elim
  | chooseDefault name' version' =>
    obtain ⟨-, c', hmem, hc'⟩ := h
    cases c' with
    | register n v d => exact ⟨_, hmem, hc'.1⟩
    | chooseDefault n v => exact hc'.elim

/-- Another registration of a name changes its default version only if it is the first. -/
theorem defaultVersion_append_register (name' version' : String) (d' : Dialect) :
    DefaultVersion (calls ++ [.register name' version' d']) name version ↔
      DefaultVersion calls name version ∨
        (∀ c ∈ calls, ¬ c.Registers name) ∧ name' = name ∧ version' = version := by
  have hlast : ∀ c, IsLast (Chooses name) (calls ++ [.register name' version' d']) c ↔
      IsLast (Chooses name) calls c := by
    intro c
    rw [isLast_append_singleton]
    simp [Chooses]
  unfold DefaultVersion
  simp only [hlast, isFirst_append_singleton]
  constructor
  · rintro (hchosen | ⟨hnone, d, hfirst | ⟨hnew, -, heq⟩⟩)
    · exact .inl (.inl hchosen)
    · exact .inl (.inr ⟨hnone, d, hfirst⟩)
    · injection heq with hname hversion
      exact .inr ⟨hnew, hname, hversion⟩
  · rintro ((hchosen | ⟨hnone, d, hfirst⟩) | ⟨hnew, rfl, rfl⟩)
    · exact .inl hchosen
    · exact .inr ⟨hnone, d, .inl hfirst⟩
    · refine .inr ⟨?_, d', .inr ⟨hnew, rfl, rfl⟩⟩
      intro c hc
      obtain ⟨before, after, rfl, hchooses⟩ := hc.exists_before
      obtain ⟨c', hmem, hc'⟩ := registers_of_chooses hchooses
      exact hnew c' (List.mem_append_left _ hmem) hc'

/-- A choice that is not refused is the default version, and one that is refused changes nothing. -/
theorem defaultVersion_append_chooseDefault (name' version' : String) :
    DefaultVersion (calls ++ [.chooseDefault name' version']) name version ↔
      (name' = name ∧ Registered calls name version') ∧ version' = version ∨
        ¬ (name' = name ∧ Registered calls name version') ∧ DefaultVersion calls name version := by
  have hfirst : ∀ d, IsFirst (Call.Registers name) (calls ++ [.chooseDefault name' version'])
      (.register name version d) ↔ IsFirst (Call.Registers name) calls (.register name version d) := by
    intro d
    rw [isFirst_append_singleton]
    simp
  have hlast : ∀ c, IsLast (Chooses name) (calls ++ [.chooseDefault name' version']) c ↔
      (name' = name ∧ Registered calls name version') ∧ .chooseDefault name' version' = c ∨
        ¬ (name' = name ∧ Registered calls name version') ∧ IsLast (Chooses name) calls c :=
    fun c => isLast_append_singleton
  unfold DefaultVersion
  simp only [hfirst, hlast]
  by_cases hchosen : name' = name ∧ Registered calls name version'
  · obtain ⟨rfl, hregistered⟩ := hchosen
    simp [hregistered]
  · simp [hchosen]

/-- **Default version**: the last one that was chosen for the name, or else the first one that was
registered. -/
theorem find?_defaults_run_iff (calls : List Call) (name version : String) :
    (run {} calls).defaults.find? name = some version ↔ DefaultVersion calls name version := by
  induction calls using List.reverseRecOn with
  | nil =>
    refine iff_of_false (fun h => nomatch h) ?_
    rintro (hlast | ⟨-, d, hfirst⟩)
    · exact not_isLast_nil hlast
    · exact not_isFirst_nil hfirst
  | append_singleton calls c ih =>
    rw [run_append_singleton]
    cases c with
    | register name' version' d' =>
      rw [call, find?_defaults_register, defaultVersion_append_register, ← ih,
        ← find?_defaults_run_eq_none_iff]
      split_ifs with hname
      · cases hdefault : (run {} calls).defaults.find? name with
        | none => simp [hname]
        | some chosen => simp
      · simp [hname]
    | chooseDefault name' version' =>
      rw [find?_defaults_call_chooseDefault, defaultVersion_append_chooseDefault, ← ih,
        ← exists_find?_run_iff, ← Option.isSome_iff_exists]
      by_cases hname : name' = name
      · subst hname
        cases hfind : (run {} calls).find? name' version' with
        | none => simp
        | some d => simp
      · simp [hname]

/-- A name has a default version iff one of its versions is registered. -/
theorem exists_defaultVersion_iff :
    (∃ version, DefaultVersion calls name version) ↔ ∃ version, Registered calls name version := by
  have hnone := find?_defaults_run_eq_none_iff calls name
  have hdefault : (∃ version, DefaultVersion calls name version) ↔
      ∃ c ∈ calls, c.Registers name := by
    simp only [← find?_defaults_run_iff, ← Option.isSome_iff_exists, Option.isSome_iff_ne_none, ne_eq,
      hnone]
    simp
  rw [hdefault]
  constructor
  · rintro ⟨c, hmem, hc⟩
    cases c with
    | register n v d => exact ⟨v, _, hmem, hc, rfl⟩
    | chooseDefault n v => exact hc.elim
  · rintro ⟨version, c, hmem, hc⟩
    cases c with
    | register n v d => exact ⟨_, hmem, hc.1⟩
    | chooseDefault n v => exact hc.elim

/-- A default version is registered. -/
theorem registered_of_defaultVersion (h : DefaultVersion calls name version) :
    Registered calls name version := by
  rcases h with hchosen | ⟨-, d, hfirst⟩
  · obtain ⟨before, after, rfl, -, c, hmem, hc⟩ := hchosen.exists_before
    exact ⟨c, List.mem_append_left _ hmem, hc⟩
  · obtain ⟨before, after, rfl, -⟩ := hfirst
    exact ⟨.register name version d, by simp, rfl, rfl⟩

/-- A name has one default version. -/
theorem defaultVersion_unique {version' : String} (h : DefaultVersion calls name version)
    (h' : DefaultVersion calls name version') : version = version' := by
  rw [← find?_defaults_run_iff] at h h'
  exact Option.some.inj (h.symm.trans h')

/-- The default version of a name stays as long as no other is chosen for it. -/
theorem defaultVersion_append {more : List Call} (h : DefaultVersion calls name version)
    (hmore : ∀ before c after, more = before ++ c :: after → ¬ Chooses name (calls ++ before) c) :
    DefaultVersion (calls ++ more) name version := by
  induction more using List.reverseRecOn with
  | nil => rwa [List.append_nil]
  | append_singleton more c ih =>
    have hstays : DefaultVersion (calls ++ more) name version := by
      apply ih
      intro before c' after hsplit
      apply hmore before c' (after ++ [c])
      rw [hsplit, List.append_assoc, List.cons_append]
    have hlast : ¬ Chooses name (calls ++ more) c := hmore more c [] rfl
    rw [← List.append_assoc]
    cases c with
    | register name' version' d' => exact (defaultVersion_append_register ..).mpr (.inl hstays)
    | chooseDefault name' version' =>
      exact (defaultVersion_append_chooseDefault ..).mpr (.inr ⟨hlast, hstays⟩)

/-! ### Selection -/

/-- The dialect that is selected stands under the version that is asked for, or else under the default
one. -/
theorem select_eq_ok_iff {asked : Option String} :
    r.select name asked = .ok d ↔
      ∃ version, asked.or (r.defaults.find? name) = some version ∧ r.find? name version = some d := by
  unfold select
  dsimp only
  cases asked.or (r.defaults.find? name) with
  | none => simp
  | some version =>
    cases hfind : r.find? name version with
    | none => simp [hfind]
    | some d' => simp [hfind]

/-- **Refused requests** name what was asked for. -/
theorem select_fails (r : Registry) (name : String) (asked : Option String) :
    FailsWith (· = .unknownDialect name (asked.getD "default")) (r.select name asked) := by
  unfold select
  dsimp only
  split
  · exact .error rfl
  · split
    · exact .error rfl
    · exact .ok _

/-- A choice is refused iff the version is not registered. -/
theorem chooseDefault_eq (r : Registry) (name version : String) :
    (∃ d, r.find? name version = some d) ∧
        r.chooseDefault name version = .ok (r.call (.chooseDefault name version)) ∨
      r.find? name version = none ∧
        r.chooseDefault name version = .error (.unknownDialect name version) ∧
          r.call (.chooseDefault name version) = r := by
  unfold call chooseDefault
  dsimp only
  cases r.find? name version with
  | none => exact .inr ⟨rfl, rfl, rfl⟩
  | some d => exact .inl ⟨⟨d, rfl⟩, rfl⟩

/-! ### Listing -/

/-- The names stand in order, each once, and so do the versions of each. -/
structure Arranged (r : Registry) : Prop where
  names : Entries.Ordered r.dialects
  versions : ∀ name versions, (name, versions) ∈ r.dialects → Entries.Ordered versions

theorem Arranged.call (h : r.Arranged) (c : Call) : (r.call c).Arranged := by
  cases c with
  | register name version d =>
    rw [Registry.call, register]
    refine ⟨Entries.ordered_insert h.names, ?_⟩
    intro name' versions hmem
    rcases Entries.mem_insert hmem with heq | hmem
    · obtain ⟨-, rfl⟩ := Prod.mk.inj heq
      apply Entries.ordered_insert
      cases hversions : Entries.find? r.dialects name with
      | none => exact Entries.ordered_nil
      | some versions => exact h.versions name versions (Entries.mem_of_find? hversions)
    · exact h.versions name' versions hmem
  | chooseDefault name version =>
    have hdialects : (r.call (.chooseDefault name version)).dialects = r.dialects := by
      unfold Registry.call chooseDefault
      dsimp only
      cases r.find? name version with
      | none => rfl
      | some d => rfl
    refine ⟨?_, ?_⟩
    · rw [hdialects]
      exact h.names
    · rw [hdialects]
      exact h.versions

theorem arranged_run (calls : List Call) : (run {} calls).Arranged := by
  induction calls using List.reverseRecOn with
  | nil => exact ⟨Entries.ordered_nil, fun name versions hmem => nomatch hmem⟩
  | append_singleton calls c ih =>
    rw [run_append_singleton]
    exact ih.call c

/-- What is listed is registered, with the mark of the default version. -/
theorem Arranged.mem_entries (h : r.Arranged) {isDefault : Bool} :
    (name, version, isDefault) ∈ r.entries ↔
      (∃ d, r.find? name version = some d) ∧
        isDefault = (r.defaults.find? name == some version) := by
  unfold entries
  simp only [List.mem_flatMap, List.mem_map, Prod.exists, Prod.mk.injEq]
  constructor
  · rintro ⟨name', versions, hversions, version', d, hd, rfl, rfl, rfl⟩
    have hfind : r.find? name' version' = some d := by
      rw [find?, h.names.find?_of_mem hversions, Option.bind_some]
      exact (h.versions name' versions hversions).find?_of_mem hd
    exact ⟨⟨d, hfind⟩, rfl⟩
  · rintro ⟨⟨d, hfind⟩, rfl⟩
    obtain ⟨versions, hversions, hd⟩ := Option.bind_eq_some_iff.mp hfind
    exact ⟨name, versions, Entries.mem_of_find? hversions, version, d, Entries.mem_of_find? hd,
      rfl, rfl, rfl⟩

/-- The list is in the order of the names, and for one name in that of its versions. -/
theorem Arranged.pairwise_entries (h : r.Arranged) :
    r.entries.Pairwise fun a b => a.1 < b.1 ∨ a.1 = b.1 ∧ a.2.1 < b.2.1 := by
  unfold entries
  rw [List.pairwise_flatMap]
  constructor
  · rintro ⟨name, versions⟩ hmem
    have hversions : Entries.Ordered versions := h.versions name versions hmem
    rw [List.pairwise_map]
    exact hversions.imp fun hlt => .inr ⟨rfl, hlt⟩
  · refine h.names.imp ?_
    intro p q hlt a ha b hb
    obtain ⟨_, -, rfl⟩ := List.mem_map.mp ha
    obtain ⟨_, -, rfl⟩ := List.mem_map.mp hb
    exact .inl hlt

/-! ### All runs -/

/-- What calls make of an empty registry. -/
structure Reflects (calls : List Call) (r : Registry) : Prop where
  /-- The default version of a name is the last one that was chosen for it, or else the first one that
  was registered. -/
  default_iff : ∀ name version,
    r.defaults.find? name = some version ↔ DefaultVersion calls name version
  /-- Default versions are registered. -/
  registered_default : ∀ name version,
    r.defaults.find? name = some version → ∃ d, r.find? name version = some d
  /-- Names of registered dialects have a default version. -/
  exists_default : ∀ name version d,
    r.find? name version = some d → ∃ chosen, r.defaults.find? name = some chosen
  /-- No other calls than the choice of another one change the default version of a name. -/
  default_stays : ∀ name version more, r.defaults.find? name = some version →
    (∀ before c after, more = before ++ c :: after → ¬ Chooses name (calls ++ before) c) →
      (r.run more).defaults.find? name = some version
  /-- A version that is asked for is selected iff it is registered, as it was registered last. -/
  select_version : ∀ name version,
    ((∃ d, r.select name (some version) = .ok d) ↔ Registered calls name version) ∧
      ∀ d, r.select name (some version) = .ok d ↔ LastRegistered calls name version d
  /-- A dialect is selected by its name alone iff some version of it is registered, and then it is the
  default one, as it was registered last. -/
  select_default : ∀ name,
    ((∃ d, r.select name none = .ok d) ↔ ∃ version, Registered calls name version) ∧
      ∀ d, r.select name none = .ok d ↔
        ∃ version, DefaultVersion calls name version ∧ LastRegistered calls name version d
  /-- Other requests are refused. -/
  select_refused : ∀ name asked e,
    r.select name asked = .error e → e = .unknownDialect name (asked.getD "default")
  /-- A version that is registered can be chosen. -/
  choice_accepted : ∀ name version, Registered calls name version →
    r.chooseDefault name version = .ok (r.call (.chooseDefault name version))
  /-- The choice of any other version is refused and changes nothing. -/
  choice_refused : ∀ name version, ¬ Registered calls name version →
    r.chooseDefault name version = .error (.unknownDialect name version) ∧
      r.call (.chooseDefault name version) = r
  /-- Each version that is registered is listed, and no other; the mark tells the default version. -/
  mem_entries : ∀ name version isDefault, (name, version, isDefault) ∈ r.entries ↔
    Registered calls name version ∧ (isDefault = true ↔ DefaultVersion calls name version)
  /-- The list is sorted, so that no version is listed twice. -/
  entries_sorted : r.entries.Pairwise fun a b => a.1 < b.1 ∨ a.1 = b.1 ∧ a.2.1 < b.2.1
  /-- Of the versions of a name that are listed, one is marked as the default. -/
  entries_default : ∀ name version isDefault, (name, version, isDefault) ∈ r.entries →
    ∃! chosen, (name, chosen, true) ∈ r.entries

theorem reflects_run (calls : List Call) : Reflects calls (run {} calls) where
  default_iff := find?_defaults_run_iff calls
  registered_default name version h := by
    rw [find?_defaults_run_iff] at h
    exact (exists_find?_run_iff calls name version).mpr (registered_of_defaultVersion h)
  exists_default name version d h := by
    have hregistered : Registered calls name version :=
      (exists_find?_run_iff calls name version).mp ⟨d, h⟩
    obtain ⟨chosen, hchosen⟩ := exists_defaultVersion_iff.mpr ⟨version, hregistered⟩
    exact ⟨chosen, (find?_defaults_run_iff calls name chosen).mpr hchosen⟩
  default_stays name version more h hmore := by
    rw [find?_defaults_run_iff] at h
    rw [← run_append, find?_defaults_run_iff]
    exact defaultVersion_append h hmore
  select_version name version := by
    have hselect : ∀ d, (run {} calls).select name (some version) = .ok d ↔
        (run {} calls).find? name version = some d := by
      intro d
      rw [select_eq_ok_iff]
      simp
    simp only [hselect]
    exact ⟨exists_find?_run_iff calls name version, find?_run_iff calls name version⟩
  select_default name := by
    have hselect : ∀ d, (run {} calls).select name none = .ok d ↔
        ∃ version, DefaultVersion calls name version ∧ LastRegistered calls name version d := by
      intro d
      rw [select_eq_ok_iff, Option.none_or]
      simp only [find?_defaults_run_iff, find?_run_iff]
    refine ⟨?_, hselect⟩
    simp only [hselect, ← exists_defaultVersion_iff]
    constructor
    · rintro ⟨d, version, hdefault, -⟩
      exact ⟨version, hdefault⟩
    · rintro ⟨version, hdefault⟩
      obtain ⟨d, hd⟩ :=
        (exists_find?_run_iff calls name version).mpr (registered_of_defaultVersion hdefault)
      exact ⟨d, version, hdefault, (find?_run_iff calls name version d).mp hd⟩
  select_refused := select_fails _
  choice_accepted name version h := by
    obtain ⟨d, hd⟩ := (exists_find?_run_iff calls name version).mpr h
    rcases chooseDefault_eq (run {} calls) name version with ⟨-, hok⟩ | ⟨hnone, -⟩
    · exact hok
    · rw [hd] at hnone
      cases hnone
  choice_refused name version h := by
    rcases chooseDefault_eq (run {} calls) name version with ⟨hsome, -⟩ | ⟨-, hrefused⟩
    · exact absurd ((exists_find?_run_iff calls name version).mp hsome) h
    · exact hrefused
  mem_entries name version isDefault := by
    rw [(arranged_run calls).mem_entries, exists_find?_run_iff, Bool.eq_iff_iff, beq_iff_eq,
      find?_defaults_run_iff]
  entries_sorted := (arranged_run calls).pairwise_entries
  entries_default name version isDefault hmem := by
    obtain ⟨hfind, -⟩ := (arranged_run calls).mem_entries.mp hmem
    have hregistered : Registered calls name version :=
      (exists_find?_run_iff calls name version).mp hfind
    obtain ⟨chosen, hchosen⟩ := exists_defaultVersion_iff.mpr ⟨version, hregistered⟩
    have hmark : ∀ version', (name, version', true) ∈ (run {} calls).entries ↔
        DefaultVersion calls name version' := by
      intro version'
      rw [(arranged_run calls).mem_entries, exists_find?_run_iff, eq_comm, beq_iff_eq,
        find?_defaults_run_iff]
      exact and_iff_right_of_imp registered_of_defaultVersion
    refine ⟨chosen, (hmark chosen).mpr hchosen, ?_⟩
    intro version' hversion'
    exact defaultVersion_unique ((hmark version').mp hversion') hchosen

/-- **Registries reflect their history**, whether a run starts from the empty registry or from the one
of the library. -/
theorem run_reflects (calls : List Call) :
    Reflects calls (run {} calls) ∧ Reflects (shipped ++ calls) (builtin.run calls) := by
  refine ⟨reflects_run calls, ?_⟩
  rw [run_builtin]
  exact reflects_run (shipped ++ calls)

example : (builtin.run [.chooseDefault "terraform" "v1", .register "hcl" "v2" (.terraform "v14"),
    .chooseDefault "terraform" "v12"]).entries =
    [("hcl", "v2", true), ("terraform", "v12", true), ("terraform", "v14", false)] := by
  decide

end Groundplan.Registry
