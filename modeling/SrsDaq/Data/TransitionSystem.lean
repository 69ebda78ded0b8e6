import Mathlib.Logic.Relation
import Mathlib.Tactic.ByContra

/-!
This module contains labelled transition systems whose steps can be computed, the rule for their
invariants, and the rule for properties that hold along a run if and only if the run avoids certain
steps.
-/

/--
A system takes the step `a` from the state `s` to `next s a`, and cannot take it if this is `none`.
-/
structure TransitionSystem (σ : Type) (α : Type) where
  init : σ
  next : σ → α → Option σ

namespace TransitionSystem

variable {σ τ α β : Type} (sys : TransitionSystem σ α)

def Step (s s' : σ) : Prop :=
  ∃ a, sys.next s a = some s'

def Leads : σ → σ → Prop :=
  Relation.ReflTransGen sys.Step

def Reachable (s : σ) : Prop :=
  sys.Leads sys.init s

def exec (s : σ) : List α → Option σ
  | [] => some s
  | a :: as => (sys.next s a).bind fun s' => exec s' as

variable {sys}

theorem Leads.refl (s : σ) : sys.Leads s s :=
  Relation.ReflTransGen.refl

theorem Leads.of_exec {s s' : σ} {as : List α} (h : sys.exec s as = some s') : sys.Leads s s' := by
  induction as generalizing s with
  | nil =>
    simp only [exec, Option.some.injEq] at h
    rw [h]
    exact .refl s'
  | cons a as ih =>
    simp only [exec, Option.bind_eq_some_iff] at h
    rcases h with ⟨t, hstep, hrest⟩
    exact Relation.ReflTransGen.head ⟨a, hstep⟩ (ih hrest)

theorem Reachable.of_exec {s : σ} {as : List α} (h : sys.exec sys.init as = some s)
    : sys.Reachable s :=
  Leads.of_exec h

theorem exec_of_total (h : ∀ s a, ∃ s', sys.next s a = some s') (s : σ) (as : List α)
    : ∃ s', sys.exec s as = some s' := by
  induction as generalizing s with
  | nil => exact ⟨s, rfl⟩
  | cons a as ih =>
    rcases h s a with ⟨t, hstep⟩
    rcases ih t with ⟨s', hrest⟩
    refine ⟨s', ?_⟩
    rw [exec, hstep, Option.bind_some, hrest]

theorem Leads.invariant {P : σ → Prop} (hstep : ∀ s a s', P s → sys.next s a = some s' → P s')
    {s s' : σ} (h : sys.Leads s s') (hs : P s)
    : P s' := by
  induction h with
  | refl => exact hs
  | tail _ hnext ih =>
    rcases hnext with ⟨a, ha⟩
    apply hstep _ a _ ih ha

theorem Reachable.invariant {P : σ → Prop} (hinit : P sys.init)
    (hstep : ∀ s a s', P s → sys.next s a = some s' → P s') {s : σ} (h : sys.Reachable s)
    : P s :=
  Leads.invariant hstep h hinit

/--
A system that runs inside of another one, in a part of its state.
-/
structure Projection (sys : TransitionSystem σ α) (sys' : TransitionSystem τ β) where
  view : σ → τ
  view_init : view sys.init = sys'.init
  view_next : ∀ s a s', sys.next s a = some s' →
    view s' = view s ∨ ∃ b, sys'.next (view s) b = some (view s')

namespace Projection

variable {sys' : TransitionSystem τ β} (proj : Projection sys sys')

theorem leads {s s' : σ} (h : sys.Leads s s') : sys'.Leads (proj.view s) (proj.view s') := by
  apply Relation.ReflTransGen.lift' proj.view _ _ _ h
  rintro s s' ⟨a, ha⟩
  rcases proj.view_next s a s' ha with hview | ⟨b, hb⟩
  . simp only [Function.onFun, hview]
    exact .refl
  . exact .single ⟨b, hb⟩

theorem reachable {s : σ} (h : sys.Reachable s) : sys'.Reachable (proj.view s) := by
  have hleads := proj.leads h
  rw [proj.view_init] at hleads
  exact hleads

end Projection

/--
A system whose steps another one can follow, with any number of its own.
-/
structure Simulation (sys : TransitionSystem σ α) (sys' : TransitionSystem τ β) where
  rel : σ → τ → Prop
  rel_init : rel sys.init sys'.init
  rel_next : ∀ s t a s', rel s t → sys.next s a = some s' → ∃ t', sys'.Leads t t' ∧ rel s' t'

namespace Simulation

variable {sys' : TransitionSystem τ β} (sim : Simulation sys sys')

theorem leads {s s' : σ} {t : τ} (h : sys.Leads s s') (hrel : sim.rel s t)
    : ∃ t', sys'.Leads t t' ∧ sim.rel s' t' := by
  induction h with
  | refl => exact ⟨t, .refl t, hrel⟩
  | tail _ hnext ih =>
    rcases ih with ⟨t', hleads, hrel'⟩
    rcases hnext with ⟨a, ha⟩
    rcases sim.rel_next _ t' a _ hrel' ha with ⟨t'', hrest, hrel''⟩
    exact ⟨t'', hleads.trans hrest, hrel''⟩

theorem reachable {s : σ} (h : sys.Reachable s) : ∃ t, sys'.Reachable t ∧ sim.rel s t :=
  sim.leads h sim.rel_init

end Simulation

/-
Systems that keep a record of their steps.
-/

variable {ε : Type}

variable (sys) in
def withHistory (record : σ → α → σ → List ε) : TransitionSystem (σ × List ε) α where
  init := (sys.init, [])
  next s a := (sys.next s.1 a).map fun s' => (s', s.2 ++ record s.1 a s')

theorem next_withHistory {record : σ → α → σ → List ε} {s s' : σ × List ε} {a : α}
    (h : (sys.withHistory record).next s a = some s')
    : sys.next s.1 a = some s'.1 ∧ s'.2 = s.2 ++ record s.1 a s'.1 := by
  simp only [withHistory, Option.map_eq_some_iff] at h
  rcases h with ⟨t, hnext, rfl⟩
  exact ⟨hnext, rfl⟩

/-
Systems that some of their states end.
-/

variable (sys) in
def haltsWhen (halted : σ → Bool) : TransitionSystem σ α where
  init := sys.init
  next s a := if halted s then none else sys.next s a

theorem next_haltsWhen {halted : σ → Bool} {s s' : σ} {a : α}
    : (sys.haltsWhen halted).next s a = some s' ↔ halted s = false ∧ sys.next s a = some s' := by
  unfold haltsWhen
  cases h : halted s <;> simp [h]

theorem leads_of_haltsWhen {halted : σ → Bool} {s s' : σ} (h : (sys.haltsWhen halted).Leads s s')
    : sys.Leads s s' := by
  induction h with
  | refl => exact .refl s
  | tail _ hnext ih =>
    rcases hnext with ⟨a, ha⟩
    exact Relation.ReflTransGen.tail ih ⟨a, (next_haltsWhen.mp ha).2⟩

/-
Runs that take certain steps only.
-/

variable (sys) in
def LeadsBy (ok : α → Prop) : σ → σ → Prop :=
  Relation.ReflTransGen fun s s' => ∃ a, ok a ∧ sys.next s a = some s'

theorem LeadsBy.invariant {P : σ → Prop} {ok : α → Prop}
    (hstep : ∀ s a s', P s → ok a → sys.next s a = some s' → P s') {s s' : σ}
    (h : sys.LeadsBy ok s s') (hs : P s)
    : P s' := by
  induction h with
  | refl => exact hs
  | tail _ hnext ih =>
    rcases hnext with ⟨a, hok, ha⟩
    apply hstep _ a _ ih hok ha

theorem LeadsBy.leads {ok : α → Prop} {s s' : σ} (h : sys.LeadsBy ok s s') : sys.Leads s s' := by
  induction h with
  | refl => exact .refl s
  | tail _ hnext ih =>
    rcases hnext with ⟨a, _, ha⟩
    exact Relation.ReflTransGen.tail ih ⟨a, ha⟩

/--
A goal can be reached if every state short of it has a step that comes closer to it.
-/
theorem exists_leadsBy {Inv Goal : σ → Prop} {ok : α → Prop} (remaining : σ → Nat)
    (hprogress : ∀ s, Inv s → ¬ Goal s → ∃ a s', ok a ∧ sys.next s a = some s' ∧ Inv s'
      ∧ remaining s' < remaining s)
    {s : σ} (hs : Inv s)
    : ∃ s', sys.LeadsBy ok s s' ∧ Goal s' := by
  by_cases hgoal : Goal s
  . exact ⟨s, Relation.ReflTransGen.refl, hgoal⟩
  . rcases hprogress s hs hgoal with ⟨a, t, hok, hnext, ht, hless⟩
    rcases exists_leadsBy remaining hprogress ht with ⟨s', hleads, hs'⟩
    exact ⟨s', Relation.ReflTransGen.head ⟨a, hok, hnext⟩ hleads, hs'⟩
termination_by remaining s

/-
Properties of runs.
-/

variable (sys) in
/--
The property holds in every state that the run passes through.
-/
def Along (P : σ → Prop) (s : σ) : List α → Prop
  | [] => P s
  | a :: as => P s ∧ ∀ s', sys.next s a = some s' → Along P s' as

theorem Along.last {P : σ → Prop} {s s' : σ} {as : List α} (h : sys.Along P s as)
    (hexec : sys.exec s as = some s')
    : P s' := by
  induction as generalizing s with
  | nil =>
    simp only [exec, Option.some.injEq] at hexec
    rw [← hexec]
    exact h
  | cons a as ih =>
    simp only [exec, Option.bind_eq_some_iff] at hexec
    rcases hexec with ⟨t, hstep, hrest⟩
    apply ih (h.2 t hstep) hrest

variable (sys) in
def StepsMeet (ok : σ → α → Prop) (s : σ) : List α → Prop
  | [] => True
  | a :: as => ok s a ∧ ∀ s', sys.next s a = some s' → StepsMeet ok s' as

theorem stepsMeet_cons {ok : σ → α → Prop} {s s' : σ} {a : α} (h : sys.next s a = some s')
    (as : List α)
    : sys.StepsMeet ok s (a :: as) ↔ ok s a ∧ sys.StepsMeet ok s' as := by
  simp [StepsMeet, h]

instance decidableStepsMeet (ok : σ → α → Prop) [∀ s a, Decidable (ok s a)]
    : (s : σ) → (as : List α) → Decidable (sys.StepsMeet ok s as)
  | _, [] => .isTrue trivial
  | s, a :: as =>
    match h : sys.next s a with
    | none => decidable_of_iff (ok s a) (by simp [StepsMeet, h])
    | some s' =>
      have := decidableStepsMeet ok s' as
      decidable_of_iff (ok s a ∧ sys.StepsMeet ok s' as) (stepsMeet_cons h as).symm

theorem stepsMeet_of_forall {ok : σ → α → Prop} {as : List α} (h : ∀ a ∈ as, ∀ s, ok s a) (s : σ)
    : sys.StepsMeet ok s as := by
  induction as generalizing s with
  | nil => trivial
  | cons a as ih =>
    constructor
    . apply h a List.mem_cons_self
    . intro s' _
      apply ih
      intro b hb
      apply h b (List.mem_cons_of_mem a hb)

theorem along_of_stepsMeet {P Inv : σ → Prop} {ok : σ → α → Prop} (hinv : ∀ s, Inv s → P s)
    (hgood : ∀ s a s', Inv s → ok s a → sys.next s a = some s' → Inv s')
    {s : σ} {as : List α} (hs : Inv s) (hsteps : sys.StepsMeet ok s as)
    : sys.Along P s as := by
  induction as generalizing s with
  | nil => apply hinv s hs
  | cons a as ih =>
    constructor
    . apply hinv s hs
    . intro s' hstep
      apply ih
      . apply hgood s a s' hs hsteps.1 hstep
      . apply hsteps.2 s' hstep

/--
If the steps that meet the condition preserve an invariant which gives the property, and every other
step ends the property, then the property holds along a run exactly when its steps meet the
condition.
-/
theorem along_iff_stepsMeet {P Inv : σ → Prop} {ok : σ → α → Prop} (hinv : ∀ s, Inv s → P s)
    (hgood : ∀ s a s', Inv s → ok s a → sys.next s a = some s' → Inv s')
    (hbad : ∀ s a s', Inv s → ¬ ok s a → sys.next s a = some s' → ¬ P s')
    {s s' : σ} {as : List α} (hs : Inv s) (hexec : sys.exec s as = some s')
    : sys.Along P s as ↔ sys.StepsMeet ok s as := by
  constructor
  . intro halong
    induction as generalizing s with
    | nil => trivial
    | cons a as ih =>
      simp only [exec, Option.bind_eq_some_iff] at hexec
      rcases hexec with ⟨t, hstep, hrest⟩
      have hok : ok s a := by
        by_contra hok
        apply hbad s a t hs hok hstep
        cases as with
        | nil => apply halong.2 t hstep
        | cons b as => exact (halong.2 t hstep).1
      constructor
      . exact hok
      . intro t' hstep'
        rw [hstep] at hstep'
        cases hstep'
        apply ih (hgood s a t hs hok hstep) hrest (halong.2 t hstep)
  . apply along_of_stepsMeet hinv hgood hs

end TransitionSystem
