import Mathlib.Data.List.Basic
import Mathlib.Data.Nat.Init

/-!
# Runs of a transition function

A system given by `step : σ → α → σ`: the state a list of actions leads to, what holds in
every state of a run and at every step of it, and the rules that reduce both to one step.

* `EveryStep.invariant`: an invariant kept by the steps that meet a guard holds along every
  run whose steps all meet it;
* `run_rel`: a relation that every step keeps to relates the two ends of a run;
* `everyState_iff_everyStep`, `everyStep_iff_everyStep`: when a guard is not only enough but
  needed at each step, the property of the runs and the guard are equivalent.
-/

namespace AetherEdge.Transition

variable {σ α : Type*} {step : σ → α → σ}

/-- Where the actions lead. -/
def run (step : σ → α → σ) (s : σ) (actions : List α) : σ :=
  actions.foldl step s

/-- `P` holds in every state the run passes through, the first and the last included. -/
def EveryState (step : σ → α → σ) (P : σ → Prop) (s : σ) (actions : List α) : Prop :=
  ∀ n ≤ actions.length, P (run step s (actions.take n))

/-- `P` holds of every action of the run and the state it is taken in. -/
def EveryStep (step : σ → α → σ) (P : σ → α → Prop) (s : σ) (actions : List α) : Prop :=
  ∀ n a, actions[n]? = some a → P (run step s (actions.take n)) a

@[simp] theorem run_nil (s : σ) : run step s [] = s := rfl

@[simp] theorem run_cons (s : σ) (a : α) (actions : List α) :
    run step s (a :: actions) = run step (step s a) actions := rfl

theorem run_append (s : σ) (first second : List α) :
    run step s (first ++ second) = run step (run step s first) second :=
  List.foldl_append

variable {actions : List α} {s : σ}

theorem run_take_succ {n : ℕ} {a : α} (h : actions[n]? = some a) :
    run step s (actions.take (n + 1)) = step (run step s (actions.take n)) a := by
  rw [List.take_add_one, h, Option.toList_some, run_append]
  rfl

@[simp] theorem everyState_nil {P : σ → Prop} : EveryState step P s [] ↔ P s := by
  simp [EveryState]

theorem everyState_cons {P : σ → Prop} {a : α} :
    EveryState step P s (a :: actions) ↔ P s ∧ EveryState step P (step s a) actions := by
  constructor
  · intro h
    refine ⟨h 0 (Nat.zero_le _), fun n hn => ?_⟩
    exact h (n + 1) (Nat.succ_le_succ hn)
  · rintro ⟨h0, h⟩ n hn
    cases n with
    | zero => exact h0
    | succ n => exact h n (Nat.le_of_succ_le_succ hn)

variable {P : σ → α → Prop}

@[simp] theorem everyStep_nil : EveryStep step P s [] ↔ True := by
  simp [EveryStep]

theorem everyStep_cons {a : α} :
    EveryStep step P s (a :: actions) ↔ P s a ∧ EveryStep step P (step s a) actions := by
  constructor
  · intro h
    exact ⟨h 0 a rfl, fun n b hb => h (n + 1) b hb⟩
  · rintro ⟨h0, h⟩ n b hb
    cases n with
    | zero => cases hb; exact h0
    | succ n => exact h n b hb

theorem everyStep_of_forall {P : α → Prop} (h : ∀ a ∈ actions, P a) (s : σ) :
    EveryStep step (fun _ a => P a) s actions :=
  fun _ a ha => h a (List.mem_of_getElem? ha)

theorem EveryState.last {P : σ → Prop} (h : EveryState step P s actions) :
    P (run step s actions) := by
  have := h actions.length (Nat.le_refl _)
  rwa [List.take_length] at this

section Rules

variable {Inv : σ → Prop} {Guard : σ → α → Prop}

/-- The invariant rule. -/
theorem EveryStep.invariant (hstep : ∀ s a, Inv s → Guard s a → Inv (step s a)) (hinit : Inv s)
    (hgd : EveryStep step Guard s actions) : EveryState step Inv s actions := by
  induction actions generalizing s with
  | nil => exact everyState_nil.2 hinit
  | cons a actions ih =>
    obtain ⟨ha, hrest⟩ := everyStep_cons.1 hgd
    exact everyState_cons.2 ⟨hinit, ih (hstep s a hinit ha) hrest⟩

theorem everyState_of_step (hstep : ∀ s a, Inv s → Inv (step s a)) (hinit : Inv s)
    (actions : List α) : EveryState step Inv s actions :=
  EveryStep.invariant (fun s a h _ => hstep s a h) hinit
    (everyStep_of_forall (fun _ _ => trivial) s)

theorem EveryStep.between (hgd : EveryStep step Guard s actions) {m n : ℕ} (hmn : m ≤ n)
    (hn : n ≤ actions.length) (hinit : Inv (run step s (actions.take m)))
    (hstep : ∀ k a, m ≤ k → k < n → actions[k]? = some a → Inv (run step s (actions.take k)) → Guard
      (run step s (actions.take k)) a → Inv (step (run step s (actions.take k)) a)) :
    Inv (run step s (actions.take n)) := by
  induction n, hmn using Nat.le_induction with
  | base => exact hinit
  | succ n hmn ih =>
    obtain ⟨a, ha⟩ : ∃ a, actions[n]? = some a := ⟨_, List.getElem?_eq_getElem hn⟩
    have hbef := ih (Nat.le_of_lt hn) fun k a hk hkn => hstep k a hk (Nat.lt_succ_of_lt hkn)
    rw [run_take_succ ha]
    exact hstep n a hmn (Nat.lt_succ_self n) ha hbef (hgd n a ha)

theorem EveryState.imp {P Q : σ → Prop} (h : ∀ s, P s → Q s) (hP : EveryState step P s actions) :
    EveryState step Q s actions :=
  fun n hn => h _ (hP n hn)

/-- A relation between the state before and after a step, wherever the invariant holds, relates the
    two ends of every run. -/
theorem run_rel {R : σ → σ → Prop} (hrefl : ∀ s, R s s) (htrans : ∀ {a b c}, R a b → R b c → R a c)
    (hinv : ∀ s a, Inv s → Inv (step s a)) (hstep : ∀ s a, Inv s → R s (step s a)) (hinit : Inv s)
    (actions : List α) : R s (run step s actions) := by
  induction actions generalizing s with
  | nil => exact hrefl s
  | cons a actions ih => exact htrans (hstep s a hinit) (ih (hinv s a hinit))

/-- What one step does wherever the invariant holds, it does at every step of a run that keeps
    it. -/
theorem EveryState.everyStep (hP : ∀ s a, Inv s → P s a) (h : EveryState step Inv s actions) :
    EveryStep step P s actions := by
  intro n a ha
  obtain ⟨hn, -⟩ := List.getElem?_eq_some_iff.1 ha
  exact hP _ a (h n (Nat.le_of_lt hn))

/-- A property of states that the invariant gives and that the first step against the guard
    destroys holds throughout exactly the runs that keep to the guard. -/
theorem everyState_iff_everyStep {P : σ → Prop} (hstep : ∀ s a, Inv s → Guard s a → Inv (step s a))
    (hgood : ∀ s, Inv s → P s) (hbad : ∀ s a, Inv s → ¬Guard s a → ¬P (step s a)) (hinit : Inv s)
    (actions : List α) : EveryState step P s actions ↔ EveryStep step Guard s actions := by
  refine ⟨fun h => ?_, fun h => (h.invariant hstep hinit).imp hgood⟩
  induction actions generalizing s with
  | nil => exact everyStep_nil.2 trivial
  | cons a actions ih =>
    obtain ⟨-, hrest⟩ := everyState_cons.1 h
    have ha : Guard s a := by
      by_contra hna
      exact hbad s a hinit hna (hrest 0 (Nat.zero_le _))
    exact everyStep_cons.2 ⟨ha, ih (hstep s a hinit ha) hrest⟩

/-- A property of steps that is equivalent to the guard wherever the invariant holds. -/
theorem everyStep_iff_everyStep (hstep : ∀ s a, Inv s → Guard s a → Inv (step s a))
    (hP : ∀ s a, Inv s → (P s a ↔ Guard s a)) (hinit : Inv s) (actions : List α) :
    EveryStep step P s actions ↔ EveryStep step Guard s actions := by
  induction actions generalizing s with
  | nil => simp
  | cons a actions ih =>
    rw [everyStep_cons, everyStep_cons, hP s a hinit]
    exact and_congr_right fun ha => ih (hstep s a hinit ha)

end Rules

end AetherEdge.Transition
