import AetherEdge.Common.Transition
import Mathlib.Logic.Function.Basic

/-!
# Programs of atomic operations

Asynchronous code as a tree of atomic operations: between two operations other tasks may run.

* `Program`: the programs over an interface of operations, a monad;
* `eval`: a program run alone, every operation answered by a handler, and `Always`: what it ends
  with whatever the answers, `Calls`: which operations it performs, `Ensures`: what it ends with and
  leaves wherever it starts;
* `Machine`, `Config`, `step`: tasks that take turns on a shared state. An operation may have to
  wait, a task may be dropped between any two of its operations, and the state may be changed
  from outside. A task that ends reports its result;
* `Safe`: what a task guarantees when the others only do what it relies on, and
  `Triple` with its rules for one operation and for sequences;
* `RelyGuarantee.reports`: in every run of tasks that are `Safe` every report meets its
  postcondition.
-/

namespace AetherEdge

/-- The atomic operations of a program and what each answers. -/
structure Interface where
  Op : Type
  Response : Op → Type

/-- A program that ends with a value of type `α`. -/
inductive Program (I : Interface) (α : Type) where
  | done (value : α)
  | call (op : I.Op) (next : I.Response op → Program I α)

namespace Program

variable {I : Interface} {α β γ σ : Type}

/-- One program after another. -/
def bind : Program I α → (α → Program I β) → Program I β
  | done value, f => f value
  | call op next, f => call op fun response => (next response).bind f

instance : Monad (Program I) where
  pure := done
  bind := bind

/-- One operation. -/
def perform (op : I.Op) : Program I (I.Response op) := call op done

@[simp] theorem pure_eq_done (value : α) : (pure value : Program I α) = done value := rfl

@[simp] theorem done_bind (value : α) (f : α → Program I β) : (done value >>= f) = f value := rfl

@[simp] theorem call_bind (op : I.Op) (next : I.Response op → Program I α) (f : α → Program I β) :
    (call op next >>= f) = call op fun response => next response >>= f := rfl

/-! ## A program alone -/

/-- The value a program ends with, and the state it leaves, when `handle` answers its
    operations. -/
def eval (handle : σ → (op : I.Op) → I.Response op × σ) : Program I α → σ → α × σ
  | done value, s => (value, s)
  | call op next, s => (next (handle s op).1).eval handle (handle s op).2

variable {handle : σ → (op : I.Op) → I.Response op × σ}

@[simp] theorem eval_done (value : α) (s : σ) :
    (done value : Program I α).eval handle s = (value, s) := rfl

@[simp] theorem eval_call (op : I.Op) (next : I.Response op → Program I α) (s : σ) :
    (call op next).eval handle s = (next (handle s op).1).eval handle (handle s op).2 := rfl

@[simp] theorem eval_bind (p : Program I α) (f : α → Program I β) (s : σ) :
    (p >>= f).eval handle s = (f (p.eval handle s).1).eval handle (p.eval handle s).2 := by
  induction p generalizing s with
  | done value => rfl
  | call op next ih => exact ih _ _

/-- A relation that every operation keeps to relates the two ends of a program. -/
theorem eval_rel {R : σ → σ → Prop} (hrefl : ∀ s, R s s) (htrans : ∀ {a b c}, R a b → R b c → R a c)
    (hop : ∀ s op, R s (handle s op).2) (p : Program I α) (s : σ) : R s (p.eval handle s).2 := by
  induction p generalizing s with
  | done value => exact hrefl s
  | call op next ih => exact htrans (hop s op) (ih _ _)

/-! ## What a program ends with, whatever the answers -/

variable {p : Program I α} {f : α → Program I β} {op : I.Op} {next : I.Response op → Program I α}

/-- The program only ends with values that meet `P`. -/
def Always (P : α → Prop) : Program I α → Prop
  | done value => P value
  | call op next => ∀ response : I.Response op, (next response).Always P

theorem always_of_forall {P : α → Prop} (h : ∀ value, P value) (p : Program I α) : p.Always P := by
  induction p with
  | done value => exact h value
  | call op next ih => exact ih

theorem Always.mono {P Q : α → Prop} (hp : p.Always P) (h : ∀ value, P value → Q value) :
    p.Always Q := by
  induction p with
  | done value => exact h value hp
  | call op next ih => exact fun response => ih response (hp response)

theorem always_bind {P : β → Prop} (h : p.Always fun value => (f value).Always P) :
    (p >>= f).Always P := by
  induction p with
  | done value => exact h
  | call op next ih => exact fun response => ih response (h response)

/-- Only what follows `p` decides. -/
theorem always_bind_of_forall {P : β → Prop} (p : Program I α) (h : ∀ value, (f value).Always P) :
    (p >>= f).Always P :=
  always_bind (always_of_forall h p)

theorem Always.eval {P : α → Prop} (h : p.Always P) (s : σ) : P (p.eval handle s).1 := by
  induction p generalizing s with
  | done value => exact h
  | call op next ih => exact ih _ (h _) _

/-! ## Which operations a program performs -/

/-- The program only performs operations that meet `P`. -/
def Calls (P : I.Op → Prop) : Program I α → Prop
  | done _ => True
  | call op next => P op ∧ ∀ response, (next response).Calls P

theorem calls_call {P : I.Op → Prop} (hop : P op) (hnext : ∀ response, (next response).Calls P) :
    (call op next).Calls P := ⟨hop, hnext⟩

/-- The sequencing rule; what follows may use what `p` ends with. -/
theorem calls_bind_of_always {P : I.Op → Prop} {A : α → Prop} (hp : p.Calls P) (hA : p.Always A)
    (hf : ∀ value, A value → (f value).Calls P) : (p >>= f).Calls P := by
  induction p with
  | done value => exact hf value hA
  | call op next ih => exact ⟨hp.1, fun response => ih response (hp.2 response) (hA response)⟩

theorem calls_bind {P : I.Op → Prop} (hp : p.Calls P) (hf : ∀ value, (f value).Calls P) :
    (p >>= f).Calls P :=
  calls_bind_of_always hp (always_of_forall (fun _ => trivial) p) fun value _ => hf value

/-- A relation that the operations the program performs keep to relates its two ends. -/
theorem Calls.eval_rel {P : I.Op → Prop} {R : σ → σ → Prop} (hrefl : ∀ s, R s s)
    (htrans : ∀ {a b c}, R a b → R b c → R a c) (hop : ∀ s op, P op → R s (handle s op).2)
    (hp : p.Calls P) (s : σ) : R s (p.eval handle s).2 := by
  induction p generalizing s with
  | done value => exact hrefl s
  | call op next ih => exact htrans (hop s op hp.1) (ih _ (hp.2 _) _)

/-! ## What a program leaves, wherever it starts -/

variable {value : α} {P : σ → Prop} {Q : α → σ → Prop}

variable (handle) in
/-- Run alone, from any state, the program ends with a value and in a state that meet `Q`. -/
def Ensures (Q : α → σ → Prop) (p : Program I α) : Prop :=
  ∀ s, Q (p.eval handle s).1 (p.eval handle s).2

theorem Always.ensures {P : α → Prop} (h : p.Always P) (hQ : ∀ value s, P value → Q value s) :
    p.Ensures handle Q :=
  fun s => hQ _ _ (h.eval s)

theorem ensures_done (h : ∀ s, Q value s) :
    (done value : Program I α).Ensures handle Q := h

theorem ensures_call (h : ∀ response, (next response).Ensures handle Q) :
    (call op next).Ensures handle Q :=
  fun _ => h _ _

theorem ensures_bind {Q : β → σ → Prop} (p : Program I α)
    (h : ∀ value, (f value).Ensures handle Q) : (p >>= f).Ensures handle Q := by
  intro s
  rw [eval_bind]
  exact h _ _

variable (handle) in
/-- Run alone from a state that meets `P`, the program ends with a value and in a state that meet
    `Q`. -/
def Leads (P : σ → Prop) (p : Program I α) (Q : α → σ → Prop) : Prop :=
  ∀ s, P s → Q (p.eval handle s).1 (p.eval handle s).2

theorem leads_done (h : ∀ s, P s → Q value s) :
    Leads handle P (done value : Program I α) Q := h

theorem leads_call {R : I.Response op → σ → Prop}
    (hop : ∀ s, P s → R (handle s op).1 (handle s op).2)
    (hnext : ∀ response, Leads handle (R response) (next response) Q) :
    Leads handle P (call op next) Q :=
  fun s hs => hnext _ _ (hop s hs)

theorem Leads.bind {R : α → σ → Prop} {Q : β → σ → Prop} (hp : Leads handle P p R)
    (hf : ∀ value, Leads handle (R value) (f value) Q) : Leads handle P (p >>= f) Q := by
  intro s hs
  rw [eval_bind]
  exact hf _ _ (hp s hs)

/-- The sequencing rule for a program whose value is known. -/
theorem Leads.bind_of_eq {P R : σ → Prop} {Q : β → σ → Prop}
    (hp : Leads handle P p fun result s => result = value ∧ R s) (hf : Leads handle R (f value) Q) :
    Leads handle P (p >>= f) Q := by
  refine hp.bind fun result => ?_
  rintro s ⟨rfl, hs⟩
  exact hf s hs

theorem Leads.conseq {P P' : σ → Prop} {Q Q' : α → σ → Prop} (h : Leads handle P p Q)
    (hpre : ∀ s, P' s → P s) (hpost : ∀ value s, Q value s → Q' value s) : Leads handle P' p Q' :=
  fun s hs => hpost _ _ (h s (hpre s hs))

theorem Leads.pre {P P' : σ → Prop} (h : Leads handle P p Q) (hpre : ∀ s, P' s → P s) :
    Leads handle P' p Q :=
  h.conseq hpre fun _ _ h => h

/-- An assertion that the operations of the program keep. -/
theorem Calls.leads {ok : I.Op → Prop} (hp : p.Calls ok)
    (hop : ∀ s op, ok op → P s → P (handle s op).2) : Leads handle P p fun _ => P :=
  hp.eval_rel (R := fun s s' => P s → P s') (fun _ h => h) (fun h h' hs => h' (h hs)) hop

theorem Always.leads {A : α → Prop} (hA : p.Always A) (h : Leads handle P p Q) :
    Leads handle P p fun value s => A value ∧ Q value s :=
  fun s hs => ⟨hA.eval s, h s hs⟩

end Program

/-! ## Tasks on a shared state -/

/-- How tasks named by `τ` perform operations on a shared state `σ`; what the outside decides
    (that an operation fails, say) is a choice of type `χ`. -/
structure Machine (I : Interface) (τ χ σ : Type) where
  enabled : τ → I.Op → σ → Prop
  decEnabled : ∀ t op s, Decidable (enabled t op s)
  apply : τ → (op : I.Op) → χ → σ → I.Response op × σ
  /-- What the end of a task, or its being dropped, gives up. -/
  release : τ → σ → σ

/-- The shared state, the rest of each running task, and the reports: who ended with which result
    in which state. -/
structure Config (I : Interface) (τ σ α : Type) where
  shared : σ
  tasks : τ → Option (Program I α)
  reports : List (τ × α × σ)

/-- What may happen next. -/
inductive Turn (I : Interface) (τ χ σ α : Type) where
  | start (task : τ) (program : Program I α)
  | turn (task : τ) (choice : χ)
  | drop (task : τ)
  | outside (change : σ → σ)

namespace Machine

variable {I : Interface} {τ χ σ α : Type} [DecidableEq τ] (M : Machine I τ χ σ)

/-- The task goes on with `program` in the state `s`; at its end it reports and gives up what it
    holds. -/
def settle (config : Config I τ σ α) (t : τ) (s : σ) : Program I α → Config I τ σ α
  | .done value =>
    { shared := M.release t s
      tasks := Function.update config.tasks t none
      reports := config.reports ++ [(t, value, s)] }
  | .call op next =>
    { config with shared := s, tasks := Function.update config.tasks t (some (.call op next)) }

/-- One step. A task that has ended, or whose next operation has to wait, does not move. -/
def step (config : Config I τ σ α) : Turn I τ χ σ α → Config I τ σ α
  | .start t program =>
    match config.tasks t with
    | some _ => config
    | none => M.settle config t config.shared program
  | .turn t choice =>
    match config.tasks t with
    | some (.call op next) =>
      match M.decEnabled t op config.shared with
      | .isTrue _ =>
        let (response, s) := M.apply t op choice config.shared
        M.settle config t s (next response)
      | .isFalse _ => config
    | _ => config
  | .drop t =>
    match config.tasks t with
    | some _ =>
      { config with
        shared := M.release t config.shared
        tasks := Function.update config.tasks t none }
    | none => config
  | .outside change => { config with shared := change config.shared }

theorem tasks_settle_of_ne (config : Config I τ σ α) {t u : τ} (hne : u ≠ t) (s : σ)
    (program : Program I α) : (M.settle config t s program).tasks u = config.tasks u := by
  cases program with
  | done | call => exact Function.update_of_ne hne _ _

theorem tasks_settle_done (config : Config I τ σ α) (t : τ) (s : σ) (value : α) :
    (M.settle config t s (.done value)).tasks t = none :=
  Function.update_self ..

theorem tasks_settle_call (config : Config I τ σ α) (t : τ) (s : σ) (op : I.Op)
    (next : I.Response op → Program I α) :
    (M.settle config t s (.call op next)).tasks t = some (.call op next) :=
  Function.update_self ..

end Machine

/-! ## Rely and guarantee -/

section Safe

variable {I : Interface} {τ χ σ α β : Type} (M : Machine I τ χ σ) (rely : τ → σ → σ → Prop)

/-- Whatever the others do that `t` relies on: every operation of the program does only what the
    others rely on, and its value meets `Q` in the state it ends in. -/
def Safe (t : τ) (Q : α → σ → Prop) : Program I α → σ → Prop
  | .done value, s => Q value s
  | .call op next, s =>
    ∀ s', rely t s s' → M.enabled t op s' → ∀ choice,
      (∀ u, u ≠ t → rely u s' (M.apply t op choice s').2) ∧
        Safe t Q (next (M.apply t op choice s').1) (M.apply t op choice s').2

variable {M rely} {t : τ} {op : I.Op} {next : I.Response op → Program I α} {s : σ}
  {Q : α → σ → Prop}

theorem safe_call :
    Safe M rely t Q (.call op next) s ↔
      ∀ s', rely t s s' → M.enabled t op s' → ∀ choice,
        (∀ u, u ≠ t → rely u s' (M.apply t op choice s').2) ∧
          Safe M rely t Q (next (M.apply t op choice s').1) (M.apply t op choice s').2 := Iff.rfl

variable {p : Program I α}

theorem Safe.mono {R : α → σ → Prop} (h : ∀ value s, Q value s → R value s)
    (hp : Safe M rely t Q p s) : Safe M rely t R p s := by
  induction p generalizing s with
  | done value => exact h value s hp
  | call op next ih =>
    intro s' hs' henab choice
    obtain ⟨hothers, hnext⟩ := hp s' hs' henab choice
    exact ⟨hothers, ih _ hnext⟩

variable {f : α → Program I β}

theorem safe_bind {Q : β → σ → Prop} :
    Safe M rely t Q (p >>= f) s ↔
      Safe M rely t (fun value s => Safe M rely t Q (f value) s) p s := by
  induction p generalizing s with
  | done value => rfl
  | call op next ih =>
    simp only [Program.call_bind, safe_call, ih]

theorem Safe.bind {Q : β → σ → Prop} {R : α → σ → Prop} (hp : Safe M rely t R p s)
    (hf : ∀ value s, R value s → Safe M rely t Q (f value) s) : Safe M rely t Q (p >>= f) s :=
  safe_bind.2 (hp.mono hf)

variable (M rely t) in
/-- From every state that meets `P` the program is safe with the postcondition `Q`. -/
def Triple (P : σ → Prop) (p : Program I α) (Q : α → σ → Prop) : Prop :=
  ∀ s, P s → Safe M rely t Q p s

variable {P : σ → Prop}

theorem triple_done {value : α} (h : ∀ s, P s → Q value s) :
    Triple M rely t P (.done value) Q := h

theorem Triple.bind {R : α → σ → Prop} {Q : β → σ → Prop} (hp : Triple M rely t P p R)
    (hf : ∀ value, Triple M rely t (R value) (f value) Q) : Triple M rely t P (p >>= f) Q :=
  fun s hs => (hp s hs).bind fun value s hvl => hf value s hvl

theorem Triple.conseq {P' : σ → Prop} {Q' : α → σ → Prop} (h : Triple M rely t P p Q)
    (hpre : ∀ s, P' s → P s) (hpost : ∀ value s, Q value s → Q' value s) :
    Triple M rely t P' p Q' :=
  fun s hs => (h s (hpre s hs)).mono hpost

theorem Triple.pre {P' : σ → Prop} (h : Triple M rely t P p Q) (hpre : ∀ s, P' s → P s) :
    Triple M rely t P' p Q :=
  h.conseq hpre fun _ _ h => h

/-- The rule of one operation: its precondition survives what the others do. -/
theorem triple_call {R : I.Response op → σ → Prop} (hstab : ∀ s s', rely t s s' → P s → P s')
    (hop : ∀ s, P s → M.enabled t op s → ∀ choice, (∀ u, u ≠ t → rely u s (M.apply t op choice
      s).2) ∧ R (M.apply t op choice s).1 (M.apply t op choice s).2)
    (hnext : ∀ response, Triple M rely t (R response) (next response) Q) :
    Triple M rely t P (.call op next) Q := by
  intro s hs s' hs' henab choice
  obtain ⟨hothers, hR⟩ := hop s' (hstab s s' hs' hs) henab choice
  exact ⟨hothers, hnext _ _ hR⟩

/-- A program that is not at its end stays safe while the others do what it relies on. -/
theorem Safe.of_rely (htrans : ∀ {a b c}, rely t a b → rely t b c → rely t a c) {s' : σ}
    (h : Safe M rely t Q (.call op next) s) (hs : rely t s s') :
    Safe M rely t Q (.call op next) s' :=
  fun _ hs' => h _ (htrans hs hs')

end Safe

section Soundness

variable {I : Interface} {τ χ σ α : Type} [DecidableEq τ] {M : Machine I τ χ σ}
  {rely : τ → σ → σ → Prop} {idle : τ → σ → Prop} {Q : τ → α → σ → Prop}

/-- What tasks rely on composes, and a task that has ended does not disturb the others. -/
structure RelyGuarantee (M : Machine I τ χ σ) (rely : τ → σ → σ → Prop) (idle : τ → σ → Prop) :
    Prop where
  refl : ∀ t s, rely t s s
  trans : ∀ t {a b c}, rely t a b → rely t b c → rely t a c
  idle_rely : ∀ t {s s'}, idle t s → rely t s s' → idle t s'
  release_rely : ∀ t u s, u ≠ t → rely u s (M.release t s)
  release_idle : ∀ t s, idle t (M.release t s)

variable (M rely idle Q) in
/-- Only safe programs are started, and the outside does only what every task relies on. -/
def Admitted (config : Config I τ σ α) : Turn I τ χ σ α → Prop
  | .start t program => ∀ s, idle t s → Safe M rely t (Q t) program s
  | .outside change => ∀ t, rely t config.shared (change config.shared)
  | _ => True

variable (M rely idle Q) in
/-- What every state of an admitted run keeps. -/
structure Sound (config : Config I τ σ α) : Prop where
  running : ∀ t program, config.tasks t = some program →
    Safe M rely t (Q t) program config.shared ∧ ∃ op next, program = .call op next
  idle : ∀ t, config.tasks t = none → idle t config.shared
  reports : ∀ t value s, (t, value, s) ∈ config.reports → Q t value s

omit [DecidableEq τ] in
/-- The other tasks of a sound state stay sound under a change they rely on. -/
theorem Sound.others (hrg : RelyGuarantee M rely idle) {config : Config I τ σ α}
    (h : Sound M rely idle Q config) {s : σ} {u : τ} (hs : rely u config.shared s) :
    (∀ program, config.tasks u = some program →
      Safe M rely u (Q u) program s ∧ ∃ op next, program = .call op next) ∧
    (config.tasks u = none → idle u s) := by
  refine ⟨fun program hu => ?_, fun hu => hrg.idle_rely u (h.idle u hu) hs⟩
  obtain ⟨hsafe, op, next, rfl⟩ := h.running u program hu
  exact ⟨hsafe.of_rely (hrg.trans u) hs, op, next, rfl⟩

variable {config : Config I τ σ α}

theorem Sound.settle (hrg : RelyGuarantee M rely idle) (h : Sound M rely idle Q config) {t : τ}
    {s : σ} {program : Program I α} (hothers : ∀ u, u ≠ t → rely u config.shared s)
    (hsafe : Safe M rely t (Q t) program s) :
    Sound M rely idle Q (M.settle config t s program) := by
  cases program with
  | done value =>
    have haft : ∀ u, u ≠ t → rely u config.shared (M.release t s) := fun u hu =>
      hrg.trans u (hothers u hu) (hrg.release_rely t u s hu)
    constructor
    · intro u program hu
      have hne : u ≠ t := by
        rintro rfl
        rw [M.tasks_settle_done] at hu
        cases hu
      rw [M.tasks_settle_of_ne config hne] at hu
      exact (h.others hrg (haft u hne)).1 program hu
    · intro u hu
      by_cases hne : u = t
      · rw [hne]
        exact hrg.release_idle t s
      · rw [M.tasks_settle_of_ne config hne] at hu
        exact (h.others hrg (haft u hne)).2 hu
    · intro u result s' hmem
      rcases List.mem_append.1 hmem with hold | hnew
      · exact h.reports u result s' hold
      · cases List.mem_singleton.1 hnew
        exact hsafe
  | call op next =>
    constructor
    · intro u program hu
      by_cases hne : u = t
      · subst hne
        rw [M.tasks_settle_call] at hu
        cases hu
        exact ⟨hsafe, op, next, rfl⟩
      · rw [M.tasks_settle_of_ne config hne] at hu
        exact (h.others hrg (hothers u hne)).1 program hu
    · intro u hu
      have hne : u ≠ t := by
        rintro rfl
        rw [M.tasks_settle_call] at hu
        cases hu
      rw [M.tasks_settle_of_ne config hne] at hu
      exact (h.others hrg (hothers u hne)).2 hu
    · exact h.reports

theorem Sound.step (hrg : RelyGuarantee M rely idle) (h : Sound M rely idle Q config)
    {turn : Turn I τ χ σ α} (hturn : Admitted M rely idle Q config turn) :
    Sound M rely idle Q (M.step config turn) := by
  cases turn with
  | start t program =>
    rw [Machine.step]
    cases ht : config.tasks t with
    | some _ => exact h
    | none => exact h.settle hrg (fun u _ => hrg.refl u _) (hturn _ (h.idle t ht))
  | turn t choice =>
    rw [Machine.step]
    rcases ht : config.tasks t with _ | program
    · exact h
    obtain ⟨hsafe, op, next, rfl⟩ := h.running t program ht
    dsimp only
    cases M.decEnabled t op config.shared with
    | isFalse _ => exact h
    | isTrue henab =>
      obtain ⟨hothers, hnext⟩ := hsafe _ (hrg.refl t _) henab choice
      exact h.settle hrg hothers hnext
  | drop t =>
    rw [Machine.step]
    rcases ht : config.tasks t with _ | program
    · exact h
    dsimp only
    constructor
    · intro u other hu
      dsimp only at hu
      have hne : u ≠ t := by
        rintro rfl
        simp at hu
      rw [Function.update_of_ne hne] at hu
      exact (h.others hrg (hrg.release_rely t u _ hne)).1 other hu
    · intro u hu
      dsimp only at hu
      by_cases hne : u = t
      · rw [hne]
        exact hrg.release_idle t _
      · rw [Function.update_of_ne hne] at hu
        exact (h.others hrg (hrg.release_rely t u _ hne)).2 hu
    · exact h.reports
  | outside change =>
    constructor
    · intro u program hu
      exact (h.others hrg (hturn u)).1 program hu
    · intro u hu
      exact (h.others hrg (hturn u)).2 hu
    · exact h.reports

open Transition in
/-- In every admitted run that starts with no task, every report meets its postcondition. -/
theorem RelyGuarantee.reports (hrg : RelyGuarantee M rely idle) {s : σ} (hidle : ∀ t, idle t s)
    {turns : List (Turn I τ χ σ α)}
    (hturns : EveryStep M.step (Admitted M rely idle Q) ⟨s, fun _ => none, []⟩ turns) :
    ∀ report ∈ (run M.step ⟨s, fun _ => none, []⟩ turns).reports,
      Q report.1 report.2.1 report.2.2 := by
  have hstart : Sound M rely idle Q ⟨s, fun _ => none, []⟩ := by
    constructor
    · intro t program ht
      cases ht
    · exact fun t _ => hidle t
    · intro t value s' hmem
      cases hmem
  have hevery : EveryState M.step (Sound M rely idle Q) ⟨s, fun _ => none, []⟩ turns := by
    refine EveryStep.invariant ?_ hstart hturns
    exact fun config turn h hturn => h.step hrg hturn
  rintro ⟨t, value, s'⟩ hmem
  exact hevery.last.reports t value s' hmem

end Soundness

end AetherEdge
