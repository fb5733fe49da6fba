import AetherEdge.Rules.RetryHold

/-!
# Cooldowns

An automatic execution that succeeds with an action starts the cooldown of its rule at the time
of its tick. `start` takes ticks and watch events one after another, each to
its end, and the clock does not go back (`Follows`); manual executions and reloads come at any
time.

* `Cooling`: a cooldown that was started at some time has not been lost or moved back since. It is
  an invariant while the rule stays loaded;
* `cooldown_respected`: a completion that finds the hold it was selected with starts a cooldown
  that every later selection waits for;
* `cooldown_lost`: a completion that does not.
-/

namespace AetherEdge.Rules

open Transition List

/-! ## Time -/

/-- The time that a step reads off the clock. -/
def Op.now? : Op → Option ℕ
  | .sample _ now _ => some now
  | .complete _ _ now _ => some now
  | _ => none

/-- The scheduler, and the last time that was read. -/
structure Clocked where
  state : State
  clock : ℕ

/-- At the start. -/
def Clocked.initial : Clocked := ⟨State.initial, 0⟩

/-- A step, and the clock after it. -/
def clockedStep (libs : Libraries) (c : Clocked) (op : Op) : Clocked :=
  ⟨step libs c.state op, op.now?.getD c.clock⟩

/-- The time of the selection of an automatic execution. -/
def Job.selectedAt : Job → Option ℕ
  | .automatic _ _ now _ => some now
  | .manual .. => none

/-- What the loop of `start` and the clock guarantee: a tick or watch event begins when the one
    before it has been recorded, and the clock does not go back. -/
structure Follows (c : Clocked) (op : Op) : Prop where
  clock : ∀ now, op.now? = some now → c.clock ≤ now
  serial : ∀ cause now live, op = .sample cause now live →
    c.state.passes = [] ∧ ∀ running ∈ c.state.running, running.job.selectedAt = none

variable {c : Clocked} {op : Op}

theorem follows_iff : Follows c op ↔
    match op with
    | .sample _ now _ => c.clock ≤ now ∧ c.state.passes = [] ∧
        ∀ running ∈ c.state.running, running.job.selectedAt = none
    | .complete _ _ now _ => c.clock ≤ now
    | _ => True := by
  constructor
  · intro h
    cases op with
    | sample cause now live => exact ⟨h.clock now rfl, h.serial cause now live rfl⟩
    | complete i exec now current => exact h.clock now rfl
    | _ => trivial
  · intro h
    cases op with
    | sample => exact ⟨fun _ hnow => Option.some.inj hnow ▸ h.1, fun _ _ _ _ => h.2⟩
    | complete => exact ⟨fun _ hnow => Option.some.inj hnow ▸ h, nofun⟩
    | _ => exact ⟨nofun, nofun⟩

/-! ## Executions and selections -/

section Cooldown

variable (libs : Libraries)

/-- The step records an automatic execution that was selected at `time` and has succeeded with an
    action. -/
def Succeeds (s : State) (op : Op) (selection : ExecutionSelection) (time : ℕ) : Prop :=
  ∃ i exec now current isOnchange snapshot since, op = .complete i exec now current ∧
    s.running[i]? = some ⟨.automatic selection isOnchange time snapshot, since⟩ ∧
    (executeWithTimeout libs exec selection.rule).result.success = true ∧
    (executeWithTimeout libs exec selection.rule).result.actionsExecuted.isEmpty = false

/-- The step selects the rule for an automatic execution, at `time`, when it is loaded with the
    cooldown `cooldownMs`. -/
def SelectsAt (s : State) (op : Op) (ruleId : ℤ) (cooldownMs time : ℕ) : Prop :=
  ∃ i pass scheduled, op = .select i ∧ s.passes[i]? = some pass ∧
    s.rules.find ruleId = some scheduled ∧ scheduled.rule.cooldownMs = cooldownMs ∧
    scheduled.selectedBy libs pass = true ∧ pass.now = time

variable {libs}

/-- All that is on its way was begun at one time. -/
def InStep (c : Clocked) : Prop :=
  ∃ time ≤ c.clock, (∀ pass ∈ c.state.passes, pass.now = time) ∧
    ∀ running ∈ c.state.running, ∀ at', running.job.selectedAt = some at' → at' = time

/-- A cooldown of the rule was started at `time` or later, and nothing that was begun before is on
    its way. -/
structure Cooling (ruleId : ℤ) (time : ℕ) (c : Clocked) : Prop where
  clock : time ≤ c.clock
  started : ∀ scheduled, c.state.rules.find ruleId = some scheduled →
    ∃ start, scheduled.lastCooldownStart = some start ∧ time ≤ start
  passes : ∀ pass ∈ c.state.passes, time ≤ pass.now
  running : ∀ running ∈ c.state.running, ∀ at', running.job.selectedAt = some at' → time ≤ at'

/-! ## What a step leaves on its way -/

theorem clock_le (h : Follows c op) : c.clock ≤ (clockedStep libs c op).clock := by
  unfold clockedStep
  cases hnow : op.now? with
  | none => exact Nat.le_refl _
  | some now => exact h.clock now hnow

theorem step_sample (s : State) (cause : Cause) (now : ℕ) (live : Live) :
    step libs s (.sample cause now live) = s ∨
      step libs s (.sample cause now live) = { s with passes := s.passes ++
        [⟨cause, now, fetchPointSnapshot live (cause.subscriptions s.rules)⟩] } := by
  simp only [step]
  split
  · exact .inl rfl
  · exact .inr rfl

/-- A pass that is there after a step was there before it, or has just been sampled. -/
theorem mem_passes_step {pass : Pass} (h : pass ∈ (clockedStep libs c op).state.passes) :
    pass ∈ c.state.passes ∨ ∃ cause live, op = .sample cause pass.now live := by
  cases op with
  | reload db => exact .inl h
  | sample cause now live =>
    simp only [clockedStep] at h
    rcases step_sample c.state cause now live with heq | heq
    · exact .inl (heq ▸ h)
    rw [heq] at h
    rcases mem_append.1 h with h | h
    · exact .inl h
    · rw [mem_singleton.1 h]
      exact .inr ⟨cause, live, rfl⟩
  | select i =>
    simp only [clockedStep, step] at h
    split at h
    · exact .inl h
    · exact .inl (mem_of_mem_eraseIdx h)
  | _ =>
    simp only [clockedStep, step] at h
    split at h
    · exact .inl h
    · exact .inl h

/-- An execution that is there after a step was there before it, was selected by a pass that was
    there, or is a manual one. -/
theorem mem_running_step {running : Running} (h : running ∈ (clockedStep libs c op).state.running) :
    running ∈ c.state.running ∨ running.job.selectedAt = none ∨
      ∃ pass ∈ c.state.passes, running.job.selectedAt = some pass.now := by
  cases op with
  | reload db => exact .inl h
  | sample cause now live =>
    simp only [clockedStep, step] at h
    split at h
    · exact .inl h
    · exact .inl h
  | select i =>
    simp only [clockedStep, step] at h
    split at h
    · exact .inl h
    next pass hpass =>
    rcases mem_append.1 h with h | h
    · exact .inl h
    · obtain ⟨job, hjob, rfl⟩ := mem_map.1 h
      obtain ⟨scheduled, -, rfl⟩ := mem_map.1 hjob
      exact .inr (.inr ⟨pass, List.mem_of_getElem? hpass, rfl⟩)
  | begin db ruleId =>
    simp only [clockedStep, step] at h
    split at h
    · exact .inl h
    rcases mem_append.1 h with h | h
    · exact .inl h
    · rw [mem_singleton.1 h]
      exact .inr (.inl rfl)
  | complete i exec now current =>
    simp only [clockedStep, step] at h
    split at h
    · exact .inl h
    · exact .inl (mem_of_mem_eraseIdx h)

theorem inStep_initial : InStep Clocked.initial := by
  refine ⟨0, Nat.le_refl 0, ?_, ?_⟩
  · intro pass hpass
    cases hpass
  · intro running hrunning
    cases hrunning

theorem InStep.step (h : InStep c) (hop : Follows c op) : InStep (clockedStep libs c op) := by
  obtain ⟨time, htime, hpasses, hrunning⟩ := h
  by_cases hsmp : ∃ cause now live, op = .sample cause now live
  · -- nothing was on its way before
    obtain ⟨cause, now, live, rfl⟩ := hsmp
    obtain ⟨hnone, hmanual⟩ := hop.serial cause now live rfl
    refine ⟨now, Nat.le_refl _, fun pass hpass => ?_, fun running hmem at' hat => ?_⟩
    · rcases mem_passes_step hpass with hpass | ⟨_, _, heq⟩
      · rw [hnone] at hpass
        cases hpass
      · exact (Op.sample.inj heq).2.1.symm
    · rcases mem_running_step hmem with hmem | hmanual' | ⟨pass, hpass, -⟩
      · rw [hmanual running hmem] at hat
        cases hat
      · rw [hmanual'] at hat
        cases hat
      · rw [hnone] at hpass
        cases hpass
  · refine ⟨time, Nat.le_trans htime (clock_le hop), fun pass hpass => ?_,
      fun running hmem at' hat => ?_⟩
    · rcases mem_passes_step hpass with hpass | ⟨cause, live, heq⟩
      · exact hpasses pass hpass
      · exact absurd ⟨cause, pass.now, live, heq⟩ hsmp
    · rcases mem_running_step hmem with hmem | hmanual | ⟨pass, hpass, heq⟩
      · exact hrunning running hmem at' hat
      · rw [hmanual] at hat
        cases hat
      · obtain rfl := Option.some.inj (heq.symm.trans hat)
        exact hpasses pass hpass

/-! ## The start of a cooldown -/

/-- A completion keeps the start of the cooldown or sets it, to the time of the selection or, for a
    manual execution, of the completion. -/
theorem lastCooldownStart_complete (scheduled : ScheduledRule) (fresh : ℕ) (current : Live)
    (job : Job) (now : ℕ) (exec : Execution) :
    (scheduled.complete libs fresh current job now exec).lastCooldownStart =
        scheduled.lastCooldownStart ∨
      (scheduled.complete libs fresh current job now exec).lastCooldownStart =
        some (job.selectedAt.getD now) := by
  have hheld : ∀ selection hold,
      (scheduled.holdCompletion libs fresh current selection hold).lastCooldownStart =
        scheduled.lastCooldownStart :=
    fun _ hold => (untouched_holdCompletion hold).lastCooldownStart
  cases job with
  | automatic selection isOnchange selectedAt snapshot =>
    simp only [ScheduledRule.complete, ScheduledRule.completeAutomatic]
    split_ifs
    · exact .inr rfl
    · exact .inr rfl
    · exact .inl rfl
    · exact .inl rfl
    · exact .inl (hheld _ _)
  | manual rule trigger selection =>
    rcases selection with _ | selection
    · exact .inl rfl
    simp only [ScheduledRule.complete, ScheduledRule.completeManual]
    split_ifs
    · exact .inl rfl
    · exact .inr rfl
    · exact .inl rfl
    · exact .inl rfl
    · exact .inl (hheld _ _)

variable {ruleId : ℤ} {time : ℕ}

/-- The entry of a rule after a step: that of the loaded rule, with its cooldown or a newer one. -/
theorem Cooling.started_step (h : Cooling ruleId time c) (hop : Follows c op)
    (hload : ∃ scheduled, c.state.rules.find ruleId = some scheduled) {scheduled' : ScheduledRule}
    (hfind : (clockedStep libs c op).state.rules.find ruleId = some scheduled') :
    ∃ start, scheduled'.lastCooldownStart = some start ∧ time ≤ start := by
  cases op with
  | reload db =>
    change (c.state.rules.load libs db).find ruleId = some scheduled' at hfind
    rw [RuleSet.find_load, Option.map_eq_some_iff] at hfind
    obtain ⟨rule, -, rfl⟩ := hfind
    obtain ⟨prior, hprior⟩ := hload
    rw [hprior]
    exact h.started prior hprior
  | complete i exec now current =>
    rcases hjob : c.state.running[i]? with _ | running
    · refine h.started scheduled' ?_
      simp only [clockedStep, step, hjob] at hfind
      exact hfind
    obtain ⟨scheduled, hprior, ⟨-, rfl⟩ | ⟨-, rfl⟩⟩ := find_step_complete_cases hjob hfind
    · rcases lastCooldownStart_complete scheduled c.state.fresh current running.job now
        exec with hsame | hnew
      · exact hsame ▸ h.started scheduled hprior
      refine ⟨_, hnew, ?_⟩
      cases hat : running.job.selectedAt with
      | none => exact Nat.le_trans h.clock (hop.clock now rfl)
      | some at' => exact h.running running (List.mem_of_getElem? hjob) at' hat
    · exact h.started scheduled' hprior
  | _ =>
    refine h.started scheduled' ?_
    simp only [clockedStep, step] at hfind
    split at hfind
    · exact hfind
    · exact hfind

theorem Cooling.step (h : Cooling ruleId time c) (hop : Follows c op)
    (hload : ∃ scheduled, c.state.rules.find ruleId = some scheduled) :
    Cooling ruleId time (clockedStep libs c op) where
  clock := Nat.le_trans h.clock (clock_le hop)
  started scheduled' hfind := h.started_step hop hload hfind
  passes pass hpass := by
    rcases mem_passes_step hpass with hpass | ⟨cause, live, rfl⟩
    · exact h.passes pass hpass
    · exact Nat.le_trans h.clock (hop.clock pass.now rfl)
  running running hmem at' hat := by
    rcases mem_running_step hmem with hmem | hmanual | ⟨pass, hpass, heq⟩
    · exact h.running running hmem at' hat
    · rw [hmanual] at hat
      cases hat
    · obtain rfl := Option.some.inj (heq.symm.trans hat)
      exact h.passes pass hpass

/-! ## From a completion to the next selection -/

/-- The completion finds the hold that its execution was selected with: the second check of
    `accepts_completion` (`scheduler.rs:298-309`). -/
def Unfenced (s : State) (selection : ExecutionSelection) : Prop :=
  ∀ scheduled, s.rules.find selection.rule.id = some scheduled →
    scheduled.retryHold.map RetryHold.token = selection.retryHold.map RetryHold.token

variable {selection : ExecutionSelection} {scheduled : ScheduledRule}

theorem acceptsCompletion_of_token (hsame : scheduled.definition libs = selection.definition libs)
    (htoken : scheduled.retryHold.map RetryHold.token = selection.retryHold.map RetryHold.token) :
    scheduled.acceptsCompletion libs selection = true := by
  unfold ScheduledRule.acceptsCompletion
  rw [Bool.and_eq_true]
  refine ⟨ScheduledRule.sameDefinition_iff.2 hsame, ?_⟩
  cases hcur : scheduled.retryHold with
  | none =>
    cases hsel : selection.retryHold with
    | none => rfl
    | some selected => simp [hcur, hsel] at htoken
  | some current =>
    cases hsel : selection.retryHold with
    | none => simp [hcur, hsel] at htoken
    | some selected => simpa [hcur, hsel] using htoken

/-- An accepted completion starts the cooldown, and nothing older is on its way. -/
theorem cooling_of_succeeds (h : InStep c) (hop : Follows c op)
    (hsucceeds : Succeeds libs c.state op selection time)
    (hfind : c.state.rules.find selection.rule.id = some scheduled)
    (hsame : scheduled.definition libs = selection.definition libs)
    (hunfenced : Unfenced c.state selection) :
    Cooling selection.rule.id time (clockedStep libs c op) := by
  obtain ⟨i, exec, now, current, isOnchange, snapshot, since, rfl, hjob, hsucc, hactions⟩ :=
    hsucceeds
  obtain ⟨common, hclock, hpasses, hrunning⟩ := h
  obtain rfl : time = common := hrunning _ (List.mem_of_getElem? hjob) time rfl
  have hacc := acceptsCompletion_of_token hsame (hunfenced scheduled hfind)
  refine ⟨Nat.le_trans hclock (clock_le hop), ?_, ?_, ?_⟩
  · intro scheduled' hfind'
    refine ⟨time, ?_, Nat.le_refl time⟩
    obtain rfl := Option.some.inj
      (hfind'.symm.trans (find_step_complete hjob hfind exec now current))
    simp only [ScheduledRule.complete, ScheduledRule.completeAutomatic]
    rw [if_pos hacc]
    dsimp only
    rw [if_pos (by rw [hsucc, hactions]; rfl)]
  · intro pass hpass
    rcases mem_passes_step hpass with hpass | ⟨cause, live, heq⟩
    · exact Nat.le_of_eq (hpasses pass hpass).symm
    · cases heq
  · intro running hmem at' hat
    rcases mem_running_step hmem with hmem | hmanual | ⟨pass, hpass, heq⟩
    · exact Nat.le_of_eq (hrunning running hmem at' hat).symm
    · rw [hmanual] at hat
      cases hat
    · obtain rfl := Option.some.inj (heq.symm.trans hat)
      exact Nat.le_of_eq (hpasses pass hpass).symm

/-- Whoever is selected while the rule cools down has waited for the cooldown. -/
theorem Cooling.waited (h : Cooling ruleId time c) {cooldownMs next : ℕ}
    (hselects : SelectsAt libs c.state op ruleId cooldownMs next) :
    time + cooldownMs * 1000000 ≤ next := by
  obtain ⟨i, pass, scheduled, -, hpass, hfind, rfl, hsel, rfl⟩ := hselects
  obtain ⟨start, hstart, htime⟩ := h.started scheduled hfind
  have hnow := h.passes pass (List.mem_of_getElem? hpass)
  have hcool : scheduled.cooldownOk pass.now = true := (Bool.and_eq_true _ _ ▸ hsel).2
  unfold ScheduledRule.cooldownOk at hcool
  rw [hstart, Bool.or_eq_true, beq_iff_eq, Option.all_some, decide_eq_true_iff] at hcool
  rcases hcool with hzero | hel
  · rw [hzero]
    omega
  · have hle : elapsedMs pass.now start ≤ (pass.now - start) / 1000000 := Nat.mod_le _ _
    omega

/-- The rule is loaded with the definition that was selected. -/
def LoadedAs (libs : Libraries) (s : State) (selection : ExecutionSelection) : Prop :=
  ∃ scheduled, s.rules.find selection.rule.id = some scheduled ∧
    scheduled.definition libs = selection.definition libs

theorem loadedAs_of_map {s : State}
    (h : (s.rules.find selection.rule.id).map (ScheduledRule.definition libs) = some
      (selection.definition libs)) :
    LoadedAs libs s selection :=
  Option.map_eq_some_iff.1 h

/-- In every interleaving of ticks, watch events, manual executions and reloads: an automatic
    execution that was selected at `time`, succeeded with an action and is recorded under the hold
    it was selected with keeps its rule from being selected before `time + cooldown_ms`, while
    the rule stays loaded with its definition. -/
theorem cooldown_respected {ops : List Op}
    (hfollows : EveryStep (clockedStep libs) Follows Clocked.initial ops) {i j : ℕ} (hij : i < j)
    {completion selecting : Op} (hi : ops[i]? = some completion) (hj : ops[j]? = some selecting)
    {selection : ExecutionSelection} {time : ℕ}
    (hsucceeds : Succeeds libs (run (clockedStep libs) Clocked.initial (ops.take i)).state completion
      selection time)
    (hloaded : ∀ k, i ≤ k → k ≤ j →
      LoadedAs libs (run (clockedStep libs) Clocked.initial (ops.take k)).state selection)
    (hunfenced : Unfenced (run (clockedStep libs) Clocked.initial (ops.take i)).state selection)
    {cooldownMs next : ℕ}
    (hselects : SelectsAt libs (run (clockedStep libs) Clocked.initial (ops.take j)).state selecting
      selection.rule.id cooldownMs next) :
    time + cooldownMs * 1000000 ≤ next := by
  have hj' : j < ops.length := (List.getElem?_eq_some_iff.1 hj).1
  have hstep : InStep (run (clockedStep libs) Clocked.initial (ops.take i)) :=
    hfollows.invariant (fun _ _ h => h.step) inStep_initial i (by omega)
  have hcooling : Cooling selection.rule.id time
      (run (clockedStep libs) Clocked.initial (ops.take (i + 1))) := by
    obtain ⟨scheduled, hfind, hsame⟩ := hloaded i (Nat.le_refl i) (Nat.le_of_lt hij)
    rw [run_take_succ hi]
    exact cooling_of_succeeds hstep (hfollows i completion hi) hsucceeds hfind hsame hunfenced
  -- from the completion to the selection the cooldown is kept, step by step
  refine Cooling.waited (hfollows.between hij (Nat.le_of_lt hj') hcooling ?_) hselects
  intro k op hk hkj _ hcooling hop
  obtain ⟨scheduled, hfind, -⟩ := hloaded k (by omega) (Nat.le_of_lt hkj)
  exact hcooling.step hop ⟨scheduled, hfind⟩

end Cooldown

/-! ## Two runs -/

/-- A rule with a cooldown of a minute. -/
def coolingRule : Rule := { copyingRule with cooldownMs := 60000 }

/-- The selection of the rule by a tick, without a hold. -/
def coolingSelection : ExecutionSelection :=
  ⟨coolingRule, .onChange [⟨1, .measurement, 0⟩] none none, none⟩

/-- The table with this rule. -/
def coolingDatabase : Database := ⟨[coolingRule], by simp⟩

/-- A tick after five seconds selects the rule, the execution is recorded after six, and a tick
    after seventy finds another value. -/
def undisturbedRun : List Op :=
  [Op.reload coolingDatabase, Op.sample .tick 5000000000 fun _ => some F64.one, Op.select 0,
    Op.complete 0 (pointExecution fun _ => F64.one) 6000000000 fun _ => some F64.one,
    Op.sample .tick 70000000000 fun _ => some F64.hundred, Op.select 0]

/-- A manual execution is on its way when a tick after five seconds selects the rule. It times out,
    which sets the hold; then the execution of the tick is recorded, and the next tick finds another
    value. -/
def overlappedRun : List Op :=
  [Op.reload coolingDatabase, Op.begin coolingDatabase 1,
    Op.sample .tick 5000000000 fun _ => some F64.one, Op.select 0,
    Op.complete 0 timedOutExecution 30000000000 fun _ => some F64.one,
    Op.complete 0 (pointExecution fun _ => F64.one) 31000000000 fun _ => some F64.one,
    Op.sample .tick 32000000000 fun _ => some F64.hundred, Op.select 0]

theorem follows_undisturbedRun :
    EveryStep (clockedStep .sample) Follows Clocked.initial undisturbedRun := by
  simp only [undisturbedRun, everyStep_cons, everyStep_nil, follows_iff]
  decide +kernel

theorem follows_overlappedRun :
    EveryStep (clockedStep .sample) Follows Clocked.initial overlappedRun := by
  simp only [overlappedRun, everyStep_cons, everyStep_nil, follows_iff]
  decide +kernel

/-- The tick after seventy seconds selects the rule again, more than a minute after the first. -/
theorem cooldown_respected_undisturbed :
    SelectsAt .sample (run (clockedStep .sample) Clocked.initial (undisturbedRun.take 5)).state
        (.select 0) coolingSelection.rule.id 60000 70000000000 ∧
      5000000000 + 60000 * 1000000 ≤ 70000000000 := by
  have hselects : SelectsAt .sample
      (run (clockedStep .sample) Clocked.initial (undisturbedRun.take 5)).state (.select 0)
      coolingSelection.rule.id 60000 70000000000 :=
    ⟨0, _, _, rfl, rfl, rfl, rfl, by decide +kernel, rfl⟩
  refine ⟨hselects, cooldown_respected follows_undisturbedRun (i := 3) (j := 5) (by decide) rfl rfl
    ?_ ?_ ?_ hselects⟩
  · exact ⟨0, pointExecution fun _ => F64.one, 6000000000, fun _ => some F64.one, true, _, 0, rfl, rfl,
      by decide +kernel, by decide +kernel⟩
  · intro k hi hj
    apply loadedAs_of_map
    interval_cases k <;> decide +kernel
  · intro scheduled hfind
    obtain rfl := Option.some.inj hfind
    rfl

/-- The overlapped manual execution leaves a hold, the execution of the tick is fenced and starts no
    cooldown, and the rule is selected again 27 seconds later, within its minute. -/
theorem cooldown_lost :
    EveryStep (clockedStep .sample) Follows Clocked.initial overlappedRun ∧
      Succeeds .sample (run (clockedStep .sample) Clocked.initial (overlappedRun.take 5)).state
        (.complete 0 (pointExecution fun _ => F64.one) 31000000000 fun _ => some F64.one)
        coolingSelection 5000000000 ∧
      (∀ k, 5 ≤ k → k ≤ 7 →
        LoadedAs .sample (run (clockedStep .sample) Clocked.initial (overlappedRun.take k)).state
          coolingSelection) ∧
      SelectsAt .sample (run (clockedStep .sample) Clocked.initial (overlappedRun.take 7)).state
        (.select 0) coolingSelection.rule.id 60000 32000000000 ∧
      32000000000 < 5000000000 + 60000 * 1000000 := by
  refine ⟨follows_overlappedRun, ?_, ?_, ?_, by decide⟩
  · exact ⟨0, _, _, _, true, _, 0, rfl, rfl, by decide +kernel, by decide +kernel⟩
  · intro k hi hj
    apply loadedAs_of_map
    interval_cases k <;> decide +kernel
  · exact ⟨0, _, _, rfl, rfl, rfl, rfl, by decide +kernel, rfl⟩

end AetherEdge.Rules
