import AetherEdge.Rules.Schedule

/-!
# Completions that come too late

An execution carries the hold it was selected with, and its completion is only accepted if the
hold is still that one. `Consistent` says what makes this a fence: the holds of a rule get newer
and newer, and a selection carries an older one than any outcome recorded after it.

* `consistent_run`: it holds in every state the scheduler can reach;
* `completion_fenced`: a completion that comes after a newer uncertain outcome, or whose
  definition is not loaded, leaves the schedule alone, except when it was selected without a hold
  and there is none now;
* `overtaken_completion_accepted`: a run that comes to this exception.
-/

namespace AetherEdge.Rules

open Transition List Option

section Invariant

variable (libs : Libraries)

/-- What holds in every reachable state. -/
structure Consistent (s : State) : Prop where
  /-- holds come from recorded completions, and none is older than an uncertain outcome -/
  holds : ∀ ruleId scheduled hold, s.rules.find ruleId = some scheduled →
    scheduled.retryHold = some hold →
    hold.token < s.fresh ∧ ∀ time, (ruleId, time) ∈ s.uncertain → time ≤ hold.token
  outcomes : ∀ outcome ∈ s.uncertain, outcome.2 < s.fresh
  since : ∀ running ∈ s.running, running.since ≤ s.fresh
  /-- a selection is of the definition of its job, with a hold from before -/
  selections : ∀ running ∈ s.running, ∀ selection, running.job.selection = some selection →
    selection.definition libs = running.job.definition libs ∧
      ∀ hold, selection.retryHold = some hold → hold.token < running.since

variable {libs} {s : State}

theorem consistent_initial : Consistent libs State.initial where
  holds _ _ _ hfind := by cases hfind
  outcomes _ h := by cases h
  since _ h := by cases h
  selections _ h := by cases h

section

variable (h : Consistent libs s)

include h

/-- Steps that only add executions, each with a selection of a loaded rule. -/
theorem Consistent.of_select (passes : List Pass) (jobs : List Job)
    (hjobs : ∀ job ∈ jobs, ∀ selection, job.selection = some selection → selection.definition libs
      = job.definition libs ∧ ∃ scheduled ∈ s.rules.entries, selection = scheduled.selectExecution)
      :
    Consistent libs
      { s with passes := passes, running := s.running ++ jobs.map (⟨·, s.fresh⟩) } where
  holds := h.holds
  outcomes := h.outcomes
  since running hmem := by
    rcases mem_append.1 hmem with hmem | hmem
    · exact h.since running hmem
    · obtain ⟨job, -, rfl⟩ := List.mem_map.1 hmem
      exact Nat.le_refl _
  selections running hmem selection hsel := by
    rcases mem_append.1 hmem with hmem | hmem
    · exact h.selections running hmem selection hsel
    obtain ⟨job, hjob, rfl⟩ := List.mem_map.1 hmem
    obtain ⟨hdef, scheduled, hent, rfl⟩ := hjobs job hjob selection hsel
    refine ⟨hdef, fun hold hhold => ?_⟩
    exact (h.holds _ _ hold (RuleSet.find_of_mem hent) hhold).1

theorem Consistent.reload (db : Database) :
    Consistent libs (step libs s (.reload db)) where
  holds ruleId scheduled hold hfind hhold := by
    change (s.rules.load libs db).find ruleId = some scheduled at hfind
    rw [RuleSet.find_load, map_eq_some_iff] at hfind
    obtain ⟨rule, -, rfl⟩ := hfind
    rcases hprior : s.rules.find ruleId with _ | prior
    · rw [hprior] at hhold
      cases hhold
    rw [hprior] at hhold
    -- a reload keeps the hold or drops it
    have hsame : prior.retryHold = some hold := by
      simp only [RuleSet.carry] at hhold
      split_ifs at hhold
      exact hhold
    exact h.holds ruleId prior hold hprior hsame
  outcomes := h.outcomes
  since := h.since
  selections := h.selections

theorem Consistent.select (i : ℕ) : Consistent libs (step libs s (.select i)) := by
  simp only [step]
  split
  · exact h
  next pass _ =>
  refine h.of_select _ _ fun job hjob selection hsel => ?_
  obtain ⟨scheduled, hmem, rfl⟩ := List.mem_map.1 hjob
  cases hsel
  exact ⟨rfl, scheduled, (mem_filter.1 hmem).1, rfl⟩

theorem Consistent.begin (db : Database) (ruleId : ℤ) :
    Consistent libs (step libs s (.begin db ruleId)) := by
  simp only [step]
  split
  · exact h
  next rule _ =>
  refine h.of_select s.passes [manualJob libs s.rules rule] ?_
  intro job hjob selection hsel
  rw [mem_singleton] at hjob
  subst hjob
  obtain ⟨scheduled, hfind, rfl⟩ := map_eq_some_iff.1 hsel
  refine ⟨?_, scheduled, mem_of_find?_eq_some hfind, rfl⟩
  have hsame := find?_some hfind
  exact of_decide_eq_true hsame

theorem Consistent.complete (i : ℕ) (exec : Execution) (now : ℕ) (current : Live) :
    Consistent libs (step libs s (.complete i exec now current)) := by
  rcases hjob : s.running[i]? with _ | running
  · simp only [step, hjob]
    exact h
  refine ⟨?_, ?_, ?_, ?_⟩
  · intro ruleId scheduled' hold hfind hhold
    rw [fresh_step_complete hjob]
    obtain ⟨scheduled, hprior, ⟨rfl, rfl⟩ | ⟨hne, rfl⟩⟩ := find_step_complete_cases hjob hfind
    · rcases retryHold_complete_cases hhold with hnew | hold'
      · refine ⟨by omega, fun time htime => ?_⟩
        rcases uncertain_step_complete hjob htime with htime | ⟨htime, -⟩
        · have : time < s.fresh := h.outcomes _ htime
          omega
        · rw [Prod.mk.injEq] at htime
          omega
      · obtain ⟨hlt, hnewest⟩ := h.holds _ scheduled hold hprior hold'
        refine ⟨by omega, fun time htime => ?_⟩
        rcases uncertain_step_complete hjob htime with htime | ⟨htime, hunc⟩
        · exact hnewest time htime
        -- an uncertain outcome leaves a hold of its own
        obtain ⟨hdoubt, selection, hsel, hsame⟩ := (Job.uncertain_eq_true hprior).1 hunc
        obtain ⟨input, hinput⟩ := retryHold_complete_of_uncertain hsel hsame hdoubt
        rw [hinput, Option.some.injEq] at hhold
        rw [Prod.mk.injEq] at htime
        rw [← hhold, htime.2]
    · obtain ⟨hlt, hnewest⟩ := h.holds ruleId scheduled' hold hprior hhold
      refine ⟨by omega, fun time htime => ?_⟩
      rcases uncertain_step_complete hjob htime with htime | ⟨htime, -⟩
      · exact hnewest time htime
      · rw [Prod.mk.injEq] at htime
        exact absurd htime.1 hne
  · intro outcome hmem
    rw [fresh_step_complete hjob]
    rcases uncertain_step_complete hjob hmem with hmem | ⟨rfl, -⟩
    · have := h.outcomes outcome hmem
      omega
    · exact Nat.lt_succ_self _
  · intro r hmem
    rw [running_step_complete hjob] at hmem
    rw [fresh_step_complete hjob]
    have := h.since r (mem_of_mem_eraseIdx hmem)
    omega
  · intro r hmem
    rw [running_step_complete hjob] at hmem
    exact h.selections r (mem_of_mem_eraseIdx hmem)

theorem Consistent.step (op : Op) : Consistent libs (step libs s op) := by
  cases op with
  | reload db => exact h.reload db
  | sample cause now live =>
    simp only [Rules.step]
    split
    · exact h
    · exact ⟨h.holds, h.outcomes, h.since, h.selections⟩
  | select i => exact h.select i
  | begin db ruleId => exact h.begin db ruleId
  | complete i exec now current => exact h.complete i exec now current

end

theorem consistent_run (ops : List Op) :
    EveryState (Rules.step libs) (Consistent libs) State.initial ops :=
  (everyStep_of_forall (P := fun _ => True) (fun _ _ => trivial) _).invariant
    (fun _ op h _ => h.step op) consistent_initial

/-- The hold of a rule is never older than an uncertain outcome of the rule. -/
theorem hold_newest (ops : List Op) :
    EveryState (Rules.step libs) (fun s => ∀ ruleId scheduled hold,
      s.rules.find ruleId = some scheduled → scheduled.retryHold = some hold →
      ∀ time, (ruleId, time) ∈ s.uncertain → time ≤ hold.token) State.initial ops :=
  (consistent_run ops).imp fun _ h ruleId scheduled hold hfind hhold =>
    (h.holds ruleId scheduled hold hfind hhold).2

end Invariant

/-! ## Late completions -/

/-- The execution was selected before an uncertain outcome of its rule that is recorded now. -/
def Superseded (s : State) (running : Running) : Prop :=
  ∃ time, (running.job.rule.id, time) ∈ s.uncertain ∧ running.since ≤ time

/-- Nothing is advanced and no hold is cleared. -/
structure Untouched (before after : Schedule) : Prop where
  lastExecution : after.lastExecution = before.lastExecution
  lastCooldownStart : after.lastCooldownStart = before.lastCooldownStart
  onchangeState : after.onchangeState = before.onchangeState
  retryHold : before.retryHold.isSome = true → after.retryHold.isSome = true

theorem Untouched.refl (schedule : Schedule) : Untouched schedule schedule :=
  ⟨rfl, rfl, rfl, id⟩

section Fence

variable (libs : Libraries)

/-- A completion that was overtaken by an uncertain outcome, or whose definition is not loaded,
    leaves the schedule alone, and after an uncertain outcome of the loaded definition there is a
    hold. -/
def Fenced (s : State) (op : Op) : Prop :=
  ∀ i exec now current running scheduled, op = .complete i exec now current →
    s.running[i]? = some running → s.rules.find running.job.rule.id = some scheduled →
    ∃ after, (step libs s op).rules.find running.job.rule.id = some after ∧
      (Superseded s running ∨ scheduled.definition libs ≠ running.job.definition libs →
        Untouched scheduled.toSchedule after.toSchedule) ∧
      ((running.job.attempt libs exec).holdAutomaticRetry = true →
        scheduled.definition libs = running.job.definition libs →
        after.retryHold.isSome = true)

/-- Whether the scheduler chose the job. -/
def Job.isAutomatic : Job → Bool
  | .automatic .. => true
  | .manual .. => false

/-- An overtaken automatic completion carries a hold or finds one, and an uncertain outcome comes
    from a job that was selected when its definition was loaded. -/
def CarriesFence (s : State) (op : Op) : Prop :=
  ∀ i exec now current running scheduled, op = .complete i exec now current →
    s.running[i]? = some running → s.rules.find running.job.rule.id = some scheduled →
    scheduled.definition libs = running.job.definition libs →
    (Superseded s running → running.job.isAutomatic = true →
      (∃ selection hold, running.job.selection = some selection ∧
        selection.retryHold = some hold) ∨ scheduled.retryHold.isSome = true) ∧
    ((running.job.attempt libs exec).holdAutomaticRetry = true →
      running.job.selection.isSome = true)

variable {libs} {s : State} {scheduled : ScheduledRule} {fresh : ℕ} {current : Live} {now : ℕ}
  {exec : Execution} {selection : ExecutionSelection}

theorem untouched_holdCompletion (hold : Bool) :
    Untouched scheduled.toSchedule (scheduled.holdCompletion libs fresh current selection hold) := by
  unfold ScheduledRule.holdCompletion
  split_ifs
  · exact ⟨rfl, rfl, rfl, fun _ => rfl⟩
  · exact .refl _

/-- A manual execution only advances a rule that is held. -/
theorem untouched_manual {rule : Rule} {trigger : TriggerConfig} (h : scheduled.retryHold = none) :
    Untouched scheduled.toSchedule
      (scheduled.complete libs fresh current (.manual rule trigger (some selection)) now exec) := by
  show Untouched _ (scheduled.completeManual libs fresh current rule trigger selection now exec)
  have hnone : scheduled.retryHold.isSome = false := by rw [h]; rfl
  simp only [ScheduledRule.completeManual, hnone, Bool.false_and, Bool.false_eq_true, if_false]
  by_cases hacc : scheduled.acceptsCompletion libs selection = true
  · rw [if_pos hacc]
    split_ifs
    · exact ⟨rfl, rfl, rfl, fun _ => rfl⟩
    · exact .refl _
  · rw [if_neg hacc]
    exact untouched_holdCompletion _

/-- After a newer uncertain outcome only a completion without a hold is accepted, by a rule
    without one. -/
theorem Consistent.no_hold_of_accepts (h : Consistent libs s) {running : Running}
    (hmem : running ∈ s.running) (hsel : running.job.selection = some selection)
    (hfind : s.rules.find running.job.rule.id = some scheduled)
    (hsup : Superseded s running)
    (hacc : scheduled.acceptsCompletion libs selection = true) :
    scheduled.retryHold = none ∧ selection.retryHold = none := by
  obtain ⟨time, htime, hsince⟩ := hsup
  have htoken := ScheduledRule.token_of_accepts hacc
  rcases hcur : scheduled.retryHold with _ | hold
  · rw [hcur, map_none, eq_comm, map_eq_none_iff] at htoken
    exact ⟨rfl, htoken⟩
  rw [hcur, map_some, eq_comm, map_eq_some_iff] at htoken
  obtain ⟨selected, hselected, hsame⟩ := htoken
  have hnewer := (h.holds _ scheduled hold hfind hcur).2 time htime
  have holder := (h.selections running hmem selection hsel).2 selected hselected
  omega

theorem Consistent.fenced (h : Consistent libs s) {op : Op} (hcar : CarriesFence libs s op) :
    Fenced libs s op := by
  rintro i exec now current running scheduled rfl hjob hfind
  have hmem : running ∈ s.running := List.mem_of_getElem? hjob
  have hgd := hcar i exec now current running scheduled rfl hjob hfind
  refine ⟨_, find_step_complete hjob hfind exec now current, ?_, ?_⟩
  · intro hlate
    show Untouched _ (scheduled.complete libs s.fresh current running.job now exec)
    rcases hsel : running.job.selection with _ | selection
    · rw [complete_of_selection_none hsel]
      exact .refl _
    have hdef := (h.selections running hmem selection hsel).1
    by_cases hacc : scheduled.acceptsCompletion libs selection = true
    · have hsame : scheduled.definition libs = running.job.definition libs :=
        (ScheduledRule.definition_of_accepts hacc).trans hdef
      have hsup : Superseded s running := hlate.resolve_right (not_not_intro hsame)
      obtain ⟨hcur, hselected⟩ := h.no_hold_of_accepts hmem hsel hfind hsup hacc
      have hmanual : running.job.isAutomatic = false := by
        by_contra hauto
        rw [Bool.not_eq_false] at hauto
        rcases (hgd hsame).1 hsup hauto with ⟨other, hold, hoth, hhold⟩ | hhold
        · rw [hsel, Option.some.injEq] at hoth
          rw [← hoth, hselected] at hhold
          cases hhold
        · rw [hcur] at hhold
          cases hhold
      cases hkind : running.job with
      | automatic => rw [hkind] at hmanual; cases hmanual
      | manual rule trigger other =>
        rw [hkind] at hsel
        change other = some selection at hsel
        rw [hsel]
        exact untouched_manual hcur
    · rw [Bool.not_eq_true] at hacc
      rw [complete_of_not_accepts hsel hacc]
      exact untouched_holdCompletion _
  · intro hhold hsame
    obtain ⟨selection, hsel⟩ := isSome_iff_exists.1 ((hgd hsame).2 hhold)
    have hdef := (h.selections running hmem selection hsel).1
    have hload : scheduled.sameDefinition libs selection = true :=
      ScheduledRule.sameDefinition_iff.2 (hsame.trans hdef.symm)
    obtain ⟨input, hinput⟩ := retryHold_complete_of_uncertain hsel hload hhold
    show (scheduled.complete libs s.fresh current running.job now exec).retryHold.isSome = true
    rw [hinput]
    rfl

/-- In every run, whatever the interleaving, a step whose completion carries its fence is
    fenced. -/
theorem completion_fenced (ops : List Op) :
    EveryStep (step libs) (fun s op => CarriesFence libs s op → Fenced libs s op)
      State.initial ops :=
  (consistent_run ops).everyStep fun s op h (hcarries : CarriesFence libs s op) => h.fenced hcarries

end Fence

/-! ## A completion without a fence -/

/-- A rule without actions that runs every second. -/
def idleRule : Rule where
  id := 1
  name := "idle"
  enabled := true
  cooldownMs := 0
  triggerConfig := none
  flow := ⟨"start", fun nodeId =>
    match nodeId with
    | "start" => some (.start ⟨["end"]⟩)
    | "end" => some .finish
    | _ => none⟩

/-- An execution of it, cut off by the timer or not. -/
def idleExecution (timedOut : Bool) : Execution where
  env := ⟨none, false, fun _ _ _ _ => none, fun _ _ => false, fun _ _ _ _ => .error "no engine",
    fun _ _ _ _ _ => .error "no engine"⟩
  timedOut := timedOut
  sampled _ := none
  resampled _ := none

/-- The table with this rule. -/
def idleTable : Database := ⟨[idleRule], by simp⟩

/-- A tick selects the rule; a manual execution times out and another one succeeds. -/
def overtakingRun : List Op :=
  [.reload idleTable, .sample .tick 1000 fun _ => none, .select 0,
    .begin idleTable 1, .complete 1 (idleExecution true) 2000 fun _ => none,
    .begin idleTable 1, .complete 1 (idleExecution false) 3000 fun _ => none]

/-- The completion of the tick's execution, last. -/
def overtakenCompletion : Op := .complete 0 (idleExecution false) 4000 fun _ => none

/-- Before the second manual execution the completion finds the hold of the first one, and leaves
    the schedule alone. -/
theorem overtaken_completion_fenced :
    let held := run (step .sample) State.initial (overtakingRun.take 5)
    (∃ running scheduled, held.running[0]? = some running ∧ held.rules.find 1 = some scheduled ∧
      Superseded held running ∧ running.job.isAutomatic = true ∧
      scheduled.retryHold.isSome = true) ∧ Fenced .sample held overtakenCompletion := by
  refine ⟨⟨_, _, rfl, rfl, ⟨0, by decide +kernel, by decide +kernel⟩, rfl, by decide +kernel⟩, ?_⟩
  refine completion_fenced (overtakingRun.take 5 ++ [overtakenCompletion]) 5 overtakenCompletion rfl ?_
  rintro i exec now current running scheduled hop hjob hfind -
  cases hop
  cases hjob
  cases hfind
  exact ⟨fun _ _ => .inr (by decide +kernel), fun _ => rfl⟩

/-- The first manual execution held the rule and the second one released it, so the hold is as
    it was when the tick selected the rule: its completion is accepted, and `last_execution` goes
    back to the time of the tick. -/
theorem overtaken_completion_accepted :
    ¬EveryStep (step .sample) (Fenced .sample) State.initial
      (overtakingRun ++ [overtakenCompletion]) := by
  intro h
  obtain ⟨after, hfind, huntouched, -⟩ :=
    h 7 overtakenCompletion rfl _ _ _ _ _ _ rfl rfl rfl
  have hkept := (huntouched (.inl ⟨0, by decide +kernel, by decide +kernel⟩)).lastExecution
  cases hfind
  exact absurd hkept (by decide +kernel)

end AetherEdge.Rules
