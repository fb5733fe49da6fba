import AetherEdge.Rules.Scheduler

/-!
# One rule of the scheduler

The steps of the scheduler as seen by one rule. `RuleSet.find` is all the later files look at:
a reload replaces the entry of a rule by `find_load`, a completion by `find_update`, and no
other step touches it.
-/

namespace AetherEdge.Rules

open ScheduledRule List

/-! ## Snapshots -/

section Snapshots

variable {live : Live} {subscriptions : List PointRef} {ref : PointRef}

theorem get_fetchPointSnapshot (h : ref ∈ subscriptions) :
    (fetchPointSnapshot live subscriptions).get ref.cacheKey =
      some ((live ref).filter F64.isFinite) := by
  refine HashMap.get_fill_of_mem _ ⟨ref, h, rfl⟩ fun other _ hkey => ?_
  rw [PointRef.cacheKey_injective hkey]

theorem finite_fetchPointSnapshot (h : ref ∈ subscriptions) :
    (fetchPointSnapshot live subscriptions).finite ref.cacheKey =
      (live ref).filter F64.isFinite := by
  rw [Snapshot.finite, get_fetchPointSnapshot h, Option.join_some, Option.filter_filter]
  simp only [Bool.and_self]

/-- A snapshot holds nothing but what was read. -/
theorem finite_fetchPointSnapshot_eq_some {value : F64}
    (h : (fetchPointSnapshot live subscriptions).finite ref.cacheKey = some value) :
    (live ref).filter F64.isFinite = some value := by
  by_cases hmem : ref ∈ subscriptions
  · rw [← h, finite_fetchPointSnapshot hmem]
  have hget : (fetchPointSnapshot live subscriptions).get ref.cacheKey = none := by
    refine HashMap.get_fill_of_none _ fun other hoth hkey => ?_
    exact absurd (PointRef.cacheKey_injective hkey ▸ hoth) hmem
  rw [Snapshot.finite, hget] at h
  cases h

theorem get_heldInput {scheduled : ScheduledRule} (h : ref ∈ scheduled.trigger.pointRefs)
    (snapshot : Snapshot) :
    (scheduled.heldInput snapshot).get ref.cacheKey = some (snapshot.finite ref.cacheKey) := by
  refine HashMap.get_fill_of_mem _ ⟨ref, h, rfl⟩ fun other _ hkey => ?_
  rw [hkey]

end Snapshots

/-! ## Attempts -/

section Attempts

variable {libs : Libraries} {exec : Execution} {rule : Rule}

/-- The note only changes the text of the error. -/
theorem ExecutionAttempt.noteHold_eq (attempt : ExecutionAttempt) :
    attempt.noteHold.timedOut = attempt.timedOut ∧
      ∃ error, attempt.noteHold.result = { attempt.result with error := error } := by
  unfold noteHold
  split_ifs
  · exact ⟨rfl, _, rfl⟩
  · exact ⟨rfl, attempt.result.error, rfl⟩

theorem executeWithTimeout_timedOut : (executeWithTimeout libs exec rule).timedOut = exec.timedOut := by
  rw [executeWithTimeout, (ExecutionAttempt.noteHold_eq _).1, executeOrTimeOut]
  cases exec.timedOut <;> rfl

theorem executeWithTimeout_success :
    (executeWithTimeout libs exec rule).result.success =
      (!exec.timedOut && (execute libs exec.env rule).result.success) := by
  obtain ⟨-, error, hres⟩ := (executeOrTimeOut libs exec rule).noteHold_eq
  rw [executeWithTimeout, hres, executeOrTimeOut]
  cases exec.timedOut <;> rfl

theorem executeWithTimeout_pointValues (h : exec.timedOut = false) :
    (executeWithTimeout libs exec rule).result.pointValues =
      (execute libs exec.env rule).result.pointValues := by
  obtain ⟨-, error, hres⟩ := (executeOrTimeOut libs exec rule).noteHold_eq
  rw [executeWithTimeout, hres, executeOrTimeOut, h]
  rfl

end Attempts

/-! ## The rule set -/

namespace RuleSet

variable {libs : Libraries} {rules : RuleSet} {ruleId : ℤ} {scheduled : ScheduledRule}

theorem find_id (h : rules.find ruleId = some scheduled) : scheduled.rule.id = ruleId := by
  simpa using find?_some h

/-- The ids are different, so every entry is found under its own. -/
theorem find_of_mem (h : scheduled ∈ rules.entries) :
    rules.find scheduled.rule.id = some scheduled := by
  have hinj := inj_on_of_nodup_map rules.unique
  cases hfind : rules.find scheduled.rule.id with
  | none => simpa using find?_eq_none.1 hfind scheduled h
  | some other => rw [hinj (mem_of_find?_eq_some hfind) h (find_id hfind)]

theorem find_update (other : ℤ) (change : ScheduledRule → Schedule) :
    (rules.update ruleId change).find other = (rules.find other).map fun scheduled =>
      if other = ruleId then { scheduled with toSchedule := change scheduled } else scheduled := by
  unfold find update
  rw [find?_map]
  have hsame : (fun scheduled : ScheduledRule => decide (scheduled.rule.id = other)) ∘
      (fun scheduled => if scheduled.rule.id = ruleId then
        { scheduled with toSchedule := change scheduled } else scheduled) =
      fun scheduled => decide (scheduled.rule.id = other) := by
    funext scheduled
    show decide ((if _ then _ else _ : ScheduledRule).rule.id = other) = _
    split_ifs <;> rfl
  rw [hsame]
  refine Option.map_congr fun scheduled hfind => ?_
  have hid : scheduled.rule.id = other := by simpa using find?_some hfind
  rw [hid]

theorem carry_rule (prior : Option ScheduledRule) (rule : Rule) :
    (carry libs prior rule).rule = rule := by
  cases prior <;> rfl

theorem find_load (db : Database) :
    (rules.load libs db).find ruleId =
      (db.getRuleForExecution ruleId).map (carry libs (rules.find ruleId)) := by
  unfold find load Database.getRuleForExecution
  rw [find?_map]
  have hsame : (fun scheduled : ScheduledRule => decide (scheduled.rule.id = ruleId)) ∘
      (fun rule => carry libs (rules.find rule.id) rule) = fun rule => decide (rule.id = ruleId) := by
    funext rule
    rw [Function.comp_apply, carry_rule]
  rw [hsame]
  refine Option.map_congr fun rule hfind => ?_
  have hid : rule.id = ruleId := by simpa using find?_some hfind
  rw [hid]
  rfl

end RuleSet

/-! ## Definitions -/

section Definitions

variable (libs : Libraries)

/-- The definition of a loaded rule. -/
def ScheduledRule.definition (scheduled : ScheduledRule) : Definition libs :=
  Rules.definition libs scheduled.rule scheduled.trigger

/-- The definition selected. -/
def ExecutionSelection.definition (selection : ExecutionSelection) : Definition libs :=
  Rules.definition libs selection.rule selection.trigger

/-- The definition of a job. -/
def Job.definition (job : Job) : Definition libs := Rules.definition libs job.rule job.trigger

variable {libs} {selection : ExecutionSelection} {scheduled : ScheduledRule}

theorem ScheduledRule.sameDefinition_iff :
    scheduled.sameDefinition libs selection = true ↔
      scheduled.definition libs = selection.definition libs :=
  decide_eq_true_iff

theorem ScheduledRule.definition_of_accepts
    (h : scheduled.acceptsCompletion libs selection = true) :
    scheduled.definition libs = selection.definition libs := by
  rw [acceptsCompletion, Bool.and_eq_true] at h
  exact sameDefinition_iff.1 h.1

theorem ScheduledRule.token_of_accepts (h : scheduled.acceptsCompletion libs selection = true) :
    scheduled.retryHold.map RetryHold.token = selection.retryHold.map RetryHold.token := by
  rw [acceptsCompletion, Bool.and_eq_true] at h
  have hhld := h.2
  cases hcur : scheduled.retryHold <;> cases hsel : selection.retryHold <;>
    simp_all

end Definitions

/-! ## Completions -/

section Completions

variable {libs : Libraries} {s : State} {i : ℕ} {running : Running}

section

variable (hjob : s.running[i]? = some running)

include hjob

theorem find_step_complete {scheduled : ScheduledRule}
    (hfind : s.rules.find running.job.rule.id = some scheduled) (exec : Execution) (now : ℕ)
    (current : Live) :
    (step libs s (.complete i exec now current)).rules.find running.job.rule.id =
      some { scheduled with
        toSchedule := scheduled.complete libs s.fresh current running.job now exec } := by
  simp only [step, hjob]
  rw [RuleSet.find_update, hfind, Option.map_some, if_pos rfl]

theorem find_step_complete_of_ne {ruleId : ℤ} (hne : ruleId ≠ running.job.rule.id)
    (exec : Execution) (now : ℕ) (current : Live) :
    (step libs s (.complete i exec now current)).rules.find ruleId = s.rules.find ruleId := by
  simp only [step, hjob]
  rw [RuleSet.find_update]
  simp only [if_neg hne, Option.map_id']

/-- The entry of a rule after a completion comes from the one before. -/
theorem find_step_complete_cases {ruleId : ℤ} {exec : Execution} {now : ℕ} {current : Live}
    {scheduled' : ScheduledRule}
    (h : (step libs s (.complete i exec now current)).rules.find ruleId = some scheduled') :
    ∃ scheduled, s.rules.find ruleId = some scheduled ∧
      (ruleId = running.job.rule.id ∧ scheduled' = { scheduled with
          toSchedule := scheduled.complete libs s.fresh current running.job now exec } ∨
        ruleId ≠ running.job.rule.id ∧ scheduled' = scheduled) := by
  by_cases hid : ruleId = running.job.rule.id
  · subst hid
    cases hfind : s.rules.find running.job.rule.id with
    | none =>
      simp only [step, hjob] at h
      rw [RuleSet.find_update, hfind] at h
      cases h
    | some scheduled =>
      rw [find_step_complete hjob hfind, Option.some.injEq] at h
      exact ⟨scheduled, rfl, .inl ⟨rfl, h.symm⟩⟩
  · rw [find_step_complete_of_ne hjob hid] at h
    exact ⟨scheduled', h, .inr ⟨hid, rfl⟩⟩

theorem running_step_complete (exec : Execution) (now : ℕ) (current : Live) :
    (step libs s (.complete i exec now current)).running = s.running.eraseIdx i := by
  simp only [step, hjob]

theorem fresh_step_complete (exec : Execution) (now : ℕ) (current : Live) :
    (step libs s (.complete i exec now current)).fresh = s.fresh + 1 := by
  simp only [step, hjob]

theorem uncertain_step_complete {exec : Execution} {now : ℕ} {current : Live} {outcome : ℤ × ℕ}
    (h : outcome ∈ (step libs s (.complete i exec now current)).uncertain) :
    outcome ∈ s.uncertain ∨ outcome = (running.job.rule.id, s.fresh) ∧
      running.job.uncertain libs exec s.rules = true := by
  simp only [step, hjob] at h
  split_ifs at h with hcond
  · rcases mem_append.1 h with h | h
    · exact .inl h
    · exact .inr ⟨mem_singleton.1 h, hcond⟩
  · exact .inl h

end

/-- The values a job starts from. -/
def Job.snapshot (job : Job) (exec : Execution) : Snapshot :=
  match job with
  | .automatic _ _ _ snapshot => snapshot
  | .manual _ trigger _ => fetchPointSnapshot exec.sampled trigger.pointRefs

variable (libs) in
/-- The values a job holds when its outcome is uncertain. -/
def Job.retryInput (job : Job) (exec : Execution) : Snapshot :=
  (Rules.retryInput (job.attempt libs exec) job.trigger (job.snapshot exec) exec.resampled).getD
    (job.snapshot exec)

variable {scheduled : ScheduledRule} {fresh : ℕ} {current : Live} {job : Job} {now : ℕ}
  {exec : Execution} {selection : ExecutionSelection}

theorem complete_of_selection_none (h : job.selection = none) :
    scheduled.complete libs fresh current job now exec = scheduled.toSchedule := by
  cases job with
  | automatic => cases h
  | manual rule trigger selection =>
    cases selection with
    | none => rfl
    | some => cases h

theorem complete_of_not_accepts (hsel : job.selection = some selection)
    (h : scheduled.acceptsCompletion libs selection = false) :
    scheduled.complete libs fresh current job now exec =
      scheduled.holdCompletion libs fresh current selection
        (job.attempt libs exec).holdAutomaticRetry := by
  cases job with
  | automatic =>
    cases hsel
    simp only [complete, completeAutomatic, h]
    rfl
  | manual rule trigger =>
    cases hsel
    simp only [complete, completeManual, h]
    rfl

/-- An accepted uncertain outcome puts its input on hold. -/
theorem retryHold_complete_of_hold (hsel : job.selection = some selection)
    (h : scheduled.acceptsCompletion libs selection = true)
    (hhold : (job.attempt libs exec).holdAutomaticRetry = true) :
    (scheduled.complete libs fresh current job now exec).retryHold =
      some ⟨fresh, scheduled.heldInput (job.retryInput libs exec)⟩ := by
  cases job with
  | automatic =>
    cases hsel
    simp only [Job.attempt, Job.rule] at hhold
    simp only [complete, completeAutomatic, h, hhold, if_true]
    rfl
  | manual rule trigger =>
    cases hsel
    simp only [Job.attempt, Job.rule] at hhold
    simp only [complete, completeManual, h, hhold, if_true]
    rfl

/-- An accepted outcome without doubt leaves the hold or removes it. -/
theorem retryHold_complete_of_not_hold (hsel : job.selection = some selection)
    (h : scheduled.acceptsCompletion libs selection = true)
    (hhold : (job.attempt libs exec).holdAutomaticRetry = false) :
    (scheduled.complete libs fresh current job now exec).retryHold = none ∨
      (scheduled.complete libs fresh current job now exec).retryHold = scheduled.retryHold := by
  cases job with
  | automatic =>
    cases hsel
    simp only [Job.attempt, Job.rule] at hhold
    left
    simp only [complete, completeAutomatic, h, hhold, if_true]
    rfl
  | manual rule trigger =>
    cases hsel
    simp only [Job.attempt, Job.rule] at hhold
    simp only [complete, completeManual, h, hhold, if_true, Bool.false_eq_true, if_false]
    by_cases hdone : (scheduled.retryHold.isSome &&
        (executeWithTimeout libs exec rule).result.success) = true
    · rw [if_pos hdone]
      exact .inl rfl
    · rw [if_neg hdone]
      exact .inr rfl

/-- A manual execution that fails without doubt changes nothing. -/
theorem complete_manual_of_failed {rule : Rule} {trigger : TriggerConfig}
    (hhold : ((Job.manual rule trigger (some selection)).attempt libs exec).holdAutomaticRetry =
      false)
    (hfld : ((Job.manual rule trigger (some selection)).attempt libs exec).result.success =
      false) :
    scheduled.complete libs fresh current (.manual rule trigger (some selection)) now exec =
      scheduled.toSchedule := by
  simp only [Job.attempt, Job.rule] at hhold hfld
  simp only [complete, completeManual, holdCompletion, hhold, hfld, Bool.and_false, Bool.false_and,
    Bool.false_eq_true, if_false, ite_self]

theorem retryHold_complete_cases {hold : RetryHold}
    (h : (scheduled.complete libs fresh current job now exec).retryHold = some hold) :
    hold.token = fresh ∨ scheduled.retryHold = some hold := by
  rcases hsel : job.selection with _ | selection
  · rw [complete_of_selection_none hsel] at h
    exact .inr h
  by_cases hacc : scheduled.acceptsCompletion libs selection = true
  · by_cases hhold : (job.attempt libs exec).holdAutomaticRetry = true
    · rw [retryHold_complete_of_hold hsel hacc hhold, Option.some.injEq] at h
      exact .inl (by rw [← h])
    rw [Bool.not_eq_true] at hhold
    rcases retryHold_complete_of_not_hold hsel hacc hhold with hnone | hsame
    · rw [hnone] at h
      cases h
    · exact .inr (hsame.symm.trans h)
  · rw [Bool.not_eq_true] at hacc
    rw [complete_of_not_accepts hsel hacc, holdCompletion] at h
    split_ifs at h
    · simp only [setRetryHold, if_true, Option.some.injEq] at h
      exact .inl (by rw [← h])
    · exact .inr h

/-- An uncertain outcome of the loaded definition leaves a new hold. -/
theorem retryHold_complete_of_uncertain (hsel : job.selection = some selection)
    (hsame : scheduled.sameDefinition libs selection = true)
    (hhold : (job.attempt libs exec).holdAutomaticRetry = true) :
    ∃ input, (scheduled.complete libs fresh current job now exec).retryHold =
      some ⟨fresh, input⟩ := by
  by_cases hacc : scheduled.acceptsCompletion libs selection = true
  · exact ⟨_, retryHold_complete_of_hold hsel hacc hhold⟩
  · rw [Bool.not_eq_true] at hacc
    rw [complete_of_not_accepts hsel hacc, holdCompletion, hsame, hhold]
    exact ⟨_, rfl⟩

theorem Job.uncertain_eq_true {rules : RuleSet}
    (hfind : rules.find job.rule.id = some scheduled) :
    job.uncertain libs exec rules = true ↔
      (job.attempt libs exec).holdAutomaticRetry = true ∧
        ∃ selection, job.selection = some selection ∧
          scheduled.sameDefinition libs selection = true := by
  rw [Job.uncertain, hfind, Option.any_some, Bool.and_eq_true]
  cases job.selection with
  | none => simp
  | some selection => simp

end Completions

end AetherEdge.Rules
