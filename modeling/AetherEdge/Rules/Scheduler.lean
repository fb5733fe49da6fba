import AetherEdge.Common.Transition
import AetherEdge.Rules.Readings

/-!
# The rule scheduler

Model of `RuleScheduler` (`libs/aether-rules/src/scheduler.rs`) as a transition system. Ticks,
watch events, manual executions and reloads all run concurrently; what they share is the rule
set behind its lock, so a step is one of the sections that hold the lock, together with the
unlocked work that follows it:

* `reload`: a rule set from the database takes the place of the loaded one;
* `sample`: a tick or a watch event collects the subscriptions and reads their points;
* `select`: it picks the rules to execute;
* `begin`: a manual execution looks up its rule;
* `complete`: an execution is recorded, one update of the write section at a time.

What an execution read, evaluated and dispatched since its selection is data of its `complete`
step, and readings of points are data of the step that makes them. The identity of an
`Arc` is a number (`RetryHold.token`) that is never handed out twice.
-/

namespace AetherEdge.Rules

/-! ## Attempts -/

/-- `ExecutionAttempt`. The executor never returns an error, so the result
    is always there. -/
structure ExecutionAttempt where
  result : RuleExecutionResult
  timedOut : Bool

/-- `hold_automatic_retry` (lines 43-52). -/
def ExecutionAttempt.holdAutomaticRetry (attempt : ExecutionAttempt) : Bool :=
  attempt.timedOut ||
    (!attempt.result.success &&
      attempt.result.actionsExecuted.any fun action => action.success && action.pointType = .a)

/-- A reading of each point. -/
def Live := PointRef → Option F64

/-- What happens to an execution between its selection and its completion. -/
structure Execution where
  env : Environment
  timedOut : Bool
  /-- the readings of `execute_rule` before it executes -/
  sampled : Live
  /-- the readings after a timeout -/
  resampled : Live

/-- The timeout in `execute_with_timeout` (lines 55-79). -/
def timeoutResult (rule : Rule) : RuleExecutionResult where
  ruleId := rule.id
  success := false
  actionsExecuted := []
  error := some
    "Rule execution timed out after 30 seconds; device command outcome may be unknown"
  executionPath := []
  matchedCondition := none
  variableValues := HashMap.empty
  pointValues := HashMap.empty
  nodeDetails := HashMap.empty

/-- What `execute_with_timeout` (lines 55-79) appends to the error. -/
def heldText : String :=
  "; automatic retries held for this input; reconcile device state before explicit execution" ++
    " or changing the rule"

/-- The outcome of the executor or of the timer, whichever comes first. -/
def executeOrTimeOut (libs : Libraries) (exec : Execution) (rule : Rule) : ExecutionAttempt :=
  if exec.timedOut then ⟨timeoutResult rule, true⟩
  else ⟨(execute libs exec.env rule).result, false⟩

/-- The note in `execute_with_timeout` (lines 55-79). -/
def ExecutionAttempt.noteHold (attempt : ExecutionAttempt) : ExecutionAttempt :=
  if attempt.holdAutomaticRetry then
    { attempt with
      result :=
        { attempt.result with error := some (attempt.result.error.getD "" ++ heldText) } }
  else attempt

/-- `execute_with_timeout` (lines 55-79). -/
def executeWithTimeout (libs : Libraries) (exec : Execution) (rule : Rule) : ExecutionAttempt :=
  (executeOrTimeOut libs exec rule).noteHold

/-! ## Triggers -/

/-- `HashMap<String, Option<f64>>`: the sampled points by their keys. -/
abbrev Snapshot := HashMap (Option F64)

/-- `snapshot.get(&key).copied().flatten().filter(|value| value.is_finite())`. -/
def Snapshot.finite (snapshot : Snapshot) (key : String) : Option F64 :=
  (snapshot.get key).join.filter F64.isFinite

/-- `fetch_point_snapshot` (lines 1067-1085). -/
def fetchPointSnapshot (live : Live) (subscriptions : List PointRef) : Snapshot :=
  HashMap.empty.fill subscriptions PointRef.cacheKey fun ref =>
    some ((live ref).filter F64.isFinite)

/-- `now.duration_since(start).as_millis() as u64`, with instants in nanoseconds. -/
def elapsedMs (now start : ℕ) : ℕ := (now - start) / 1000000 % 2 ^ 64

/-- `exceeds` (lines 130-144). -/
def ValueDeadband.exceeds (arith : F64.Arithmetic) (deadband : ValueDeadband) (last new : F64) :
    Bool :=
  let delta := (arith.sub new last).abs
  match deadband with
  | .absolute threshold => threshold.lt delta
  | .percent threshold =>
    let basis := last.abs
    if basis.eq F64.zero then !new.eq F64.zero
    else threshold.lt (arith.mul (arith.div delta basis) F64.hundred)

/-- Lines 190-197. -/
structure OnChangeState where
  lastValue : HashMap F64
  lastTrigger : Option ℕ

/-- `should_trigger_onchange` (lines 204-242). -/
def shouldTriggerOnchange (arith : F64.Arithmetic) (state : OnChangeState)
    (pointRefs : List PointRef) (timeDeadbandMs : Option ℕ) (valueDeadband : Option ValueDeadband)
    (snapshot : Snapshot) (now : ℕ) : Bool :=
  let gated :=
    match timeDeadbandMs, state.lastTrigger with
    | some td, some last => decide (elapsedMs now last < td)
    | _, _ => false
  !gated && pointRefs.any fun ref =>
    match snapshot.finite ref.cacheKey with
    | none => false
    | some new =>
      match state.lastValue.get ref.cacheKey with
      | none => true
      | some last =>
        match valueDeadband with
        | some deadband => deadband.exceeds arith last new
        | none => last.totalCmp new != .eq

/-- `resolve_trigger` (lines 383-395); whether the stored text was corrupt is only logged. -/
def resolveTrigger (libs : Libraries) (raw : Option String) (cooldownMs : ℕ) : TriggerConfig :=
  let fallback := TriggerConfig.interval (if 0 < cooldownMs then cooldownMs else 1000)
  match raw with
  | none => fallback
  | some json => (libs.parseTrigger json).getD fallback

/-! ## Scheduled rules -/

/-- `Arc<HashMap<String, Option<f64>>>` with the identity of the `Arc`. -/
structure RetryHold where
  token : ℕ
  input : Snapshot

/-- The part of `ScheduledRule` that executions change. -/
structure Schedule where
  lastExecution : Option ℕ
  lastCooldownStart : Option ℕ
  retryHold : Option RetryHold
  onchangeState : OnChangeState

/-- A rule that was never executed. -/
def Schedule.initial : Schedule := ⟨none, none, none, ⟨HashMap.empty, none⟩⟩

/-- Lines 245-258. -/
structure ScheduledRule extends Schedule where
  rule : Rule
  trigger : TriggerConfig

/-- Lines 262-266. -/
structure ExecutionSelection where
  rule : Rule
  trigger : TriggerConfig
  retryHold : Option RetryHold

/-- The value `advance_onchange` (lines 354-375) takes for a point. -/
def baselineValue (pointValues : HashMap F64) (snapshot : Snapshot) (key : String) : Option F64 :=
  ((pointValues.get key).or (snapshot.get key).join).filter F64.isFinite

namespace ScheduledRule

variable (libs : Libraries) (scheduled : ScheduledRule)

/-- `select_execution` (lines 290-296). -/
def selectExecution : ExecutionSelection :=
  ⟨scheduled.rule, scheduled.trigger, scheduled.retryHold⟩

/-- The definition is still this one. -/
def sameDefinition (selection : ExecutionSelection) : Bool :=
  sameExecutionDefinition libs scheduled.rule scheduled.trigger selection.rule selection.trigger

/-- `accepts_completion` (lines 298-309). -/
def acceptsCompletion (selection : ExecutionSelection) : Bool :=
  scheduled.sameDefinition libs selection &&
    match scheduled.retryHold, selection.retryHold with
    | none, none => true
    | some current, some selected => current.token == selected.token
    | _, _ => false

/-- `automatic_retry_held` (lines 311-332). -/
def automaticRetryHeld (snapshot : Snapshot) : Bool :=
  match scheduled.retryHold with
  | none => false
  | some held =>
    match scheduled.trigger with
    | .interval _ => true
    | .onChange pointRefs _ _ =>
      !pointRefs.any fun ref =>
        match snapshot.finite ref.cacheKey with
        | none => false
        | some value =>
          (held.input.get ref.cacheKey).join.all fun prior => prior.totalCmp value != .eq

/-- The input `set_retry_hold` (lines 334-352) keeps. -/
def heldInput (snapshot : Snapshot) : Snapshot :=
  HashMap.empty.fill scheduled.trigger.pointRefs PointRef.cacheKey fun ref =>
    some (snapshot.finite ref.cacheKey)

/-- `set_retry_hold` (lines 334-352), in a new `Arc`. -/
def setRetryHold (fresh : ℕ) (hold : Bool) (snapshot : Snapshot) : Option RetryHold :=
  if hold then some ⟨fresh, scheduled.heldInput snapshot⟩ else none

/-- `advance_onchange` (lines 354-375). -/
def advanceOnchange (pointValues : HashMap F64) (snapshot : Snapshot) (now : ℕ) : OnChangeState :=
  match scheduled.trigger with
  | .interval _ => scheduled.onchangeState
  | .onChange pointRefs _ _ =>
    { lastValue := scheduled.onchangeState.lastValue.fill pointRefs PointRef.cacheKey fun ref =>
        baselineValue pointValues snapshot ref.cacheKey
      lastTrigger := some now }

/-- What `accept_or_hold_completion` (lines 1004-1030) leaves when it does not accept the
    completion. -/
def holdCompletion (fresh : ℕ) (current : Live) (selection : ExecutionSelection) (hold : Bool) :
    Schedule :=
  if hold && scheduled.sameDefinition libs selection then
    { scheduled.toSchedule with
      retryHold := scheduled.setRetryHold fresh true
        (fetchPointSnapshot current scheduled.trigger.pointRefs) }
  else scheduled.toSchedule

end ScheduledRule

/-- `retry_input` (lines 1032-1060). -/
def retryInput (attempt : ExecutionAttempt) (trigger : TriggerConfig) (snapshot : Snapshot)
    (resampled : Live) : Option Snapshot :=
  if attempt.holdAutomaticRetry then
    if attempt.timedOut then some (fetchPointSnapshot resampled trigger.pointRefs)
    else
      some (snapshot.extend (attempt.result.pointValues.filterMap fun value =>
        if value.isFinite then some (some value) else none))
  else none

/-! ## The rule set -/

/-- The rule table: ids are its primary key. -/
structure Database where
  rules : List Rule
  unique : (rules.map (·.id)).Nodup

/-- `load_enabled_rules` (`repository.rs:107-124`). -/
def Database.loadEnabledRules (db : Database) : List Rule := db.rules.filter (·.enabled)

/-- `get_rule_for_execution` (`repository.rs:88-104`). -/
def Database.getRuleForExecution (db : Database) (ruleId : ℤ) : Option Rule :=
  db.loadEnabledRules.find? fun rule => rule.id = ruleId

/-- The loaded rules. Their ids are different because those of the table are. -/
structure RuleSet where
  entries : List ScheduledRule
  unique : (entries.map (·.rule.id)).Nodup

namespace RuleSet

variable (libs : Libraries) (rules : RuleSet)

/-- `rules.iter_mut().find(|scheduled| scheduled.rule.id == id)`. -/
def find (ruleId : ℤ) : Option ScheduledRule :=
  rules.entries.find? fun scheduled => scheduled.rule.id = ruleId

/-- What a freshly loaded rule becomes with the state of its predecessor (`preserve_schedule_state`
    (lines 403-422)). -/
def carry (prior : Option ScheduledRule) (rule : Rule) : ScheduledRule :=
  let trigger := resolveTrigger libs rule.triggerConfig rule.cooldownMs
  match prior with
  | none => { Schedule.initial with rule, trigger }
  | some prior =>
    { prior.toSchedule with
      rule, trigger
      retryHold :=
        if sameExecutionDefinition libs rule trigger prior.rule prior.trigger then prior.retryHold
        else none }

/-- `load_rules` (lines 572-607). -/
def load (db : Database) : RuleSet where
  entries := db.loadEnabledRules.map fun rule => carry libs (rules.find rule.id) rule
  unique := by
    have hids : ∀ rule, (carry libs (rules.find rule.id) rule).rule.id = rule.id := by
      intro rule
      unfold carry
      cases rules.find rule.id <;> rfl
    have hmap : (db.loadEnabledRules.map fun rule => carry libs (rules.find rule.id) rule).map
        (·.rule.id) = db.loadEnabledRules.map (·.id) := by
      rw [List.map_map]
      exact List.map_congr_left fun rule _ => hids rule
    rw [hmap]
    exact db.unique.sublist (List.filter_sublist.map _)

/-- One update under the write lock. -/
def update (ruleId : ℤ) (change : ScheduledRule → Schedule) : RuleSet where
  entries := rules.entries.map fun scheduled =>
    if scheduled.rule.id = ruleId then { scheduled with toSchedule := change scheduled }
    else scheduled
  unique := by
    have hmap : (rules.entries.map fun scheduled =>
        if scheduled.rule.id = ruleId then { scheduled with toSchedule := change scheduled }
        else scheduled).map (·.rule.id) = rules.entries.map (·.rule.id) := by
      rw [List.map_map]
      refine List.map_congr_left fun scheduled _ => ?_
      show (if scheduled.rule.id = ruleId then _ else scheduled : ScheduledRule).rule.id = _
      split_ifs <;> rfl
    rw [hmap]
    exact rules.unique

end RuleSet

/-! ## The system -/

/-- What makes the scheduler look at its rules. -/
inductive Cause where
  | tick
  | watch (ruleIds : List ℤ)

/-- A tick or a watch event that has sampled its points and not selected yet. -/
structure Pass where
  cause : Cause
  now : ℕ
  snapshot : Snapshot

/-- An execution that has been selected and not recorded yet. -/
inductive Job where
  | automatic (selection : ExecutionSelection) (isOnchange : Bool) (now : ℕ)
      (snapshot : Snapshot)
  | manual (rule : Rule) (trigger : TriggerConfig) (selection : Option ExecutionSelection)

/-- The rule it executes. -/
def Job.rule : Job → Rule
  | .automatic selection .. => selection.rule
  | .manual rule .. => rule

/-- Its trigger. -/
def Job.trigger : Job → TriggerConfig
  | .automatic selection .. => selection.trigger
  | .manual _ trigger _ => trigger

/-- What it was selected with. -/
def Job.selection : Job → Option ExecutionSelection
  | .automatic selection .. => some selection
  | .manual _ _ selection => selection

/-- A job and the time of its selection, in completions recorded before it. -/
structure Running where
  job : Job
  since : ℕ

/-- `RuleScheduler` (lines 442-469) with what is under way. -/
structure State where
  rules : RuleSet
  passes : List Pass
  running : List Running
  /-- the completions recorded so far; the next `Arc` is this one -/
  fresh : ℕ
  /-- the uncertain outcomes so far, by rule and time. Nothing looks at them but statements. -/
  uncertain : List (ℤ × ℕ)

/-- The steps of the scheduler. -/
inductive Op where
  | reload (db : Database)
  | sample (cause : Cause) (now : ℕ) (live : Live)
  | select (pass : ℕ)
  | begin (db : Database) (ruleId : ℤ)
  | complete (job : ℕ) (exec : Execution) (now : ℕ) (current : Live)

section System

variable (libs : Libraries)

/-- Whether the cause is about the rule. -/
def Cause.covers (cause : Cause) (scheduled : ScheduledRule) : Bool :=
  match cause with
  | .tick => true
  | .watch ruleIds => ruleIds.contains scheduled.rule.id

/-- The subscriptions a pass reads. -/
def Cause.subscriptions (cause : Cause) (rules : RuleSet) : List PointRef :=
  (rules.entries.filter fun scheduled => scheduled.rule.enabled && cause.covers scheduled).flatMap
    fun scheduled => scheduled.trigger.pointRefs

/-- Whether the rule is due. A watch event passes over `Interval` rules. -/
def ScheduledRule.shouldExecute (scheduled : ScheduledRule) (pass : Pass) : Bool :=
  match scheduled.trigger with
  | .interval intervalMs =>
    match pass.cause with
    | .tick => scheduled.lastExecution.all fun last => decide (intervalMs ≤ elapsedMs pass.now last)
    | .watch _ => false
  | .onChange pointRefs timeDeadbandMs valueDeadband =>
    shouldTriggerOnchange libs.arithmetic scheduled.onchangeState pointRefs timeDeadbandMs
      valueDeadband pass.snapshot pass.now

/-- The cooldown in `tick` (lines 694-922). -/
def ScheduledRule.cooldownOk (scheduled : ScheduledRule) (now : ℕ) : Bool :=
  scheduled.rule.cooldownMs == 0 ||
    scheduled.lastCooldownStart.all fun start =>
      decide (scheduled.rule.cooldownMs ≤ elapsedMs now start)

/-- The selection in `tick` (lines 694-922). -/
def ScheduledRule.selectedBy (scheduled : ScheduledRule) (pass : Pass) : Bool :=
  scheduled.rule.enabled && pass.cause.covers scheduled &&
    !scheduled.automaticRetryHeld pass.snapshot &&
    scheduled.shouldExecute libs pass && scheduled.cooldownOk pass.now

/-- The executions a pass starts. -/
def Pass.jobs (pass : Pass) (rules : RuleSet) : List Job :=
  (rules.entries.filter fun scheduled => scheduled.selectedBy libs pass).map fun scheduled =>
    .automatic scheduled.selectExecution scheduled.trigger.isOnChange pass.now pass.snapshot

/-- The job of `execute_rule` (lines 943-1002). -/
def manualJob (rules : RuleSet) (rule : Rule) : Job :=
  let trigger := resolveTrigger libs rule.triggerConfig rule.cooldownMs
  .manual rule trigger
    ((rules.entries.find? fun scheduled =>
      sameExecutionDefinition libs scheduled.rule scheduled.trigger rule trigger).map
      ScheduledRule.selectExecution)

/-- The completion in `tick` (lines 694-922). -/
def ScheduledRule.completeAutomatic (scheduled : ScheduledRule) (fresh : ℕ) (current : Live)
    (selection : ExecutionSelection) (isOnchange : Bool) (now : ℕ) (snapshot : Snapshot)
    (exec : Execution) : Schedule :=
  let attempt := executeWithTimeout libs exec selection.rule
  let hold := attempt.holdAutomaticRetry
  if scheduled.acceptsCompletion libs selection then
    { lastExecution := some now
      retryHold := scheduled.setRetryHold fresh hold
        ((retryInput attempt selection.trigger snapshot exec.resampled).getD snapshot)
      lastCooldownStart :=
        if attempt.result.success && !attempt.result.actionsExecuted.isEmpty then some now
        else scheduled.lastCooldownStart
      onchangeState :=
        if isOnchange && attempt.result.success then
          scheduled.advanceOnchange attempt.result.pointValues snapshot now
        else scheduled.onchangeState }
  else scheduled.holdCompletion libs fresh current selection hold

/-- The completion in `execute_rule` (lines 943-1002). -/
def ScheduledRule.completeManual (scheduled : ScheduledRule) (fresh : ℕ) (current : Live)
    (rule : Rule) (trigger : TriggerConfig) (selection : ExecutionSelection) (now : ℕ)
    (exec : Execution) : Schedule :=
  let snapshot := fetchPointSnapshot exec.sampled trigger.pointRefs
  let attempt := executeWithTimeout libs exec rule
  let hold := attempt.holdAutomaticRetry
  if scheduled.acceptsCompletion libs selection then
    if hold then
      { scheduled.toSchedule with
        retryHold := scheduled.setRetryHold fresh true
          ((retryInput attempt trigger snapshot exec.resampled).getD snapshot) }
    else if scheduled.retryHold.isSome && attempt.result.success then
      { lastExecution := some now
        retryHold := scheduled.setRetryHold fresh false snapshot
        lastCooldownStart :=
          if !attempt.result.actionsExecuted.isEmpty then some now
          else scheduled.lastCooldownStart
        onchangeState := scheduled.advanceOnchange attempt.result.pointValues snapshot now }
    else scheduled.toSchedule
  else scheduled.holdCompletion libs fresh current selection hold

/-- What a completion makes of the schedule of its rule. -/
def ScheduledRule.complete (scheduled : ScheduledRule) (fresh : ℕ) (current : Live) (job : Job)
    (now : ℕ) (exec : Execution) : Schedule :=
  match job with
  | .automatic selection isOnchange selectedAt snapshot =>
    scheduled.completeAutomatic libs fresh current selection isOnchange selectedAt snapshot exec
  | .manual rule trigger (some selection) =>
    scheduled.completeManual libs fresh current rule trigger selection now exec
  | .manual _ _ none => scheduled.toSchedule

/-- How its execution ends. -/
def Job.attempt (job : Job) (exec : Execution) : ExecutionAttempt :=
  executeWithTimeout libs exec job.rule

/-- Whether the completion of a job is an uncertain outcome of the loaded definition. -/
def Job.uncertain (job : Job) (exec : Execution) (rules : RuleSet) : Bool :=
  (job.attempt libs exec).holdAutomaticRetry &&
    (rules.find job.rule.id).any fun scheduled =>
      job.selection.any fun selection => scheduled.sameDefinition libs selection

/-- The transition function. A step that names a pass or a job that is not there changes
    nothing. -/
def step (s : State) : Op → State
  | .reload db => { s with rules := s.rules.load libs db }
  | .sample cause now live =>
    let subscriptions := cause.subscriptions s.rules
    match cause, subscriptions with
    -- a watch event without subscriptions ends here
    | .watch _, [] => s
    | cause, subscriptions =>
      { s with passes := s.passes ++ [⟨cause, now, fetchPointSnapshot live subscriptions⟩] }
  | .select i =>
    match s.passes[i]? with
    | none => s
    | some pass =>
      { s with
        passes := s.passes.eraseIdx i
        running := s.running ++ (pass.jobs libs s.rules).map (⟨·, s.fresh⟩) }
  | .begin db ruleId =>
    match db.getRuleForExecution ruleId with
    | none => s
    | some rule => { s with running := s.running ++ [⟨manualJob libs s.rules rule, s.fresh⟩] }
  | .complete i exec now current =>
    match s.running[i]? with
    | none => s
    | some running =>
      let ruleId := running.job.rule.id
      { rules := s.rules.update ruleId fun scheduled =>
          scheduled.complete libs s.fresh current running.job now exec
        passes := s.passes
        running := s.running.eraseIdx i
        fresh := s.fresh + 1
        uncertain :=
          if running.job.uncertain libs exec s.rules then s.uncertain ++ [(ruleId, s.fresh)]
          else s.uncertain }

/-- `RuleScheduler::new` (lines 479-495). -/
def State.initial : State := ⟨⟨[], List.nodup_nil⟩, [], [], 0, []⟩

end System

end AetherEdge.Rules
