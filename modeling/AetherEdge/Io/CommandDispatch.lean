import AetherEdge.Io.ChannelTask
import AetherEdge.Common.Transition

/-!
# What the channel task hands to its adapter

The commands of a channel wait in a queue. An iteration takes the first one, reads the clock, checks
every point of the command and then hands all of them to the adapter or none. Nothing else that the
task does writes to the device.

* `dispatched`: the writes are those of the commands received, each at most once and in order of
  receipt; each is of the kind of its command, in time, and permitted by the configuration, as long as
  the adjustments handed over are near the origin of their grid.
* `writes_between_steps`: farther away the check lets values between two steps pass.
-/

namespace AetherEdge.Io

open Transition

section Dispatch

variable {σ δ ε : Type} (runtime : ChannelRuntime σ δ ε) (ctx : ChannelPollContext)

/-- The queue, the commands taken out of it and the writes. -/
structure CommandLog where
  waiting : List ChannelCommand
  received : List (ChannelCommand × Int64)
  writes : List (PointType × List (UInt32 × F64))
  deriving DecidableEq

namespace ChannelTask

/-- The commands of a task. -/
def log (task : ChannelTask σ) : CommandLog := ⟨task.waiting, task.received, task.writes⟩

/-! ## Everything but a business command leaves the log alone -/

section Frame

variable (task : ChannelTask σ) (tick : Tick σ)

@[simp] theorem log_publish (online : Bool) : (task.publish online).log = task.log := by
  unfold publish; split <;> rfl

@[simp] theorem log_refresh : (task.refresh runtime).log = task.log := log_publish _ _

@[simp] theorem log_cacheDiagnostics : (task.cacheDiagnostics runtime).log = task.log := by
  unfold cacheDiagnostics; split <;> rfl

theorem log_handleProtocolCommand (command : ProtocolCommand) :
    (task.handleProtocolCommand runtime command).log = task.log := by
  cases command <;> rfl

theorem log_handleProtocolEvent (event : DataEvent δ) (nowMs : Int64) (stored : Bool) :
    (task.handleProtocolEvent event nowMs stored).log = task.log := by
  cases event with
  | dataUpdate batch => unfold handleProtocolEvent; dsimp only; split <;> rfl
  | connectionChanged state => exact log_publish _ _
  | error | heartbeat => rfl

theorem log_handleBackoffCommand (command : ProtocolCommand) :
    (task.handleBackoffCommand runtime command).2.log = task.log := by
  unfold handleBackoffCommand
  split
  · rfl
  · split <;> rfl
  · rfl
  · rfl

theorem log_attemptReconnect : (task.attemptReconnect runtime tick).log = task.log := by
  unfold attemptReconnect
  dsimp only
  split
  · exact log_refresh _ _
  · split
    · exact log_refresh _ _
    · exact log_refresh _ _

theorem log_handleFailed : (task.handleFailed runtime tick).log = task.log := by
  unfold handleFailed
  dsimp only
  split
  · exact log_refresh _ _
  · exact log_refresh _ _

theorem log_handleDisconnected : (task.handleDisconnected runtime tick).2.log = task.log := by
  unfold handleDisconnected
  dsimp only
  split
  · exact log_handleFailed _ _ _
  · rfl
  all_goals
    split
    · exact log_refresh _ _
    split
    · exact log_attemptReconnect _ _ _
    split
    · rw [log_refresh, log_handleBackoffCommand]
      rfl
    · exact log_attemptReconnect _ _ _

variable {task tick}

theorem log_handlePollData {eventDriven : Bool} {data : List δ} {after : ChannelTask σ}
    (h : task.handlePollData ctx tick eventDriven data = some after) : after.log = task.log := by
  unfold handlePollData at h
  split_ifs at h <;> cases h <;> rfl

theorem log_handlePollTick : (task.handlePollTick runtime ctx tick).2.log = task.log := by
  unfold handlePollTick
  dsimp only
  split
  · exact log_handleDisconnected _ _ _
  have hmarked : (if (task.beat tick.nowMs).helper.connectionState = .connected
      then task.beat tick.nowMs else (task.beat tick.nowMs).markConnected).log = task.log := by
    split <;> rfl
  split
  · rw [log_refresh]
    exact hmarked
  next after haft =>
    rw [log_refresh, log_cacheDiagnostics, log_handlePollData ctx haft]
    exact hmarked

theorem log_finishTick (result : TickAction × ChannelTask σ) :
    (finishTick runtime result).log = result.2.log := by
  obtain ⟨action, after⟩ := result
  cases action <;> rfl

end Frame

end ChannelTask

open ChannelTask

/-! ## A business command -/

/-- What is handed over of a command that is taken out of the queue at this time. -/
def handed (entry : ChannelCommand × Int64) : Option (PointType × List (UInt32 × F64)) :=
  let (pointType, points, timestamp, expiresAtMs) := commandPoints entry.1
  match firstRejected ctx pointType points timestamp expiresAtMs entry.2 with
  | some _ => none
  | none => some (pointType, points)

theorem log_handleBusinessCommand (task : ChannelTask σ) (command : ChannelCommand)
    (nowMs : Int64) :
    (task.handleBusinessCommand runtime ctx command nowMs).log =
      { task.log with writes := task.writes ++ (handed ctx (command, nowMs)).toList } := by
  unfold handleBusinessCommand handed
  dsimp only
  cases firstRejected ctx (commandPoints command).1 (commandPoints command).2.1
      (commandPoints command).2.2.1 (commandPoints command).2.2.2 nowMs with
  | some rejected =>
    dsimp only
    rw [Option.toList_none, List.append_nil]
    rfl
  | none => rfl

/-- What an input does to the commands. -/
def CommandLog.step (log : CommandLog) : TaskInput σ δ → CommandLog
  | .enqueue command => { log with waiting := log.waiting ++ [command] }
  | .businessCommand nowMs =>
    match log.waiting with
    | [] => log
    | command :: waiting =>
      ⟨waiting, log.received ++ [(command, nowMs)],
        log.writes ++ (handed ctx (command, nowMs)).toList⟩
  | _ => log

variable {task : ChannelTask σ}

theorem log_step (hrunning : task.running = true) (input : TaskInput σ δ) :
    (task.step runtime ctx input).log = task.log.step ctx input := by
  rw [step_running runtime ctx hrunning]
  cases input with
  | protocolCommand command =>
    rw [iterate]
    split
    · rfl
    · exact log_handleProtocolCommand runtime task command
  | enqueue | eventsClosed | background => rfl
  | businessCommand nowMs =>
    rw [iterate, CommandLog.step]
    cases hwaiting : task.waiting with
    | nil => simp only [log, hwaiting]
    | cons command waiting =>
      dsimp only
      rw [log_handleBusinessCommand]
      simp only [log, hwaiting]
  | event event nowMs stored =>
    rw [iterate]
    split
    · exact log_handleProtocolEvent task event nowMs stored
    · rfl
  | tick tick =>
    rw [iterate, log_finishTick]
    exact log_handlePollTick runtime ctx

/-! ## Runs -/

/-- The commands that are sent. -/
def sent (inputs : List (TaskInput σ δ)) : List ChannelCommand :=
  inputs.filterMap fun
    | .enqueue command => some command
    | _ => none

theorem run_stopped (h : task.running = false) (inputs : List (TaskInput σ δ)) :
    run (ChannelTask.step runtime ctx) task inputs = task := by
  induction inputs with
  | nil => rfl
  | cons input inputs ih =>
    rw [run_cons, step_stopped runtime ctx h]
    exact ih

/-- A step takes from the front of the queue and adds to its end. -/
theorem queue_step (log : CommandLog) (input : TaskInput σ δ) :
    (log.step ctx input).received.map Prod.fst ++ (log.step ctx input).waiting =
      log.received.map Prod.fst ++ log.waiting ++ sent [input] := by
  cases input with
  | enqueue command =>
    show log.received.map Prod.fst ++ (log.waiting ++ [command]) = _ ++ [command]
    rw [List.append_assoc]
  | businessCommand nowMs =>
    rw [CommandLog.step, show sent [(.businessCommand nowMs : TaskInput σ δ)] = [] from rfl,
      List.append_nil]
    cases hwaiting : log.waiting with
    | nil => rw [hwaiting]
    | cons command waiting => simp
  | protocolCommand | event | eventsClosed | tick | background => exact (List.append_nil _).symm

/-- What was taken out of the queue and what still waits in it came in this order. -/
theorem queue_run (task : ChannelTask σ) (inputs : List (TaskInput σ δ)) :
    let log := (run (ChannelTask.step runtime ctx) task inputs).log
    log.received.map Prod.fst ++ log.waiting <+:
      task.received.map Prod.fst ++ task.waiting ++ sent inputs := by
  induction inputs generalizing task with
  | nil => exact List.prefix_append _ _
  | cons input inputs ih =>
    cases hrunning : task.running with
    | false =>
      rw [run_stopped runtime ctx hrunning]
      exact List.prefix_append _ _
    | true =>
      have hstep := queue_step ctx task.log input
      rw [← log_step runtime ctx hrunning] at hstep
      have hrest := ih (task.step runtime ctx input)
      rw [show (task.step runtime ctx input).received.map Prod.fst ++
          (task.step runtime ctx input).waiting = _ from hstep, List.append_assoc] at hrest
      rw [show sent (input :: inputs) = sent [input] ++ sent inputs from
        @List.filterMap_append _ _ [input] inputs _]
      exact hrest

/-- Every write is that of a command received, in the same order. -/
def Recorded (log : CommandLog) : Prop := log.writes = log.received.filterMap (handed ctx)

theorem recorded_step {log : CommandLog} (h : Recorded ctx log) (input : TaskInput σ δ) :
    Recorded ctx (log.step ctx input) := by
  cases input with
  | businessCommand nowMs =>
    rw [CommandLog.step]
    split
    · exact h
    next command waiting hwaiting =>
      show log.writes ++ _ = (log.received ++ [(command, nowMs)]).filterMap (handed ctx)
      rw [List.filterMap_append, ← h]
      cases hhanded : handed ctx (command, nowMs) <;> simp [hhanded]
  | _ => exact h

theorem recorded_run (h : Recorded ctx task.log) (inputs : List (TaskInput σ δ)) :
    Recorded ctx (run (ChannelTask.step runtime ctx) task inputs).log := by
  have hevery : EveryState (ChannelTask.step runtime ctx) (fun task => Recorded ctx task.log) task
      inputs := by
    refine everyState_of_step ?_ ?_ inputs
    · intro task input hrecd
      cases hrunning : task.running with
      | false =>
        rw [step_stopped runtime ctx hrunning]
        exact hrecd
      | true =>
        rw [log_step runtime ctx hrunning]
        exact recorded_step ctx hrecd input
    · exact h
  exact hevery.last

/-! ## What is handed over -/

/-- The point of a command passes the guard at this time. -/
def Validated (entry : ChannelCommand × Int64) (point : UInt32 × F64) : Prop :=
  ctx.commandGuard.validate (commandPoints entry.1).1 point.1 point.2 (commandPoints entry.1).2.2.1
    (commandPoints entry.1).2.2.2 entry.2 = .ok ()

/-- A command is handed over as a whole when all its points pass, and not at all otherwise. -/
theorem handed_iff (entry : ChannelCommand × Int64) (write : PointType × List (UInt32 × F64)) :
    handed ctx entry = some write ↔
      write = ((commandPoints entry.1).1, (commandPoints entry.1).2.1) ∧
        ∀ point ∈ write.2, Validated ctx entry point := by
  have hrej : firstRejected ctx (commandPoints entry.1).1 (commandPoints entry.1).2.1
      (commandPoints entry.1).2.2.1 (commandPoints entry.1).2.2.2 entry.2 = none ↔
      ∀ point ∈ (commandPoints entry.1).2.1, Validated ctx entry point := by
    rw [firstRejected, List.findSome?_eq_none_iff]
    refine forall₂_congr fun point _ => ?_
    unfold Validated
    dsimp only
    cases ctx.commandGuard.validate (commandPoints entry.1).1 point.1 point.2
        (commandPoints entry.1).2.2.1 (commandPoints entry.1).2.2.2 entry.2 with
    | ok value => simp
    | error error => simp
  unfold handed
  dsimp only
  constructor
  · intro h
    split at h
    · cases h
    next hnone =>
      cases h
      exact ⟨rfl, hrej.1 hnone⟩
  · rintro ⟨rfl, hall⟩
    rw [hrej.2 hall]

/-- What the log of a channel has to be, given the configuration and the commands sent. -/
structure HandedOver (config : RuntimeChannelConfig) (commands : List ChannelCommand)
    (log : CommandLog) : Prop where
  /-- the commands are received in the order they were sent -/
  inOrder : log.received.map Prod.fst <+: commands
  /-- each of them is handed over at most once, in order of receipt -/
  once : log.writes = log.received.filterMap (handed ctx)
  /-- what is handed over is the command, in time and permitted -/
  sound : ∀ entry ∈ log.received, ∀ write, handed ctx entry = some write →
    write = ((commandPoints entry.1).1, (commandPoints entry.1).2.1) ∧
      ∀ point ∈ write.2, Validated ctx entry point ∧
        entry.2.toInt < (commandPoints entry.1).2.2.2.toInt ∧
        config.Permits write.1 point.1 point.2
  /-- one invalid point, and nothing of the command is handed over -/
  allOrNothing : ∀ entry ∈ log.received,
    (∃ point ∈ (commandPoints entry.1).2.1, ¬Validated ctx entry point) → handed ctx entry = none

/-- The adjustments that were handed over are near the origin of their grid. -/
def AdjustmentsNear (config : RuntimeChannelConfig) (log : CommandLog) : Prop :=
  ∀ write ∈ log.writes, write.1 = .adjustment →
    ∀ point ∈ write.2, config.NearOrigin point.1 point.2

/-- In every run of a channel whose guard was built from its configuration, and in which the
    adjustments handed over are near the origin of their grid, the adapter gets what it should. -/
theorem dispatched (config : RuntimeChannelConfig) (policy : ReconnectPolicy)
    (autoRecovery : Option AutoRecoveryPolicy) (protocol : σ) (inputs : List (TaskInput σ δ))
    (hguard : CommandGuard.fromRuntime config = .ok ctx.commandGuard)
    (hnear : AdjustmentsNear config (run (ChannelTask.step runtime ctx)
      (startTask runtime policy autoRecovery protocol) inputs).log) :
    HandedOver ctx config (sent inputs) (run (ChannelTask.step runtime ctx)
      (startTask runtime policy autoRecovery protocol) inputs).log := by
  have hstart : (startTask runtime policy autoRecovery protocol).log = ⟨[], [], []⟩ := by
    unfold startTask
    exact log_refresh _ _
  have hrecorded := recorded_run runtime ctx
    (show Recorded ctx (startTask runtime policy autoRecovery protocol).log by rw [hstart]; rfl)
    inputs
  have hqueue := queue_run runtime ctx (startTask runtime policy autoRecovery protocol) inputs
  have hempty : (startTask runtime policy autoRecovery protocol).received.map Prod.fst ++
      (startTask runtime policy autoRecovery protocol).waiting = [] := by
    rw [show (startTask runtime policy autoRecovery protocol).received = [] from
        congrArg CommandLog.received hstart,
      show (startTask runtime policy autoRecovery protocol).waiting = [] from
        congrArg CommandLog.waiting hstart]
    rfl
  rw [hempty, List.nil_append] at hqueue
  refine ⟨(List.prefix_append _ _).trans hqueue, hrecorded, ?_, ?_⟩
  · intro entry hentry write hwrite
    obtain ⟨heq, hall⟩ := (handed_iff ctx entry write).1 hwrite
    refine ⟨heq, fun point hpoint => ⟨hall point hpoint, ?_⟩⟩
    have hmem : write ∈ (run (ChannelTask.step runtime ctx)
        (startTask runtime policy autoRecovery protocol) inputs).log.writes := by
      rw [hrecorded]
      exact List.mem_filterMap.2 ⟨entry, hentry, hwrite⟩
    have hkind : write.1 = (commandPoints entry.1).1 := congrArg Prod.fst heq
    have hvalid := hall point hpoint
    unfold Validated at hvalid
    rw [← hkind] at hvalid
    exact CommandGuard.validate_permitted hguard hvalid fun hadjustment =>
      hnear write hmem hadjustment point hpoint
  · rintro entry hentry ⟨point, hpoint, hinvalid⟩
    cases hhanded : handed ctx entry with
    | none => rfl
    | some write =>
      obtain ⟨rfl, hall⟩ := (handed_iff ctx entry write).1 hhanded
      exact absurd (hall point hpoint) hinvalid

end Dispatch

/-! ## An adjustment point with steps of `1` from `0.1` on -/

open Domain

/-- An adapter that takes every write. -/
def accepting : ChannelRuntime Unit Unit Unit where
  isEventDriven _ := false
  connect _ := (.ok (), ())
  disconnect _ := (.ok (), ())
  pollOnce _ := (⟨[], []⟩, ())
  writeControl points _ := (.ok points.length, ())
  writeAdjustment points _ := (.ok points.length, ())
  takeEventReceiver _ := (false, ())
  startEvents _ := (.ok (), ())
  stopEvents _ := (.ok (), ())
  diagnostics _ := .error ()
  connectionState _ := .connected
  setLogConfig _ _ := ()

/-- Steps of `1` from `0.1` on. -/
def tenthPoint : AdjustmentPoint := ⟨⟨7, none⟩, some tenth, none, .one, .one, .zero⟩

/-- A channel with this point. -/
def tenthConfig : RuntimeChannelConfig := ⟨1, [], [], [], [tenthPoint]⟩

/-- The guard of this channel. -/
def tenthContext : ChannelPollContext := ⟨0, ⟨1, [], [(7, tenthGrid)]⟩⟩

/-- One adjustment of the point is sent and received. -/
def adjust (value : F64) : List (TaskInput Unit Unit) :=
  [.enqueue (.adjustment "command" 7 value 1 10), .businessCommand 5]

/-- The task after it. -/
def adjusted (value : F64) : ChannelTask Unit :=
  run (ChannelTask.step accepting tenthContext) (startTask accepting ⟨0⟩ none ()) (adjust value)

theorem fromRuntime_tenthConfig :
    CommandGuard.fromRuntime tenthConfig = .ok tenthContext.commandGuard := rfl

/-- `3.1`, three steps further. -/
def threeSteps : F64 := ⟨0x4008cccccccccccd⟩

theorem toRat_threeSteps : threeSteps.toRat = 6980579422424269 / 2 ^ 51 := by
  have hunits : threeSteps.units = 6980579422424269 * 2 ^ 1023 := by decide +kernel
  rw [F64.toRat, hunits, show (1074 : ℕ) = 51 + 1023 from rfl, pow_add]
  push_cast
  rw [mul_div_mul_right _ _ (by positivity)]

/-- The values `0.1` and `3.1` are sent, and received one after the other. -/
def adjustTwice : List (TaskInput Unit Unit) :=
  [.enqueue (.adjustment "origin" 7 tenth 1 10), .enqueue (.adjustment "further" 7 threeSteps 1 10),
    .businessCommand 5, .businessCommand 6]

theorem nearOrigin_tenth {value : F64} (h : value ∈ [tenth, threeSteps]) :
    NearOrigin tenthGrid .one value := by
  have hdiff : |value.toRat - tenth.toRat| ≤ 2 ^ 27 := by
    simp only [List.mem_cons, List.not_mem_nil, or_false] at h
    rcases h with rfl | rfl
    · rw [sub_self, abs_zero]
      positivity
    · rw [toRat_threeSteps, toRat_tenth]
      norm_num [abs_of_pos]
  refine ⟨?_, hdiff.trans_lt (pow_lt_pow_right₀ one_lt_two (by decide))⟩
  rwa [toRat_one, mul_one]

/-- Both are handed over, in their order, and rightly so. -/
theorem dispatched_twice :
    let task := run (ChannelTask.step accepting tenthContext) (startTask accepting ⟨0⟩ none ())
      adjustTwice
    task.log.writes = [(.adjustment, [(7, tenth)]), (.adjustment, [(7, threeSteps)])] ∧
      HandedOver tenthContext tenthConfig (sent adjustTwice) task.log := by
  have hwrites : (run (ChannelTask.step accepting tenthContext) (startTask accepting ⟨0⟩ none ())
      adjustTwice).log.writes = [(.adjustment, [(7, tenth)]), (.adjustment, [(7, threeSteps)])] := by
    decide +kernel
  refine ⟨hwrites, ?_⟩
  refine dispatched accepting tenthContext tenthConfig ⟨0⟩ none () adjustTwice
    fromRuntime_tenthConfig ?_
  intro write hwrite _ point hpoint configured hconfigured _
  rw [hwrites] at hwrite
  obtain rfl := List.mem_singleton.1 hconfigured
  refine nearOrigin_tenth ?_
  simp only [List.mem_cons, List.not_mem_nil, or_false] at hwrite
  rcases hwrite with rfl | rfl <;> obtain rfl := List.mem_singleton.1 hpoint <;> decide

/-- The value `2 ^ 53` is handed over as well, a tenth of a step off the grid. -/
theorem writes_between_steps :
    CommandGuard.fromRuntime tenthConfig = .ok tenthContext.commandGuard ∧
      (adjusted farValue).log.writes = [(.adjustment, [(7, farValue)])] ∧
      ¬tenthConfig.Permits .adjustment 7 farValue := by
  refine ⟨fromRuntime_tenthConfig, by decide +kernel, ?_⟩
  rintro ⟨point, hpoint, -, -, -, hgrid⟩
  obtain rfl := List.mem_singleton.1 hpoint
  exact accepted_between_steps.2 hgrid

end AetherEdge.Io
