import AetherEdge.Io.ChannelTask
import AetherEdge.Common.Transition

/-!
# Reconnection of a channel without a limit of attempts

A poll tick that finds the adapter offline records an attempt, which puts the helper into the state
`Reconnecting`, waits, and then connects. A protocol command that arrives in the wait ends the tick
before the connect. Unless it is a `Connect` that succeeds, the helper stays in `Reconnecting`, and
every later tick that finds the adapter offline takes that as an attempt under way and returns.

* `reconnects`: in a run whose waits are ended by nothing but time, `Shutdown` or a `Connect` that
  succeeds, every tick that finds the adapter offline starts an attempt or is ended by such a command,
  and in every state the next tick that waits to the end starts one.
* `never_reconnects`: one `SetLogLevel` in the second wait, and no attempt is ever started again.
-/

namespace AetherEdge.Io

open Transition

section Reconnection

variable {σ δ ε : Type} (runtime : ChannelRuntime σ δ ε) (ctx : ChannelPollContext)

namespace ChannelTask

/-! ## What the parts of a tick leave alone -/

section Frame

variable (task : ChannelTask σ) (online : Bool)

@[simp] theorem helper_publish : (task.publish online).helper = task.helper := by
  unfold publish; split <;> rfl

@[simp] theorem protocol_publish : (task.publish online).protocol = task.protocol := by
  unfold publish; split <;> rfl

@[simp] theorem attempts_publish : (task.publish online).attempts = task.attempts := by
  unfold publish; split <;> rfl

@[simp] theorem running_publish : (task.publish online).running = task.running := by
  unfold publish; split <;> rfl

@[simp] theorem helper_refresh : (task.refresh runtime).helper = task.helper :=
  helper_publish _ _

@[simp] theorem protocol_refresh : (task.refresh runtime).protocol = task.protocol :=
  protocol_publish _ _

@[simp] theorem attempts_refresh : (task.refresh runtime).attempts = task.attempts :=
  attempts_publish _ _

@[simp] theorem running_refresh : (task.refresh runtime).running = task.running :=
  running_publish _ _

@[simp] theorem helper_cacheDiagnostics :
    (task.cacheDiagnostics runtime).helper = task.helper := by
  unfold cacheDiagnostics; split <;> rfl

variable {task}

theorem helper_handlePollData {tick : Tick σ} {eventDriven : Bool} {data : List δ}
    {after : ChannelTask σ} (h : task.handlePollData ctx tick eventDriven data = some after) :
    after.helper = task.helper := by
  unfold handlePollData at h
  split_ifs at h <;> cases h <;> rfl

/-- Nothing but a tick touches the helper or starts an attempt. -/
theorem step_other (task : ChannelTask σ) {input : TaskInput σ δ}
    (h : ∀ tick, input ≠ .tick tick) :
    (task.step runtime ctx input).helper = task.helper ∧
      (task.step runtime ctx input).attempts = task.attempts := by
  unfold step
  split
  · cases input with
    | tick tick => exact absurd rfl (h tick)
    | protocolCommand command =>
      rw [iterate]
      split
      · exact ⟨rfl, rfl⟩
      · cases command <;> exact ⟨rfl, rfl⟩
    | businessCommand nowMs =>
      rw [iterate]
      split
      · exact ⟨rfl, rfl⟩
      · unfold handleBusinessCommand
        dsimp only
        split <;> exact ⟨rfl, rfl⟩
    | event event nowMs stored =>
      rw [iterate]
      split
      · cases event with
        | dataUpdate batch =>
          unfold handleProtocolEvent
          dsimp only
          split <;> exact ⟨rfl, rfl⟩
        | connectionChanged state => exact ⟨helper_publish _ _, attempts_publish _ _⟩
        | error | heartbeat => exact ⟨rfl, rfl⟩
      · exact ⟨rfl, rfl⟩
    | enqueue command | eventsClosed | background protocol => exact ⟨rfl, rfl⟩
  · exact ⟨rfl, rfl⟩

end Frame

/-! ## An offline tick -/

/-- The helper never gives up, and while the task runs no attempt is under way between its steps. -/
structure Ready (task : ChannelTask σ) : Prop where
  unlimited : task.helper.Unlimited
  idle : task.running = true →
    task.helper.connectionState = .connected ∨ task.helper.connectionState = .disconnected

/-- The task once an attempt is recorded, at the start of the wait. -/
def recorded (task : ChannelTask σ) : ChannelTask σ :=
  { task with
    shared.reconnectTotalAttempts := task.helper.totalAttempts
    helper.currentAttempt := task.helper.currentAttempt + 1
    helper.totalAttempts := task.helper.totalAttempts + 1
    helper.connectionState := .reconnecting }

/-- An offline tick of this task waits before its attempt. -/
def waits (task : ChannelTask σ) : Prop := 1 < task.helper.totalAttempts + 1

instance (task : ChannelTask σ) : Decidable task.waits := inferInstanceAs (Decidable (_ < _))

variable {task : ChannelTask σ} {tick : Tick σ}

theorem handleDisconnected_allowed
    (hidle : task.helper.connectionState = .connected ∨ task.helper.connectionState = .disconnected)
    (hall : task.helper.exhausted = false) :
    task.handleDisconnected runtime tick =
      match tick.backoff with
      | .elapsed => (.continue, task.recorded.attemptReconnect runtime tick)
      | .command command =>
        if task.waits then
          ((task.recorded.handleBackoffCommand runtime command).1.getD .continue,
            (task.recorded.handleBackoffCommand runtime command).2.refresh runtime)
        else (.continue, task.recorded.attemptReconnect runtime tick) := by
  have hmarked : task.helper.markDisconnected.exhausted = false := hall
  rcases hidle with hidle | hidle
  · simp only [handleDisconnected, hidle, if_true, ReconnectHelper.recordAttempt_allowed hmarked]
    rfl
  · simp only [handleDisconnected, hidle, reduceCtorEq, if_false,
      ReconnectHelper.recordAttempt_allowed hall]
    rfl

theorem ready_of_markConnected {helper : ReconnectHelper} (hhelper : helper.Unlimited)
    (h : task.helper = helper.markConnected) : task.Ready :=
  ⟨by rw [h]; exact hhelper, fun _ => .inl (by rw [h]; rfl)⟩

theorem ready_of_recordFailure {helper : ReconnectHelper} {now : ℕ} (hhelper : helper.Unlimited)
    (h : task.helper = helper.recordFailure now) : task.Ready := by
  rw [ReconnectHelper.recordFailure_unlimited hhelper] at h
  exact ⟨by rw [h]; exact hhelper, fun _ => .inr (by rw [h]; rfl)⟩

theorem Ready.of_same (h : task.Ready) {after : ChannelTask σ} (hhelper : after.helper = task.helper)
    (hrunning : after.running = true → task.running = true) : after.Ready :=
  ⟨by rw [hhelper]; exact h.unlimited, fun haft => by rw [hhelper]; exact h.idle (hrunning haft)⟩

theorem attempts_attemptReconnect :
    (task.attemptReconnect runtime tick).attempts = task.attempts + 1 := by
  unfold attemptReconnect
  dsimp only
  split
  · exact attempts_refresh _ _
  · split
    · exact attempts_refresh _ _
    · exact attempts_refresh _ _

/-- Whatever comes of an attempt, the next one is possible. -/
theorem ready_attemptReconnect (h : task.helper.Unlimited) :
    (task.attemptReconnect runtime tick).Ready := by
  unfold attemptReconnect
  dsimp only
  split
  · exact ready_of_recordFailure h (helper_refresh _ _)
  · split
    · exact ready_of_markConnected h (helper_refresh _ _)
    · exact ready_of_recordFailure h (helper_refresh _ _)

end ChannelTask

open ChannelTask

/-- The command ends a wait without stranding the helper. -/
def Settles (task : ChannelTask σ) : ProtocolCommand → Prop
  | .shutdown => True
  | .connect => (runtime.connectAndStartEvents task.protocol).1.isOk = true
  | .disconnect => False
  | .setLogLevel _ => False

/-- If a command ends the wait of this step, it is one that settles. -/
def Calm (task : ChannelTask σ) (input : TaskInput σ δ) : Prop :=
  ∀ tick command, input = .tick tick → task.running = true →
    runtime.online task.protocol = false → task.waits → tick.backoff = .command command →
    Settles runtime task command

/-- The tick starts an attempt, or a command that settles ends its wait. -/
def Reconnects (task : ChannelTask σ) (tick : Tick σ) : Prop :=
  (task.step runtime ctx (.tick tick : TaskInput σ δ)).attempts = task.attempts + 1 ∨
    ∃ command, tick.backoff = .command command ∧ Settles runtime task command

variable {task : ChannelTask σ} {tick : Tick σ}

/-- A command that settles ends the task or leaves the helper in the state `Connected`. -/
theorem ready_of_settles {command : ProtocolCommand} (hunlim : task.helper.Unlimited)
    (h : Settles runtime task command) :
    (finishTick runtime ((task.recorded.handleBackoffCommand runtime command).1.getD .continue,
      (task.recorded.handleBackoffCommand runtime command).2.refresh runtime)).Ready := by
  have hrecd : task.recorded.helper.Unlimited := hunlim
  cases command with
  | shutdown =>
    refine ⟨?_, fun hrunning => by cases hrunning⟩
    show ((task.recorded).refresh runtime).helper.Unlimited
    rw [helper_refresh]
    exact hrecd
  | connect =>
    cases hconn : runtime.connectAndStartEvents task.protocol with
    | mk result protocol =>
      cases result with
      | error error => simp [Settles, hconn, Except.isOk, Except.toBool] at h
      | ok value =>
        have hproto : task.recorded.protocol = task.protocol := rfl
        simp only [handleBackoffCommand, hproto, hconn, Option.getD_none, finishTick]
        exact ready_of_markConnected hrecd (helper_refresh _ _)
  | disconnect | setLogLevel => exact h.elim

theorem handleDisconnected_spec (hrdy : task.Ready) (hrunning : task.running = true)
    (hcalm : ∀ command, task.waits → tick.backoff = .command command →
      Settles runtime task command) :
    (finishTick runtime (task.handleDisconnected runtime tick)).Ready ∧
      ((finishTick runtime (task.handleDisconnected runtime tick)).attempts = task.attempts + 1 ∨
        ∃ command, tick.backoff = .command command ∧ Settles runtime task command) ∧
      (tick.backoff = .elapsed →
        (finishTick runtime (task.handleDisconnected runtime tick)).attempts =
          task.attempts + 1) := by
  rw [handleDisconnected_allowed runtime (hrdy.idle hrunning) hrdy.unlimited.exhausted]
  have hatt : (task.recorded.attemptReconnect runtime tick).attempts = task.attempts + 1 ∧
      (task.recorded.attemptReconnect runtime tick).Ready :=
    ⟨attempts_attemptReconnect runtime, ready_attemptReconnect runtime hrdy.unlimited⟩
  cases hbackoff : tick.backoff with
  | elapsed => exact ⟨hatt.2, .inl hatt.1, fun _ => hatt.1⟩
  | command command =>
    dsimp only
    by_cases hwaits : task.waits
    · have hsettles := hcalm command hwaits hbackoff
      rw [if_pos hwaits]
      exact ⟨ready_of_settles runtime hrdy.unlimited hsettles, .inr ⟨command, rfl, hsettles⟩,
        by simp⟩
    · rw [if_neg hwaits]
      exact ⟨hatt.2, .inl hatt.1, by simp⟩

theorem step_tick_offline (hrunning : task.running = true)
    (hoff : runtime.online task.protocol = false) :
    task.step runtime ctx (.tick tick : TaskInput σ δ) =
      finishTick runtime ((task.beat tick.nowMs).handleDisconnected runtime tick) := by
  have hbeat : (task.beat tick.nowMs).protocol = task.protocol := rfl
  rw [step_running runtime ctx hrunning]
  simp only [iterate, handlePollTick, hbeat, hoff, Bool.not_false, if_true]

theorem step_offline (hrdy : task.Ready) (hrunning : task.running = true)
    (hoff : runtime.online task.protocol = false)
    (hcalm : Calm runtime task (.tick tick : TaskInput σ δ)) :
    (task.step runtime ctx (.tick tick : TaskInput σ δ)).Ready ∧
      Reconnects runtime ctx task tick ∧
      (tick.backoff = .elapsed →
        (task.step runtime ctx (.tick tick : TaskInput σ δ)).attempts = task.attempts + 1) := by
  unfold Reconnects
  rw [step_tick_offline runtime ctx hrunning hoff]
  -- the heartbeat that the tick writes first changes nothing of this
  have hbeat : (task.beat tick.nowMs).Ready := hrdy.of_same rfl id
  refine handleDisconnected_spec runtime hbeat hrunning fun command hwaits hbackoff => ?_
  have hsettles := hcalm tick command rfl hrunning hoff hwaits hbackoff
  cases command <;> exact hsettles

/-! ## Runs -/

/-- A tick that finds the adapter online leaves the helper in the state `Connected`. -/
theorem handlePollTick_online (tick : Tick σ) (honline : runtime.online task.protocol = true) :
    (task.handlePollTick runtime ctx tick).1 = .proceed ∧
      (task.handlePollTick runtime ctx tick).2.helper =
        if task.helper.connectionState = .connected then task.helper
        else task.helper.markConnected := by
  have hbeat : (task.beat tick.nowMs).protocol = task.protocol := rfl
  simp only [handlePollTick, hbeat, honline, Bool.not_true, Bool.false_eq_true, if_false]
  -- the helper that the poll and what follows it leave alone
  obtain ⟨marked, hmarked⟩ : ∃ marked, marked =
      if (task.beat tick.nowMs).helper.connectionState = .connected then task.beat tick.nowMs
      else (task.beat tick.nowMs).markConnected := ⟨_, rfl⟩
  have hconn : marked.helper = if task.helper.connectionState = .connected then task.helper
      else task.helper.markConnected := by
    rw [hmarked]
    exact apply_ite ChannelTask.helper _ _ _
  rw [← hmarked]
  split
  · refine ⟨rfl, ?_⟩
    rw [helper_refresh]
    exact hconn
  next after haft =>
    refine ⟨rfl, ?_⟩
    rw [helper_refresh, helper_cacheDiagnostics, helper_handlePollData ctx haft]
    exact hconn

theorem ready_step (hrdy : task.Ready) (input : TaskInput σ δ)
    (hcalm : Calm runtime task input) : (task.step runtime ctx input).Ready := by
  cases hrunning : task.running with
  | false =>
    rw [step_stopped runtime ctx hrunning]
    exact hrdy
  | true =>
    by_cases htick : ∃ tick, input = .tick tick
    · obtain ⟨tick, rfl⟩ := htick
      cases honline : runtime.online task.protocol with
      | false => exact (step_offline runtime ctx hrdy hrunning honline hcalm).1
      | true =>
        rw [step_running runtime ctx hrunning]
        show (finishTick runtime (task.handlePollTick runtime ctx tick)).Ready
        have hpoll := handlePollTick_online runtime ctx tick honline
        generalize task.handlePollTick runtime ctx tick = result at hpoll ⊢
        obtain ⟨action, after⟩ := result
        obtain ⟨haction, hhelper⟩ := hpoll
        obtain rfl : action = .proceed := haction
        by_cases hconn : task.helper.connectionState = .connected
        · rw [if_pos hconn] at hhelper
          exact hrdy.of_same hhelper fun _ => hrunning
        · rw [if_neg hconn] at hhelper
          exact ready_of_markConnected hrdy.unlimited hhelper
    · have hhelper := (step_other runtime ctx task (not_exists.1 htick)).1
      exact hrdy.of_same hhelper fun _ => hrunning

theorem ready_startTask {policy : ReconnectPolicy} (h : policy.maxAttempts = 0)
    (autoRecovery : Option AutoRecoveryPolicy) (protocol : σ) :
    (startTask runtime policy autoRecovery protocol).Ready := by
  unfold startTask
  dsimp only
  cases autoRecovery with
  | none =>
    refine ⟨?_, fun _ => .inr ?_⟩
    · rw [helper_refresh]
      exact h
    · rw [helper_refresh]
      rfl
  | some recovery =>
    refine ⟨?_, fun _ => .inr ?_⟩
    · rw [helper_refresh]
      show ((ReconnectHelper.new policy).withAutoRecovery recovery).policy.maxAttempts = 0
      rw [ReconnectHelper.policy_withAutoRecovery]
      exact h
    · rw [helper_refresh]
      show ((ReconnectHelper.new policy).withAutoRecovery recovery).connectionState = .disconnected
      rw [ReconnectHelper.connectionState_withAutoRecovery]
      rfl

/-- The tick that waits to its end starts an attempt if it finds the adapter offline. -/
def NextTickReconnects (task : ChannelTask σ) : Prop :=
  ∀ tick : Tick σ, task.running = true → runtime.online task.protocol = false →
    tick.backoff = .elapsed →
    (task.step runtime ctx (.tick tick : TaskInput σ δ)).attempts = task.attempts + 1

/-- Without a limit of attempts, and when nothing but time, `Shutdown` or a `Connect` that succeeds
    ends a wait, every tick of a running task that finds the adapter offline starts an attempt or is
    ended by such a command, and no state is reached from which ticks skip the reconnection. -/
theorem reconnects (policy : ReconnectPolicy) (autoRecovery : Option AutoRecoveryPolicy)
    (protocol : σ) (inputs : List (TaskInput σ δ)) (hunlimited : policy.maxAttempts = 0)
    (hcalm : EveryStep (ChannelTask.step runtime ctx) (Calm runtime)
      (startTask runtime policy autoRecovery protocol) inputs) :
    EveryStep (ChannelTask.step runtime ctx)
        (fun task input => ∀ tick, input = .tick tick → task.running = true →
          runtime.online task.protocol = false → Reconnects runtime ctx task tick)
        (startTask runtime policy autoRecovery protocol) inputs ∧
      EveryState (ChannelTask.step runtime ctx) (NextTickReconnects runtime ctx)
        (startTask runtime policy autoRecovery protocol) inputs := by
  have hready : EveryState (ChannelTask.step runtime ctx) Ready
      (startTask runtime policy autoRecovery protocol) inputs := by
    have hstart := ready_startTask runtime hunlimited autoRecovery protocol
    refine EveryStep.invariant ?_ hstart hcalm
    exact fun task input hready hcalm => ready_step runtime ctx hready input hcalm
  constructor
  · intro n input hinput tick htick hrunning hoffline
    subst htick
    obtain ⟨hn, -⟩ := List.getElem?_eq_some_iff.1 hinput
    exact (step_offline runtime ctx (hready n (Nat.le_of_lt hn)) hrunning hoffline
      (hcalm n _ hinput)).2.1
  · refine hready.imp fun task hready tick hrunning hoffline hbackoff => ?_
    have hcalm : Calm runtime task (.tick tick : TaskInput σ δ) := by
      intro tick' command htick _ _ _ hcommand
      cases htick
      rw [hbackoff] at hcommand
      cases hcommand
    exact (step_offline runtime ctx hready hrunning hoffline hcalm).2.2 hbackoff

end Reconnection

/-! ## A device that is never reached -/

open ChannelTask

/-- An adapter whose connects all fail. -/
def unreachable : ChannelRuntime Unit Unit Unit where
  isEventDriven _ := false
  connect _ := (.error (), ())
  disconnect _ := (.ok (), ())
  pollOnce _ := (⟨[], []⟩, ())
  writeControl _ _ := (.error (), ())
  writeAdjustment _ _ := (.error (), ())
  takeEventReceiver _ := (false, ())
  startEvents _ := (.ok (), ())
  stopEvents _ := (.ok (), ())
  diagnostics _ := .error ()
  connectionState _ := .disconnected
  setLogConfig _ _ := ()

/-- A guard that knows no points. -/
def noPoints : ChannelPollContext := ⟨0, ⟨1, [], []⟩⟩

/-- A tick whose wait ends as told. -/
def tickWith (backoff : Backoff) : Tick Unit := ⟨0, 0, 0, 0, backoff, none, true⟩

/-- An adapter whose first connect fails; its state is the number of connects so far. -/
def secondTry : ChannelRuntime ℕ Unit Unit where
  isEventDriven _ := false
  connect tries := if tries = 0 then (.error (), 1) else (.ok (), tries + 1)
  disconnect tries := (.ok (), tries)
  pollOnce tries := (⟨[], []⟩, tries)
  writeControl _ tries := (.error (), tries)
  writeAdjustment _ tries := (.error (), tries)
  takeEventReceiver tries := (false, tries)
  startEvents tries := (.ok (), tries)
  stopEvents tries := (.ok (), tries)
  diagnostics _ := .error ()
  connectionState tries := if tries < 2 then .disconnected else .connected
  setLogConfig _ tries := tries

/-- The first tick tries and fails; the wait of the second one is ended by a `Connect` that
    succeeds; the third one finds the adapter online. -/
def connectedInWait : List (TaskInput ℕ Unit) :=
  [.tick ⟨0, 0, 0, 0, .elapsed, none, true⟩, .tick ⟨0, 0, 0, 0, .command .connect, none, true⟩,
    .tick ⟨0, 0, 0, 0, .elapsed, none, true⟩]

theorem reconnects_in_wait :
    EveryStep (ChannelTask.step secondTry noPoints) (Calm secondTry)
        (startTask secondTry ⟨0⟩ none 0) connectedInWait ∧
      (run (ChannelTask.step secondTry noPoints) (startTask secondTry ⟨0⟩ none 0)
        connectedInWait).attempts = 1 ∧
      EveryState (ChannelTask.step secondTry noPoints) (NextTickReconnects secondTry noPoints)
        (startTask secondTry ⟨0⟩ none 0) connectedInWait := by
  have hcalm : EveryStep (ChannelTask.step secondTry noPoints) (Calm secondTry)
      (startTask secondTry ⟨0⟩ none 0) connectedInWait := by
    refine everyStep_cons.2 ⟨?_, everyStep_cons.2 ⟨?_, everyStep_cons.2 ⟨?_, everyStep_nil.2 trivial⟩⟩⟩
    · rintro tick command htick - - - hcommand
      cases htick
      cases hcommand
    · rintro tick command htick - - - hcommand
      cases htick
      cases hcommand
      show (secondTry.connectAndStartEvents _).1.isOk = true
      decide +kernel
    · rintro tick command htick - - - hcommand
      cases htick
      cases hcommand
  exact ⟨hcalm, by decide +kernel, (reconnects secondTry noPoints ⟨0⟩ none 0 _ rfl hcalm).2⟩

/-- The helper takes an attempt to be under way, and only one was started. -/
structure Stranded (task : ChannelTask Unit) : Prop where
  reconnecting : task.helper.connectionState = .reconnecting
  attempts : task.attempts = 1

/-- The ticks of a stranded task return at once, and nothing else touches the helper. -/
theorem stranded_step {task : ChannelTask Unit} (h : Stranded task) (input : TaskInput Unit Unit) :
    Stranded (task.step unreachable noPoints input) := by
  by_cases htick : ∃ tick, input = .tick tick
  · obtain ⟨tick, rfl⟩ := htick
    unfold step
    split
    · have hst : (task.beat tick.nowMs).helper.connectionState = .reconnecting := h.reconnecting
      have honline : unreachable.online (task.beat tick.nowMs).protocol = false := rfl
      simp only [iterate, handlePollTick, honline, Bool.not_false, if_true, handleDisconnected,
        hst, finishTick]
      exact ⟨h.reconnecting, h.attempts⟩
    · exact h
  · obtain ⟨hhelper, hatts⟩ :=
      step_other unreachable noPoints task (not_exists.1 htick)
    exact ⟨by rw [hhelper]; exact h.reconnecting, hatts.trans h.attempts⟩

/-- The first tick tries and fails, the second waits, and the log level is set in that wait. The task
    goes on, the adapter stays offline, and whatever comes then there is no second attempt. -/
theorem never_reconnects :
    let stranded := run (ChannelTask.step unreachable noPoints) (startTask unreachable ⟨0⟩ none ())
      [.tick (tickWith .elapsed), .tick (tickWith (.command (.setLogLevel "info")))]
    stranded.running = true ∧ stranded.attempts = 1 ∧
      ∀ inputs : List (TaskInput Unit Unit),
        unreachable.online (run (ChannelTask.step unreachable noPoints) stranded inputs).protocol =
            false ∧
          (run (ChannelTask.step unreachable noPoints) stranded inputs).attempts = 1 := by
  intro stranded
  have hstranded : Stranded stranded := ⟨by decide +kernel, by decide +kernel⟩
  refine ⟨by decide +kernel, hstranded.attempts, fun inputs => ⟨rfl, ?_⟩⟩
  have hlater : EveryState (ChannelTask.step unreachable noPoints) Stranded stranded inputs := by
    refine everyState_of_step ?_ hstranded inputs
    exact fun task input h => stranded_step h input
  exact hlater.last.attempts

end AetherEdge.Io
