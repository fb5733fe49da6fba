import AetherEdge.Io.Iec104
import AetherEdge.Io.OnlineFlag

/-!
# A lost transport of an IEC 104 channel

The client reports a lost transport through its `poll`. The adapter's `poll_once` takes that for an
empty batch and leaves the connection state as it is, and the rule that disconnects a channel without
data does not apply to adapters that are driven by events. The channel task looks at the connection
state only.

* `Unnoticed.run`: as long as nobody sends the channel a `Connect`, `Disconnect` or `Shutdown`, an
  adapter that was online stays online whatever `poll` returns;
* `Fresh.step`: a helper that is connected has all its attempts left;
* `transport_loss`: it takes a `Disconnect` that succeeds or a `Connect` that fails after the loss for
  a later tick to start an attempt; if that fails too, the channel is published as offline;
* `loss_unnoticed`: a client whose every poll reports the loss.
-/

namespace AetherEdge.Io

open Transition ChannelTask Iec104Channel

/-! ## What was published last -/

section Published

variable {σ δ ε : Type} (runtime : ChannelRuntime σ δ ε)

namespace ChannelTask

variable {task : ChannelTask σ} {tick : Tick σ}

/-- A refresh of an offline adapter leaves offline as what was published last. -/
theorem published_refresh (h : task.Tracks) (hrunning : task.running = true)
    (hoff : runtime.online task.protocol = false) :
    (task.refresh runtime).published.getLast? = some false := by
  have htr : (task.refresh runtime).Tracks := Tracks.refresh runtime h
  rw [← htr (by rw [running_refresh]; exact hrunning), prevOnline_refresh, hoff]

theorem published_attemptReconnect (h : task.Tracks) (hrunning : task.running = true)
    (hoff : runtime.online (task.attemptReconnect runtime tick).protocol = false) :
    (task.attemptReconnect runtime tick).published.getLast? = some false := by
  obtain ⟨attempted, heq, hkp⟩ := attemptReconnect_eq_refresh runtime task tick
  rw [heq, protocol_refresh] at hoff
  rw [heq]
  exact published_refresh runtime (hkp.tracks h) (hkp.running.trans hrunning) hoff

end ChannelTask

end Published

/-! ## Nothing but a command changes the state of the adapter -/

section Iec104

variable {κ ι φ δ : Type} (lib : Iec104Library κ ι φ δ) (ctx : ChannelPollContext)

/-- A step that a channel can take while no command concerns its connection. The adapter never sends an
    event, and what happens to the client in the background does not touch the state it is stored
    beside. -/
def Quiet (task : ChannelTask (Iec104Channel κ)) : TaskInput (Iec104Channel κ) δ → Prop
  | .protocolCommand (.setLogLevel _) => True
  | .protocolCommand _ => False
  | .event _ _ _ => False
  | .background channel => channel.state = task.protocol.state
  | _ => True

/-- The adapter of the running task is online, and since a moment with these attempts and publications
    there was no attempt and no publication of offline. -/
structure Unnoticed (attempts : ℕ) (published : List Bool)
    (task : ChannelTask (Iec104Channel κ)) : Prop where
  running : task.running = true
  connected : task.protocol.state = .connected
  attempts : task.attempts = attempts
  published : ∃ later, task.published = published ++ later ∧ false ∉ later

variable {attempts : ℕ} {published : List Bool} {task : ChannelTask (Iec104Channel κ)}

/-- Without a tick such a step leaves alone all that counts here. -/
theorem step_quiet (hrunning : task.running = true) {input : TaskInput (Iec104Channel κ) δ}
    (hquiet : Quiet task input) (hother : ∀ tick, input ≠ .tick tick) :
    (task.step (runtime lib) ctx input).running = task.running ∧
      (task.step (runtime lib) ctx input).protocol.state = task.protocol.state ∧
      (task.step (runtime lib) ctx input).attempts = task.attempts ∧
      (task.step (runtime lib) ctx input).published = task.published := by
  rw [step_running _ ctx hrunning]
  cases input with
  | protocolCommand command =>
    cases command with
    | setLogLevel level =>
      refine ⟨rfl, ?_, rfl, rfl⟩
      show (applyLogLevel (runtime lib) task.protocol level).state = _
      unfold applyLogLevel
      split <;> rfl
    | connect | disconnect | shutdown => exact hquiet.elim
  | businessCommand nowMs =>
    rw [iterate]
    split
    · exact ⟨rfl, rfl, rfl, rfl⟩
    unfold handleBusinessCommand
    dsimp only
    split
    · exact ⟨rfl, rfl, rfl, rfl⟩
    refine ⟨rfl, ?_, rfl, rfl⟩
    unfold write
    dsimp only
    split <;> rfl
  | event event nowMs stored => exact hquiet.elim
  | tick tick => exact absurd rfl (hother tick)
  | background channel => exact ⟨rfl, hquiet, rfl, rfl⟩
  | enqueue command | eventsClosed => exact ⟨rfl, rfl, rfl, rfl⟩

section

variable (h : Unnoticed attempts published task)

include h

theorem Unnoticed.of_same {after : ChannelTask (Iec104Channel κ)}
    (hrunning : after.running = task.running) (hst : after.protocol.state = task.protocol.state)
    (hatts : after.attempts = task.attempts) (hpub : after.published = task.published) :
    Unnoticed attempts published after :=
  ⟨hrunning.trans h.running, hst.trans h.connected, hatts.trans h.attempts,
    by rw [hpub]; exact h.published⟩

theorem Unnoticed.refresh :
    Unnoticed attempts published (task.refresh (runtime lib)) := by
  refine ⟨?_, ?_, ?_, ?_⟩
  · rw [running_refresh]
    exact h.running
  · rw [protocol_refresh]
    exact h.connected
  · rw [attempts_refresh]
    exact h.attempts
  · obtain ⟨later, hlat, hfalse⟩ := h.published
    have honline : (runtime lib).online task.protocol = true := by
      show (task.protocol.state).isConnected = true
      rw [h.connected]
      rfl
    unfold ChannelTask.refresh checkOnlineChange publish
    split
    · exact ⟨later, hlat, hfalse⟩
    · refine ⟨later ++ [true], ?_, by simpa using hfalse⟩
      show task.published ++ [(runtime lib).online task.protocol] = _
      rw [honline, hlat, List.append_assoc]

/-- A tick polls and goes on, whatever the poll returns. -/
theorem Unnoticed.tick (tick : Tick (Iec104Channel κ)) :
    Unnoticed attempts published
      (finishTick (runtime lib)
        (task.handlePollTick (runtime lib) ctx tick)) := by
  have honline : (runtime lib).online (task.beat tick.nowMs).protocol = true := by
    show (task.protocol.state).isConnected = true
    rw [h.connected]
    rfl
  have hmarked : Unnoticed attempts published
      (if (task.beat tick.nowMs).helper.connectionState = .connected then task.beat tick.nowMs
        else (task.beat tick.nowMs).markConnected) := by
    split
    · exact h.of_same rfl rfl rfl rfl
    · exact h.of_same rfl rfl rfl rfl
  unfold handlePollTick
  dsimp only
  rw [honline, Bool.not_true, if_neg Bool.false_ne_true]
  generalize (if (task.beat tick.nowMs).helper.connectionState = .connected then
    task.beat tick.nowMs else (task.beat tick.nowMs).markConnected) = marked at hmarked ⊢
  have hpolled : Unnoticed attempts published
      { marked with protocol := ((runtime lib).pollOnce marked.protocol).2 } :=
    hmarked.of_same rfl (state_pollOnce lib marked.protocol) rfl rfl
  generalize ((runtime lib).pollOnce marked.protocol).1.data = data
  generalize ({ marked with protocol := ((runtime lib).pollOnce marked.protocol).2 } :
    ChannelTask (Iec104Channel κ)) = polled at hpolled ⊢
  -- the rule for channels without data is for adapters that are polled
  have hdata : ∃ after, polled.handlePollData ctx tick true data = some after ∧
      Unnoticed attempts published after := by
    unfold handlePollData
    split
    · exact ⟨polled, rfl, hpolled⟩
    · exact ⟨_, rfl, hpolled.of_same rfl rfl rfl rfl⟩
  obtain ⟨after, haft, hunnoticed⟩ := hdata
  rw [show (runtime lib).isEventDriven task.protocol = true from rfl, haft]
  refine Unnoticed.refresh lib ?_
  unfold cacheDiagnostics
  split
  · exact hunnoticed
  · exact hunnoticed.of_same rfl rfl rfl rfl

theorem Unnoticed.step (input : TaskInput (Iec104Channel κ) δ) (hquiet : Quiet task input) :
    Unnoticed attempts published (task.step (runtime lib) ctx input) := by
  by_cases htick : ∃ tick, input = .tick tick
  · obtain ⟨tick, rfl⟩ := htick
    rw [step_running _ ctx h.running]
    exact h.tick lib ctx tick
  · obtain ⟨hrunning, hstate, hattempts, hpublished⟩ :=
      step_quiet lib ctx h.running hquiet (not_exists.1 htick)
    exact h.of_same hrunning hstate hattempts hpublished

theorem Unnoticed.run (inputs : List (TaskInput (Iec104Channel κ) δ))
    (hquiet : EveryStep (ChannelTask.step (runtime lib) ctx) Quiet task inputs) :
    Unnoticed attempts published
      (Transition.run (ChannelTask.step (runtime lib) ctx) task inputs) := by
  have hevery : EveryState (ChannelTask.step (runtime lib) ctx)
      (Unnoticed attempts published) task inputs := by
    refine EveryStep.invariant ?_ h hquiet
    exact fun task input h hquiet => h.step lib ctx input hquiet
  exact hevery.last

end

/-! ## The attempts that are left -/

/-- A helper that is connected has made no attempt. -/
def Fresh (helper : ReconnectHelper) : Prop :=
  helper.connectionState = .connected → helper.currentAttempt = 0

theorem fresh_recordFailure (helper : ReconnectHelper) (now : ℕ) :
    Fresh (helper.recordFailure now) := by
  unfold ReconnectHelper.recordFailure
  split <;> exact nofun

theorem Fresh.checkAutoRecovery {helper : ReconnectHelper} (h : Fresh helper) (now : ℕ) :
    Fresh (helper.checkAutoRecovery now).2 := by
  unfold ReconnectHelper.checkAutoRecovery
  split
  · exact h
  dsimp only
  split_ifs
  · exact h
  · exact h
  · exact h
  · exact fun _ => rfl

theorem Fresh.exhausted {helper : ReconnectHelper} (h : Fresh helper)
    (hconnected : helper.connectionState = .connected) : helper.exhausted = false := by
  unfold ReconnectHelper.exhausted
  rw [h hconnected]
  by_cases hlimit : 0 < helper.policy.maxAttempts
  · have hmore : ¬helper.policy.maxAttempts ≤ 0 := UInt32.not_le.2 hlimit
    rw [decide_eq_false hmore, Bool.and_false]
  · rw [decide_eq_false hlimit, Bool.false_and]

section Fresh

variable {σ ε : Type} (runtime : ChannelRuntime σ δ ε) {task : ChannelTask σ}

theorem fresh_attemptReconnect (tick : Tick σ) :
    Fresh (task.attemptReconnect runtime tick).helper := by
  unfold attemptReconnect
  dsimp only
  split
  · rw [helper_refresh]
    exact fresh_recordFailure _ _
  split
  · rw [helper_refresh]
    exact fun _ => rfl
  · rw [helper_refresh]
    exact fresh_recordFailure _ _

theorem fresh_handleBackoffCommand (h : Fresh task.helper) (command : ProtocolCommand) :
    Fresh (task.handleBackoffCommand runtime command).2.helper := by
  unfold handleBackoffCommand
  split
  · exact h
  · split
    · exact fun _ => rfl
    · exact h
  · exact h
  · exact h

theorem fresh_handleDisconnected (h : Fresh task.helper) (tick : Tick σ) :
    Fresh (task.handleDisconnected runtime tick).2.helper := by
  -- an attempt that is recorded puts the helper into the state `Reconnecting`, or into `Failed`
  have hrecord : ∀ helper : ReconnectHelper, Fresh (helper.recordAttempt tick.instant).2 := by
    intro helper
    unfold ReconnectHelper.recordAttempt
    split <;> exact nofun
  unfold handleDisconnected
  dsimp only
  split
  · unfold handleFailed
    dsimp only
    split
    · rw [helper_refresh]
      exact h.checkAutoRecovery _
    · rw [helper_refresh]
      exact h.checkAutoRecovery _
  · exact h
  all_goals
    have hfresh := hrecord (if task.helper.connectionState = .connected then
      task.helper.markDisconnected else task.helper)
    split
    next helper heq =>
      rw [helper_refresh]
      rw [heq] at hfresh
      exact hfresh
    next helper heq =>
      rw [heq] at hfresh
      split
      · exact fresh_attemptReconnect runtime tick
      split
      · rw [helper_refresh]
        exact fresh_handleBackoffCommand runtime hfresh _
      · exact fresh_attemptReconnect runtime tick

theorem Fresh.step (h : Fresh task.helper) (input : TaskInput σ δ) :
    Fresh (task.step runtime ctx input).helper := by
  by_cases htick : ∃ tick, input = .tick tick
  · obtain ⟨tick, rfl⟩ := htick
    cases hrunning : task.running with
    | false =>
      rw [step_stopped runtime ctx hrunning]
      exact h
    | true =>
      have hpoll : Fresh (task.handlePollTick runtime ctx tick).2.helper := by
        cases honline : runtime.online task.protocol with
        | false =>
          have hbeat : (task.beat tick.nowMs).protocol = task.protocol := rfl
          simp only [handlePollTick, hbeat, honline, Bool.not_false, if_true]
          have hfresh : Fresh (task.beat tick.nowMs).helper := h
          exact fresh_handleDisconnected runtime hfresh tick
        | true =>
          rw [(handlePollTick_online runtime ctx tick honline).2]
          split_ifs
          · exact h
          · exact fun _ => rfl
      rw [step_running runtime ctx hrunning]
      show Fresh (finishTick runtime (task.handlePollTick runtime ctx tick)).helper
      generalize task.handlePollTick runtime ctx tick = result at hpoll ⊢
      obtain ⟨action, after⟩ := result
      cases action with
      | «break» | «continue» | proceed => exact hpoll
  · rw [(step_other runtime ctx task (not_exists.1 htick)).1]
    exact h

theorem fresh_startTask (policy : ReconnectPolicy) (autoRecovery : Option AutoRecoveryPolicy)
    (protocol : σ) : Fresh (startTask runtime policy autoRecovery protocol).helper := by
  unfold startTask
  dsimp only
  rw [helper_refresh]
  cases autoRecovery with
  | none => exact nofun
  | some recovery =>
    show Fresh ((ReconnectHelper.new policy).withAutoRecovery recovery)
    unfold Fresh
    rw [ReconnectHelper.connectionState_withAutoRecovery]
    exact nofun

theorem everyState_fresh (policy : ReconnectPolicy) (autoRecovery : Option AutoRecoveryPolicy)
    (protocol : σ) (inputs : List (TaskInput σ δ)) :
    EveryState (ChannelTask.step runtime ctx) (fun task => Fresh task.helper)
      (startTask runtime policy autoRecovery protocol) inputs := by
  refine everyState_of_step ?_ ?_ inputs
  · exact fun task input h => Fresh.step ctx runtime h input
  · exact fresh_startTask runtime policy autoRecovery protocol

end Fresh

/-! ## A loss that a command brings to light -/

/-- The adapter of the task is online. -/
def Online (task : ChannelTask (Iec104Channel κ)) : Prop := task.protocol.state = .connected

/-- If the step polls the client, the poll returns `Disconnected` or an error. -/
def ReportsLoss (task : ChannelTask (Iec104Channel κ)) (input : TaskInput (Iec104Channel κ) δ) :
    Prop :=
  ∀ tick, input = .tick tick → Online task →
    (lib.client.poll task.protocol.client).1 = .ok (some .disconnected) ∨
      ∃ message, (lib.client.poll task.protocol.client).1 = .error message

/-- The command takes the adapter offline: a `Connect` that the client refuses, or a `Disconnect`
    that goes through. -/
def TakesOffline (task : ChannelTask (Iec104Channel κ)) : ProtocolCommand → Prop
  | .connect => ∃ message, (lib.client.connect task.protocol.client).1 = .error message
  | .disconnect => (disconnect lib (stopEvents lib task.protocol).2).1 = .ok ()
  | _ => False

/-- The wait of the tick is not cut short, and its attempt fails: the client refuses the connect, or
    the attempt is cut off and leaves the adapter offline. -/
structure AttemptFails (task : ChannelTask (Iec104Channel κ)) (tick : Tick (Iec104Channel κ)) :
    Prop where
  elapsed : tick.backoff = .elapsed
  refused : tick.timedOut = none →
    ∃ message, (lib.client.connect task.protocol.client).1 = .error message
  cutOff : ∀ channel, tick.timedOut = some channel → channel.state ≠ .connected

theorem connectAndStartEvents_refused {channel : Iec104Channel κ}
    (h : ∃ message, (lib.client.connect channel.client).1 = .error message) :
    ∃ error after, (runtime lib).connectAndStartEvents channel = (.error error, after) ∧
      after.state ≠ .connected := by
  have hconnect : ∃ error after, (runtime lib).connect channel = (.error error, after) ∧
      after.state ≠ .connected := by
    obtain ⟨message, hmessage⟩ := h
    show ∃ error after, connect lib channel = (.error error, after) ∧ _
    unfold Iec104Channel.connect
    generalize lib.client.connect channel.client = result at hmessage ⊢
    obtain ⟨result, client⟩ := result
    cases hmessage
    exact ⟨_, _, rfl, nofun⟩
  obtain ⟨error, after, heq, hstate⟩ := hconnect
  refine ⟨error, after, ?_, hstate⟩
  unfold ChannelRuntime.connectAndStartEvents
  rw [heq]

theorem offline_of_takesOffline {task : ChannelTask (Iec104Channel κ)} {command : ProtocolCommand}
    (h : TakesOffline lib task command) :
    command ≠ .shutdown ∧ ¬Online (task.handleProtocolCommand (runtime lib) command) := by
  cases command with
  | connect =>
    obtain ⟨error, after, heq, hstate⟩ := connectAndStartEvents_refused lib h
    refine ⟨nofun, ?_⟩
    show ((runtime lib).connectAndStartEvents task.protocol).2.state ≠ .connected
    rw [heq]
    exact hstate
  | disconnect =>
    refine ⟨nofun, ?_⟩
    show (disconnect lib (stopEvents lib task.protocol).2).2.state ≠ .connected
    have hdone : (disconnect lib (stopEvents lib task.protocol).2).1 = .ok () := h
    unfold Iec104Channel.disconnect at hdone ⊢
    dsimp only at hdone ⊢
    split at hdone
    · exact nofun
    · cases hdone
  | setLogLevel | shutdown => exact h.elim

/-- After a poll the helper is connected as well. -/
structure Polled (attempts : ℕ) (published : List Bool) (task : ChannelTask (Iec104Channel κ)) :
    Prop extends Unnoticed attempts published task where
  helper : task.helper.connectionState = .connected

theorem Unnoticed.polled (h : Unnoticed attempts published task) (tick : Tick (Iec104Channel κ)) :
    Polled attempts published (task.step (runtime lib) ctx (.tick tick)) := by
  refine ⟨h.step lib ctx (.tick tick) trivial, ?_⟩
  have honline : (runtime lib).online task.protocol = true := by
    show (task.protocol.state).isConnected = true
    rw [h.connected]
    rfl
  have hpoll := handlePollTick_online (runtime lib) ctx tick honline
  rw [step_running _ ctx h.running, iterate]
  generalize task.handlePollTick (runtime lib) ctx tick = result at hpoll ⊢
  obtain ⟨action, after⟩ := result
  obtain ⟨rfl, hafter⟩ : action = .proceed ∧ after.helper = _ := hpoll
  show after.helper.connectionState = _
  rw [hafter]
  split_ifs with hconnected
  · exact hconnected
  · rfl

theorem Polled.step (h : Polled attempts published task) (input : TaskInput (Iec104Channel κ) δ)
    (hquiet : Quiet task input) :
    Polled attempts published (task.step (runtime lib) ctx input) := by
  by_cases htick : ∃ tick, input = .tick tick
  · obtain ⟨tick, rfl⟩ := htick
    exact h.toUnnoticed.polled lib ctx tick
  · refine ⟨h.toUnnoticed.step lib ctx input hquiet, ?_⟩
    rw [(step_other (runtime lib) ctx task (not_exists.1 htick)).1]
    exact h.helper

/-- A step of a channel while nobody polls and no command concerns the connection. -/
def Pauses (task : ChannelTask (Iec104Channel κ)) (input : TaskInput (Iec104Channel κ) δ) : Prop :=
  Quiet task input ∧ ∀ tick, input ≠ .tick tick

/-- The running task is offline, with all its attempts left. -/
structure Down (attempts : ℕ) (task : ChannelTask (Iec104Channel κ)) : Prop where
  running : task.running = true
  offline : ¬Online task
  connected : task.helper.connectionState = .connected
  attempts : task.attempts = attempts

theorem Polled.down {lost : ChannelTask (Iec104Channel κ)} (h : Polled attempts published lost)
    {command : ProtocolCommand} (htakes : TakesOffline lib lost command) :
    Down attempts (lost.step (runtime lib) ctx (.protocolCommand command)) := by
  obtain ⟨hshutdown, hoffline⟩ := offline_of_takesOffline lib htakes
  rw [step_running _ ctx h.running, iterate, if_neg hshutdown]
  refine ⟨?_, hoffline, ?_, ?_⟩
  · cases command <;> exact h.running
  · cases command <;> exact h.helper
  · cases command <;> exact h.attempts

theorem Down.step {attempts : ℕ} {task : ChannelTask (Iec104Channel κ)} (h : Down attempts task)
    {input : TaskInput (Iec104Channel κ) δ} (hpauses : Pauses task input) :
    Down attempts (task.step (runtime lib) ctx input) := by
  obtain ⟨hrunning, hstate, hattempts, -⟩ := step_quiet lib ctx h.running hpauses.1 hpauses.2
  refine ⟨hrunning.trans h.running, ?_, ?_, hattempts.trans h.attempts⟩
  · unfold Online
    rw [hstate]
    exact h.offline
  · rw [(step_other (runtime lib) ctx task hpauses.2).1]
    exact h.connected

/-- The attempt that a tick of such a task starts. -/
theorem Down.tick {attempts : ℕ} {task : ChannelTask (Iec104Channel κ)} (h : Down attempts task)
    (hfresh : Fresh task.helper) (htracks : task.Tracks) {tick : Tick (Iec104Channel κ)}
    (hfails : AttemptFails lib task tick) :
    (task.step (runtime lib) ctx (.tick tick : TaskInput (Iec104Channel κ) δ)).attempts =
        attempts + 1 ∧
      (task.step (runtime lib) ctx (.tick tick : TaskInput (Iec104Channel κ) δ)).published.getLast? =
        some false := by
  have hoffline : ∀ channel : Iec104Channel κ, channel.state ≠ .connected →
      (runtime lib).online channel = false := by
    intro channel hstate
    show (channel.state == .connected) = false
    simpa using hstate
  have hconnected : (task.beat tick.nowMs).helper.connectionState = .connected := h.connected
  have hallowed : (task.beat tick.nowMs).helper.exhausted = false := hfresh.exhausted h.connected
  rw [step_tick_offline _ ctx h.running (hoffline _ h.offline),
    handleDisconnected_allowed _ (.inl hconnected) hallowed, hfails.elapsed]
  have hrecorded : (task.beat tick.nowMs).recorded.Tracks := Keeps.tracks ⟨rfl, rfl, rfl⟩ htracks
  refine ⟨(attempts_attemptReconnect _).trans (congrArg (· + 1) h.attempts),
    published_attemptReconnect _ hrecorded h.running (hoffline _ ?_)⟩
  -- the attempt does not bring the adapter online
  unfold attemptReconnect
  dsimp only
  split
  · next channel htimed =>
    rw [protocol_refresh]
    exact hfails.cutOff channel htimed
  · next htimed =>
    obtain ⟨error, after, heq, hstate⟩ :=
      connectAndStartEvents_refused lib (hfails.refused htimed)
    have hproto : (task.beat tick.nowMs).recorded.protocol = task.protocol := rfl
    rw [hproto, heq, protocol_refresh]
    exact hstate

/-- In every state that a channel reaches with its adapter online: while no command concerns the
    connection, the adapter stays online and nothing is done about it, whatever `poll` returns. A loss
    that the polls report from such a state on is noticed once a command takes the adapter offline: the
    next tick starts an attempt, and if it fails, the channel is published as offline. -/
theorem transport_loss (policy : ReconnectPolicy) (autoRecovery : Option AutoRecoveryPolicy)
    (channel : Iec104Channel κ) (inputs : List (TaskInput (Iec104Channel κ) δ))
    {task : ChannelTask (Iec104Channel κ)}
    (htask : run (ChannelTask.step (runtime lib) ctx)
      (startTask (runtime lib) policy autoRecovery channel) inputs = task)
    (hrunning : task.running = true) (honline : Online task) :
    (∀ later, EveryStep (ChannelTask.step (runtime lib) ctx) Quiet task later →
      Unnoticed task.attempts task.published
        (run (ChannelTask.step (runtime lib) ctx) task later)) ∧
    ∀ poll later lost command pause down tick,
      EveryStep (ChannelTask.step (runtime lib) ctx)
        (fun task input => Quiet task input ∧ ReportsLoss lib task input) task
        (.tick poll :: later) →
      run (ChannelTask.step (runtime lib) ctx) task (.tick poll :: later) = lost →
      TakesOffline lib lost command →
      EveryStep (ChannelTask.step (runtime lib) ctx) Pauses
        (lost.step (runtime lib) ctx (.protocolCommand command)) pause →
      run (ChannelTask.step (runtime lib) ctx)
        (lost.step (runtime lib) ctx (.protocolCommand command)) pause = down →
      AttemptFails lib down tick →
        (down.step (runtime lib) ctx (.tick tick)).attempts = task.attempts + 1 ∧
          (down.step (runtime lib) ctx (.tick tick)).published.getLast? = some false := by
  have hnow : Unnoticed task.attempts task.published task :=
    ⟨hrunning, honline, rfl, [], (List.append_nil _).symm, List.not_mem_nil⟩
  refine ⟨fun later hquiet => hnow.run lib ctx later hquiet, ?_⟩
  intro poll later lost command pause down tick hloss hlost htakes hpause hdown hfails
  obtain ⟨-, hrest⟩ := everyStep_cons.1 hloss
  have hpolled : Polled task.attempts task.published lost := by
    rw [← hlost]
    exact (EveryStep.invariant (fun task input h hquiet => h.step lib ctx input hquiet.1)
      (hnow.polled lib ctx poll) hrest).last
  have hoffline : Down task.attempts down := by
    rw [← hdown]
    exact (EveryStep.invariant (fun task input h hpauses => h.step lib ctx hpauses)
      (hpolled.down lib ctx htakes) hpause).last
  -- the helper and the publications, from the whole run
  have hall : run (ChannelTask.step (runtime lib) ctx)
      (startTask (runtime lib) policy autoRecovery channel)
      ((inputs ++ .tick poll :: later) ++ .protocolCommand command :: pause) = down := by
    rw [run_append, run_append, htask, hlost]
    exact hdown
  have hfresh := (everyState_fresh ctx (runtime lib) policy autoRecovery channel
    ((inputs ++ .tick poll :: later) ++ .protocolCommand command :: pause)).last
  have htracks := (everyState_tracks (runtime lib) ctx policy autoRecovery channel
    ((inputs ++ .tick poll :: later) ++ .protocolCommand command :: pause)).last
  rw [hall] at hfresh htracks
  exact hoffline.tick lib ctx hfresh htracks hfails

end Iec104

/-! ## A client that only ever reports the loss -/

/-- Every poll returns `Disconnected`. The state of the client is whether its peer can be reached: it
    is gone after the first poll, and a connect fails from then on. -/
def lossyClient : Iec104Client Bool Unit Unit where
  connect reachable := (if reachable then .ok () else .error "refused", reachable)
  disconnect reachable := (.ok (), reachable)
  startDt reachable := (.ok (), reachable)
  stopDt reachable := (.ok (), reachable)
  generalInterrogation _ reachable := (.ok (), reachable)
  poll _ := (.ok (some .disconnected), false)
  singleCommand _ _ _ _ reachable := (.ok (), reachable)
  setpointFloat _ _ _ _ reachable := (.ok (), reachable)

/-- The library of that client; there are no points to convert. -/
def lossyLibrary : Iec104Library Bool Unit Unit Unit :=
  ⟨lossyClient, ⟨fun a _ => a, fun a _ => a, fun a _ => a⟩, fun _ => (), fun _ => ⟨[], []⟩⟩

/-- The adapter before its first connect. -/
def lossyChannel : Iec104Channel Bool := ⟨1, [], true, .disconnected, 0, 0, 0, none, true⟩

/-- A context without points, and with a limit of three empty polls. -/
def lossyContext : ChannelPollContext := ⟨3, ⟨1, [], []⟩⟩

/-- A tick whose wait ends in time. -/
def lossyTick : Tick (Iec104Channel Bool) := ⟨0, 0, 0, 0, .elapsed, none, true⟩

/-- The task, connected by a command. -/
def lossyTask : ChannelTask (Iec104Channel Bool) :=
  run (ChannelTask.step (runtime lossyLibrary) lossyContext)
    (startTask (runtime lossyLibrary) ⟨0⟩ none lossyChannel) [.protocolCommand .connect]

/-- Two polls report the loss, a `Disconnect` follows, and the next tick starts an attempt, which is
    refused: the channel is published as offline. -/
theorem loss_noticed_after_disconnect :
    let down := run (ChannelTask.step (runtime lossyLibrary) lossyContext) lossyTask
      [.tick lossyTick, .tick lossyTick, .protocolCommand .disconnect]
    lossyTask.attempts = 0 ∧ down.published = [false, true] ∧
      (down.step (runtime lossyLibrary) lossyContext (.tick lossyTick)).attempts = 1 ∧
      (down.step (runtime lossyLibrary) lossyContext (.tick lossyTick)).published.getLast? =
        some false := by
  refine ⟨by decide +kernel, by decide +kernel, ?_⟩
  have hloss : EveryStep (ChannelTask.step (runtime lossyLibrary) lossyContext)
      (fun task input => Quiet task input ∧ ReportsLoss lossyLibrary task input) lossyTask
      [.tick lossyTick, .tick lossyTick] := by
    intro n input hinput
    have hmem := List.mem_of_getElem? hinput
    simp only [List.mem_cons, List.not_mem_nil, or_false, or_self] at hmem
    rw [hmem]
    exact ⟨trivial, fun _ _ _ => .inl rfl⟩
  have honline : Online lossyTask := show lossyTask.protocol.state = .connected by decide +kernel
  exact (transport_loss lossyLibrary lossyContext ⟨0⟩ none lossyChannel
    [.protocolCommand .connect] (rfl : _ = lossyTask) (by decide +kernel) honline).2
    lossyTick [.tick lossyTick] _ .disconnect [] _ lossyTick hloss rfl rfl
    (everyStep_nil.2 trivial) rfl ⟨rfl, fun _ => ⟨"refused", rfl⟩, nofun⟩

/-- The channel is connected by a command and polled once; from then on it is polled for as long as one
    likes. Every poll reports the loss, the channel stays published as online, and there is no
    attempt. -/
theorem loss_unnoticed :
    let step := ChannelTask.step (runtime lossyLibrary) lossyContext
    let task := lossyTask.step (runtime lossyLibrary) lossyContext (.tick lossyTick)
    task.published = [false, true] ∧ task.attempts = 0 ∧
      ∀ ticks : List (Tick (Iec104Channel Bool)),
        Unnoticed 0 [false, true] (run step task (ticks.map TaskInput.tick)) := by
  intro step task
  have htask : Unnoticed 0 [false, true] task :=
    ⟨by decide +kernel, by decide +kernel, by decide +kernel, [], by decide +kernel,
      List.not_mem_nil⟩
  refine ⟨by decide +kernel, htask.attempts, fun ticks => ?_⟩
  refine htask.run lossyLibrary lossyContext _ fun n input hinput => ?_
  obtain ⟨tick, -, rfl⟩ := List.mem_map.1 (List.mem_of_getElem? hinput)
  trivial

end AetherEdge.Io
