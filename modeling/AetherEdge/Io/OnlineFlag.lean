import AetherEdge.Io.Reconnection

/-!
# The online flag of a channel

A channel task publishes its online state when it differs from the one it published last. It takes
a state for published whether or not the health plane took it: `publish_channel_online`
(`services/io/src/store/shm_store.rs`) only logs an error of `set_online`
(`libs/aether-shm-bridge/src/health.rs`). Which of the writes succeed is a function of their number.

* `handlePollTick_ended`: a tick ends by comparing the adapter's state with the last published one,
  unless it finds the adapter offline and an attempt under way;
* `Tracks.step`: the task knows what it has published last;
* `flag_follows`: the flag after a tick.
-/

namespace AetherEdge.Io

open Transition ChannelTask List

section Published

variable {σ δ ε : Type} (runtime : ChannelRuntime σ δ ε) (ctx : ChannelPollContext)

namespace ChannelTask

/-! ## The end of a tick -/

/-- Nothing was published. -/
structure Keeps (task after : ChannelTask σ) : Prop where
  running : after.running = task.running
  prevOnline : after.prevOnline = task.prevOnline
  published : after.published = task.published

/-- How a tick ends. -/
inductive Ended (task : ChannelTask σ) : ChannelTask σ → Prop where
  | refreshed {ended : ChannelTask σ} (h : task.Keeps ended) : Ended task (ended.refresh runtime)
  | skipped {ended : ChannelTask σ} (h : task.Keeps ended)
      (hprotocol : ended.protocol = task.protocol)
      (hoffline : runtime.online task.protocol = false)
      (hstate : task.helper.connectionState = .reconnecting) : Ended task ended

variable (task : ChannelTask σ) (tick : Tick σ)

/-- An attempt ends with a refresh, whatever comes of it. -/
theorem attemptReconnect_eq_refresh :
    ∃ attempted, task.attemptReconnect runtime tick = attempted.refresh runtime ∧
      task.Keeps attempted := by
  unfold attemptReconnect
  dsimp only
  split
  · exact ⟨_, rfl, rfl, rfl, rfl⟩
  · split <;> exact ⟨_, rfl, rfl, rfl, rfl⟩

theorem keeps_handleBackoffCommand (command : ProtocolCommand) :
    task.Keeps (task.handleBackoffCommand runtime command).2 := by
  unfold handleBackoffCommand
  split
  · exact ⟨rfl, rfl, rfl⟩
  · split <;> exact ⟨rfl, rfl, rfl⟩
  · exact ⟨rfl, rfl, rfl⟩
  · exact ⟨rfl, rfl, rfl⟩

theorem handleDisconnected_ended (hoff : runtime.online task.protocol = false) :
    Ended runtime task (task.handleDisconnected runtime tick).2 := by
  unfold handleDisconnected
  dsimp only
  split
  · unfold handleFailed
    dsimp only
    split <;> exact .refreshed ⟨rfl, rfl, rfl⟩
  next hst => exact .skipped ⟨rfl, rfl, rfl⟩ rfl hoff hst
  all_goals
    split
    · exact .refreshed ⟨rfl, rfl, rfl⟩
    next helper hrecd =>
    obtain ⟨recorded, hrecd⟩ : ∃ recorded : ChannelTask σ, recorded = { task with
      helper := helper, shared.reconnectTotalAttempts := task.helper.totalAttempts } := ⟨_, rfl⟩
    have hkp : ∀ after, recorded.Keeps after → task.Keeps after := by
      intro after h
      subst hrecd
      exact ⟨h.1, h.2, h.3⟩
    obtain ⟨attempted, heq, hattempted⟩ := attemptReconnect_eq_refresh runtime recorded tick
    rw [← hrecd]
    split
    · exact heq ▸ .refreshed (hkp _ hattempted)
    split
    · exact .refreshed (hkp _ (keeps_handleBackoffCommand runtime recorded _))
    · exact heq ▸ .refreshed (hkp _ hattempted)

theorem handlePollTick_ended : Ended runtime task (task.handlePollTick runtime ctx tick).2 := by
  unfold handlePollTick
  dsimp only
  split
  next hoff =>
    have h := handleDisconnected_ended runtime (task.beat tick.nowMs) tick (by simpa using hoff)
    generalize ((task.beat tick.nowMs).handleDisconnected runtime tick).2 = after at h ⊢
    cases h with
    | refreshed h => exact .refreshed ⟨h.1, h.2, h.3⟩
    | skipped h hproto hoff hst =>
      exact .skipped ⟨h.1, h.2, h.3⟩ hproto hoff hst
  have hmarked : task.Keeps (if (task.beat tick.nowMs).helper.connectionState = .connected
      then task.beat tick.nowMs else (task.beat tick.nowMs).markConnected) := by
    split <;> exact ⟨rfl, rfl, rfl⟩
  generalize (if (task.beat tick.nowMs).helper.connectionState = .connected
    then task.beat tick.nowMs else (task.beat tick.nowMs).markConnected) = marked at hmarked ⊢
  split
  · exact .refreshed ⟨hmarked.1, hmarked.2, hmarked.3⟩
  next after haft =>
    refine .refreshed ?_
    unfold handlePollData at haft
    unfold cacheDiagnostics
    split_ifs at haft <;> cases haft <;> split <;> exact ⟨hmarked.1, hmarked.2, hmarked.3⟩

/-! ## What was published last -/

/-- The task knows what it has published last. -/
def Tracks (task : ChannelTask σ) : Prop :=
  task.running = true → task.prevOnline = task.published.getLast?

variable {task}

theorem Keeps.tracks {after : ChannelTask σ} (hkp : task.Keeps after) (h : task.Tracks) :
    after.Tracks := by
  intro haft
  rw [hkp.prevOnline, hkp.published]
  exact h (hkp.running ▸ haft)

theorem Tracks.publish (h : task.Tracks) (online : Bool) : (task.publish online).Tracks := by
  unfold ChannelTask.publish
  split
  · exact h
  intro _
  show some online = (task.published ++ [online]).getLast?
  rw [getLast?_append]
  rfl

theorem Tracks.refresh (h : task.Tracks) : (task.refresh runtime).Tracks :=
  (Keeps.tracks ⟨rfl, rfl, rfl⟩ h : (task.updateCachedState runtime).Tracks).publish _

theorem tracks_stop : (task.stop runtime).Tracks := fun h => by cases h

theorem Tracks.step (h : task.Tracks) (input : TaskInput σ δ) :
    (task.step runtime ctx input).Tracks := by
  cases hrunning : task.running with
  | false =>
    rw [step_stopped runtime ctx hrunning]
    exact h
  | true =>
    rw [step_running runtime ctx hrunning]
    cases input with
    | protocolCommand command =>
      rw [iterate]
      split
      · exact tracks_stop runtime
      · cases command <;> exact Keeps.tracks ⟨rfl, rfl, rfl⟩ h
    | businessCommand nowMs =>
      rw [iterate]
      split
      · exact h
      unfold handleBusinessCommand
      dsimp only
      split <;> exact Keeps.tracks ⟨rfl, rfl, rfl⟩ h
    | event event nowMs stored =>
      rw [iterate]
      split
      · cases event with
        | dataUpdate batch =>
          unfold handleProtocolEvent
          dsimp only
          split
          · exact h
          · exact Keeps.tracks ⟨rfl, rfl, rfl⟩ h
        | connectionChanged state =>
          have hcached : ({ task with
              shared.cachedConnectionState := state.toChannel } : ChannelTask σ).Tracks :=
            Keeps.tracks ⟨rfl, rfl, rfl⟩ h
          exact hcached.publish state.isConnected
        | error message => exact h
        | heartbeat => exact Keeps.tracks ⟨rfl, rfl, rfl⟩ h
      · exact h
    | tick tick =>
      rw [iterate]
      have hended := handlePollTick_ended runtime ctx task tick
      generalize task.handlePollTick runtime ctx tick = result at hended ⊢
      obtain ⟨action, after⟩ := result
      have haft : after.Tracks := by
        cases hended with
        | refreshed hkp => exact Tracks.refresh runtime (hkp.tracks h)
        | skipped hkp => exact hkp.tracks h
      cases action with
      | «break» => exact tracks_stop runtime
      | «continue» | proceed => exact haft
    | enqueue command | eventsClosed | background protocol => exact Keeps.tracks ⟨rfl, rfl, rfl⟩ h

theorem everyState_tracks (policy : ReconnectPolicy) (autoRecovery : Option AutoRecoveryPolicy)
    (protocol : σ) (inputs : List (TaskInput σ δ)) :
    EveryState (ChannelTask.step runtime ctx) Tracks
      (startTask runtime policy autoRecovery protocol) inputs := by
  refine everyState_of_step ?_ (Tracks.refresh runtime fun _ => rfl) inputs
  exact fun task input h => h.step runtime ctx input

/-- A refresh publishes the state of the adapter if it was not published last. -/
theorem prevOnline_refresh :
    (task.refresh runtime).prevOnline = some (runtime.online task.protocol) := by
  unfold ChannelTask.refresh checkOnlineChange ChannelTask.publish
  split
  next hsame => exact hsame
  next => rfl

end ChannelTask

/-! ## The flag -/

/-- The flag in the health plane: the last state whose write succeeded, or what was there before. -/
def onlineFlag (written : ℕ → Bool) (initial : Option Bool) (published : List Bool) :
    Option Bool :=
  published.zipIdx.foldl (fun flag call => if written call.2 then some call.1 else flag) initial

variable {written : ℕ → Bool}

theorem onlineFlag_append (initial : Option Bool) (published : List Bool) (online : Bool) :
    onlineFlag written initial (published ++ [online]) =
      if written published.length then some online else onlineFlag written initial published := by
  simp [onlineFlag, zipIdx_append]

theorem onlineFlag_of_written (initial : Option Bool) {published : List Bool} {online : Bool}
    (hlast : published.getLast? = some online) (h : written (published.length - 1) = true) :
    onlineFlag written initial published = some online := by
  obtain ⟨earlier, rfl⟩ := getLast?_eq_some_iff.1 hlast
  rw [length_append, length_singleton, Nat.add_sub_cancel] at h
  rw [onlineFlag_append, h, if_pos rfl]

/-- The last state that the task published is in the health plane, and if the tick will take an
    attempt for being under way, this state is offline. -/
structure Reflected (written : ℕ → Bool) (task : ChannelTask σ) : Prop where
  written : written (task.published.length - 1) = true
  idle : task.helper.connectionState = .reconnecting → runtime.online task.protocol = false →
    task.prevOnline = some false

theorem Reflected.flag {task : ChannelTask σ} (h : Reflected runtime written task)
    (hlast : task.prevOnline = task.published.getLast?) (tick : Tick σ) (initial : Option Bool)
    (hwr : written task.published.length = true) :
    onlineFlag written initial (task.handlePollTick runtime ctx tick).2.published =
      some (runtime.online (task.handlePollTick runtime ctx tick).2.protocol) := by
  have hended := handlePollTick_ended runtime ctx task tick
  generalize (task.handlePollTick runtime ctx tick).2 = after at hended ⊢
  cases hended with
  | skipped hkp hproto hoff hst =>
    rw [hkp.published, hproto, hoff]
    exact onlineFlag_of_written initial (hlast ▸ h.idle hst hoff) h.written
  | @refreshed ended hkp =>
    rw [protocol_refresh]
    unfold ChannelTask.refresh checkOnlineChange ChannelTask.publish
    split
    next hsame =>
      show onlineFlag written initial ended.published = _
      rw [hkp.published]
      exact onlineFlag_of_written initial
        (hlast.symm.trans (hkp.prevOnline.symm.trans hsame)) h.written
    next =>
      show onlineFlag written initial (ended.published ++ [runtime.online ended.protocol]) = _
      rw [hkp.published, onlineFlag_append, hwr, if_pos rfl]

/-- If at each tick whose write would succeed the write of the last published state has succeeded,
    and no such tick finds the adapter offline, published as online and an attempt under way, then
    the flag after each of these ticks is the connectivity at its end. -/
theorem flag_follows (policy : ReconnectPolicy) (autoRecovery : Option AutoRecoveryPolicy)
    (protocol : σ) (inputs : List (TaskInput σ δ)) (written : ℕ → Bool) (initial : Option Bool)
    (hreflected : EveryStep (ChannelTask.step runtime ctx)
      (fun task input => ∀ tick, input = .tick tick → task.running = true →
        written task.published.length = true → Reflected runtime written task)
      (startTask runtime policy autoRecovery protocol) inputs) :
    EveryStep (ChannelTask.step runtime ctx)
      (fun task input => ∀ tick, input = .tick tick → task.running = true →
        written task.published.length = true →
        onlineFlag written initial (task.handlePollTick runtime ctx tick).2.published =
          some (runtime.online (task.handlePollTick runtime ctx tick).2.protocol))
      (startTask runtime policy autoRecovery protocol) inputs := by
  intro n input hinput tick htick hrunning hwritten
  have h := hreflected n input hinput tick htick hrunning hwritten
  obtain ⟨hn, -⟩ := List.getElem?_eq_some_iff.1 hinput
  have htracks := everyState_tracks runtime ctx policy autoRecovery protocol inputs n hn.le hrunning
  exact h.flag runtime ctx htracks tick initial hwritten

end Published

/-! ## A write that fails -/

/-- An adapter that reports its connections by events. -/
def evented : ChannelRuntime ℕ Unit Unit :=
  { secondTry with
    isEventDriven := fun _ => true
    takeEventReceiver := fun tries => (true, tries) }

/-- A tick whose wait elapses. -/
def idleTick : Tick ℕ := ⟨0, 0, 0, 0, .elapsed, none, true⟩

/-- The adapter connects, reports it and is polled; then it loses its connection. -/
def connectionLost : List (TaskInput ℕ Unit) :=
  [.background 2, .event (.connectionChanged .connected) 0 true, .tick idleTick, .background 0]

/-- Only the first write fails. -/
def afterFirst (call : ℕ) : Bool := decide (call ≠ 0)

/-- The write of the first state fails, the one for the event succeeds, and so does that of the tick
    that finds the connection lost. -/
theorem flag_follows_lost_connection :
    let task := run (ChannelTask.step evented noPoints) (startTask evented ⟨0⟩ none 0) connectionLost
    task.published = [false, true] ∧
      onlineFlag afterFirst none (task.handlePollTick evented noPoints idleTick).2.published =
        some false := by
  have hreflected : EveryStep (ChannelTask.step evented noPoints)
      (fun task input => ∀ tick, input = .tick tick → task.running = true →
        afterFirst task.published.length = true → Reflected evented afterFirst task)
      (startTask evented ⟨0⟩ none 0) (connectionLost ++ [.tick idleTick]) := by
    simp only [connectionLost, List.cons_append, List.nil_append, everyStep_cons, everyStep_nil]
    refine ⟨?_, ?_, fun _ _ _ _ => ⟨?_, ?_⟩, ?_, fun _ _ _ _ => ⟨?_, ?_⟩, trivial⟩
    all_goals first
      | decide +kernel
      | intro tick h; cases h
  have hflag := flag_follows evented noPoints ⟨0⟩ none 0 (connectionLost ++ [.tick idleTick])
    afterFirst none hreflected 4 (.tick idleTick) rfl idleTick rfl (by decide +kernel)
    (by decide +kernel)
  rw [List.take_left' (show connectionLost.length = 4 from rfl)] at hflag
  exact ⟨by decide +kernel, hflag.trans (by decide +kernel)⟩

/-- The write of the first state fails. The tick does not repeat it, and the channel stays marked as
    online, as an earlier task has left it. -/
theorem flag_stale_after_tick :
    let start := startTask unreachable ⟨0⟩ none ()
    let after := (start.handlePollTick unreachable noPoints (tickWith .elapsed)).2
    let written := fun call => decide (call ≠ 0)
    start.running = true ∧ written start.published.length = true ∧
      unreachable.online after.protocol = false ∧
      onlineFlag written (some true) after.published = some true := by
  decide +kernel

end AetherEdge.Io
