import Mathlib.Data.Nat.Basic

/-!
# The reconnect helper

Model of `ReconnectHelper` (`services/io/src/runtime/reconnect.rs`): the state of the reconnection of
one channel, its attempt counters and the recovery from the state `Failed`. An `Instant` is a number
of milliseconds that the caller reads. The delay of the next attempt (`calculate_next_delay`) is not
part of the model: the task that waits for it says when the wait ends.

* `Unlimited.exhausted`, `recordFailure_unlimited`: without a limit of attempts the helper never gives
  up.
-/

namespace AetherEdge.Io

/-- Lines 23-32. -/
inductive ReconnectState where
  | connected
  | disconnected
  | reconnecting
  | failed
  deriving DecidableEq, Repr

/-- `AutoRecoveryPolicy`, the cooldown in milliseconds. -/
structure AutoRecoveryPolicy where
  cooldown : ℕ
  maxRecoveryRounds : UInt32
  deriving DecidableEq, Repr

/-- The limit of `ReconnectPolicy`; zero is no limit. -/
structure ReconnectPolicy where
  maxAttempts : UInt32
  deriving DecidableEq, Repr

/-- `ReconnectHelper`, with the fields of its context and of its statistics
    that are read. -/
structure ReconnectHelper where
  policy : ReconnectPolicy
  currentAttempt : UInt32
  connectionState : ReconnectState
  totalAttempts : UInt64
  autoRecovery : Option AutoRecoveryPolicy
  failedAt : Option ℕ
  recoveryRounds : UInt32
  deriving DecidableEq, Repr

namespace ReconnectHelper

/-- `new` (lines 159-168). -/
def new (policy : ReconnectPolicy) : ReconnectHelper :=
  ⟨policy, 0, .disconnected, 0, none, none, 0⟩

/-- `with_auto_recovery` (lines 171-176). -/
def withAutoRecovery (helper : ReconnectHelper) (policy : AutoRecoveryPolicy) : ReconnectHelper :=
  if 0 < policy.maxRecoveryRounds then { helper with autoRecovery := some policy } else helper

/-- `reset` (lines 189-196). -/
def reset (helper : ReconnectHelper) : ReconnectHelper :=
  { helper with
    currentAttempt := 0
    connectionState :=
      if helper.connectionState = .connected then .connected else .disconnected }

/-- `check_auto_recovery` (lines 202-236). -/
def checkAutoRecovery (helper : ReconnectHelper) (now : ℕ) : Bool × ReconnectHelper :=
  match helper.autoRecovery with
  | none => (false, helper)
  | some policy =>
    if helper.connectionState ≠ .failed then (false, helper)
    else
      let failedAt := helper.failedAt.getD now
      let helper := { helper with failedAt := some failedAt }
      if policy.maxRecoveryRounds ≤ helper.recoveryRounds then (false, helper)
      else if now - failedAt < policy.cooldown then (false, helper)
      else
        (true, { helper with recoveryRounds := helper.recoveryRounds + 1, failedAt := none }.reset)

/-- `mark_connected` (lines 265-274). -/
def markConnected (helper : ReconnectHelper) : ReconnectHelper :=
  { helper with
    connectionState := .connected
    currentAttempt := 0
    failedAt := none
    recoveryRounds := 0 }

/-- `mark_disconnected` (lines 277-281). -/
def markDisconnected (helper : ReconnectHelper) : ReconnectHelper :=
  { helper with connectionState := .disconnected }

/-- The test of the limit in `record_attempt` and `record_failure`. -/
def exhausted (helper : ReconnectHelper) : Bool :=
  decide (0 < helper.policy.maxAttempts) && decide (helper.policy.maxAttempts ≤ helper.currentAttempt)

/-- `record_attempt` (lines 287-316). The counters wrap. -/
def recordAttempt (helper : ReconnectHelper) (now : ℕ) : Bool × ReconnectHelper :=
  if helper.exhausted then
    (false, { helper with connectionState := .failed, failedAt := some (helper.failedAt.getD now) })
  else
    (true, { helper with
      currentAttempt := helper.currentAttempt + 1
      totalAttempts := helper.totalAttempts + 1
      connectionState := .reconnecting })

/-- `record_failure` (lines 319-341). -/
def recordFailure (helper : ReconnectHelper) (now : ℕ) : ReconnectHelper :=
  if helper.exhausted then
    { helper with connectionState := .failed, failedAt := some (helper.failedAt.getD now) }
  else { helper with connectionState := .disconnected }

/-! ## Without a limit -/

/-- Without a limit on attempts. -/
def Unlimited (helper : ReconnectHelper) : Prop := helper.policy.maxAttempts = 0

variable {helper : ReconnectHelper}

theorem Unlimited.exhausted (h : helper.Unlimited) : helper.exhausted = false := by
  rw [ReconnectHelper.exhausted, h]
  rfl

theorem recordAttempt_allowed (h : helper.exhausted = false) (now : ℕ) :
    helper.recordAttempt now =
      (true, { helper with
        currentAttempt := helper.currentAttempt + 1
        totalAttempts := helper.totalAttempts + 1
        connectionState := .reconnecting }) := by
  rw [recordAttempt, h]
  rfl

theorem recordFailure_unlimited (h : helper.Unlimited) (now : ℕ) :
    helper.recordFailure now = helper.markDisconnected := by
  rw [recordFailure, h.exhausted]
  rfl

@[simp] theorem policy_withAutoRecovery (policy : AutoRecoveryPolicy) :
    (helper.withAutoRecovery policy).policy = helper.policy := by
  unfold withAutoRecovery
  split_ifs <;> rfl

@[simp] theorem connectionState_withAutoRecovery (policy : AutoRecoveryPolicy) :
    (helper.withAutoRecovery policy).connectionState = helper.connectionState := by
  unfold withAutoRecovery
  split_ifs <;> rfl

end ReconnectHelper

end AetherEdge.Io
