import AetherEdge.Common.Lease
import AetherEdge.Dataplane.Slot
import AetherEdge.Domain

/-!
# Command mirrors on one slot

Model of what `ShmDeviceCommandSink::send` does to the slot of its target
(`libs/aether-shm-bridge/src/command_sink.rs`): under a shared authority lease it
writes the command with `set_direct`. Shared leases exclude the replacement of the file and
nothing else; two sends to one slot interleave at every access.

* `accepted_of_serialized`: readers see whole commands when the writes do not overlap;
* `overlapping_mirrors_mix`: two overlapping writes.
-/

namespace AetherEdge.Shm

open Transition Seqlock Dataplane Domain

/-- `encode_point_quality` (`lib.rs:121-128`). -/
def encodePointQuality : PointQuality → UInt32
  | .good => 0
  | .uncertain => 1
  | .bad => 2
  | .unavailable => 3

/-- The arguments of `set_direct`. -/
def mirrorRecord (command : PhysicalDeviceCommand) : SlotRead :=
  ⟨command.value, command.value, command.issuedAt, encodePointQuality .good⟩

/-- The slot of the target, and the authority lease of its file. -/
structure MirrorState where
  slot : SlotState
  lease : Lease

/-- A step of a send, of a replacement of the file, or of a reader. -/
inductive MirrorOp where
  /-- `acquire_authority` -/
  | acquireAuthority (sender : ℕ)
  /-- the call of `set_direct` -/
  | mirror (sender : ℕ) (command : PhysicalDeviceCommand)
  /-- one access of `set` -/
  | advance (sender : ℕ)
  /-- the end of the send -/
  | dropAuthority (sender : ℕ)
  /-- `AuthorityWriteGuard::acquire` and its drop -/
  | beginReplacement (replacer : ℕ)
  | endReplacement (replacer : ℕ)
  /-- one access of `try_load_consistent` -/
  | load

/-- The access to the slot that a step makes. -/
def MirrorOp.slotOp (s : MirrorState) : MirrorOp → Option (Op SlotRead FieldStore)
  | .mirror sender command =>
    if sender ∈ s.lease.shared then some (.call sender (mirrorRecord command)) else none
  | .advance sender => some (.advance sender)
  | .load => some .load
  | _ => none

/-- `set_direct` has returned. -/
def MirrorState.returned (s : MirrorState) (sender : ℕ) : Bool :=
  match s.slot.writers sender with
  | .idle => true
  | _ => false

/-- The lease after a step. -/
def MirrorOp.lease (s : MirrorState) : MirrorOp → Lease
  | .acquireAuthority sender => s.lease.acquireShared sender
  | .dropAuthority sender =>
    if s.returned sender then s.lease.releaseShared sender else s.lease
  | .beginReplacement replacer => s.lease.acquireExclusive replacer
  | .endReplacement replacer => s.lease.releaseExclusive replacer
  | _ => s.lease

/-- The transition function. -/
def mirrorStep (s : MirrorState) (op : MirrorOp) : MirrorState where
  slot := match op.slotOp s with
    | some access => step pointSlot s.slot access
    | none => s.slot
  lease := op.lease s

/-- A new slot and a free lease. -/
def MirrorState.created : MirrorState := ⟨SlotState.created, Lease.free⟩

/-- What a step hands to the caller of `try_load_consistent`. -/
def mirrorAccepted (s : MirrorState) (op : MirrorOp) : Option SlotRead :=
  (op.slotOp s).bind (accepted s.slot)

/-! ## Overlapping writes -/

/-- No `set` makes its first increment while another one is going on. -/
def Serialized (s : MirrorState) : MirrorOp → Prop
  | .advance sender => ∀ record, s.slot.writers sender = .waiting record → s.slot.Quiet
  | _ => True

theorem disciplined_of_serialized {s : MirrorState} {op : MirrorOp} (h : Serialized s op)
    {access : Op SlotRead FieldStore} (haccess : op.slotOp s = some access) :
    Disciplined s.slot access := by
  cases op with
  | mirror sender command =>
    simp only [MirrorOp.slotOp] at haccess
    split_ifs at haccess
    cases haccess
    trivial
  | advance sender =>
    cases haccess
    exact h
  | load =>
    cases haccess
    trivial
  | acquireAuthority | dropAuthority | beginReplacement | endReplacement => cases haccess

theorem orderly_of_serialized {ops : List MirrorOp}
    (hops : EveryStep mirrorStep Serialized MirrorState.created ops) :
    EveryState mirrorStep (fun s => Orderly pointSlot s.slot) MirrorState.created ops := by
  have hstep : ∀ (s : MirrorState) (op : MirrorOp), Orderly pointSlot s.slot → Serialized s op →
      Orderly pointSlot (mirrorStep s op).slot := by
    intro s op h hop
    unfold mirrorStep
    cases haccess : op.slotOp s with
    | none => exact h
    | some access => exact h.step (disciplined_of_serialized hop haccess)
  exact hops.invariant hstep orderly_created

/-- In every run in which no write begins during another one, whatever a reader accepts is the
    whole record of the last finished write, as long as fewer than `2 ^ 31` of them finish during
    its attempt. -/
theorem accepted_of_serialized {ops : List MirrorOp}
    (hops : EveryStep mirrorStep Serialized MirrorState.created ops) :
    EveryStep mirrorStep
      (fun s op => ∀ got, mirrorAccepted s op = some got → writesDuring s.slot < 2 ^ 31 →
        s.slot.finished.head? = some got)
      MirrorState.created ops := by
  refine (orderly_of_serialized hops).everyStep fun s op h got haccepted hbound => ?_
  obtain ⟨access, -, haccepted⟩ := Option.bind_eq_some_iff.1 haccepted
  exact h.accepted haccepted hbound

/-- A command to a point of channel 1. -/
def sampleCommand (value : F64) (h : value.isFinite = true) : PhysicalDeviceCommand where
  id := 1
  target := ⟨1, .command, 1, rfl⟩
  value := value
  issuedAt := 7
  expiresAt := 100
  finite := h
  window := by decide

/-- Two sends that both hold their leases and write one after the other. A reader begins an attempt
    during the first write, makes one between the two writes and one after them. -/
def twoMirrors : List MirrorOp :=
  [.acquireAuthority 0, .acquireAuthority 1, .mirror 0 (sampleCommand F64.one rfl),
    .mirror 1 (sampleCommand F64.hundred rfl), .advance 0, .advance 0, .load, .advance 0, .advance 0,
    .advance 0, .advance 0, .load, .load, .load, .load, .load, .load, .advance 1, .advance 1,
    .advance 1, .advance 1, .advance 1, .advance 1, .dropAuthority 0, .load, .load, .load, .load,
    .load, .load, .dropAuthority 1]

/-- The two attempts after a write return its record, and so the run accepts both commands. -/
theorem accepted_of_twoMirrors :
    (let s := run mirrorStep MirrorState.created (twoMirrors.take 16)
     mirrorAccepted s .load = some ⟨F64.one, F64.one, 7, 0⟩) ∧
      (let s := run mirrorStep MirrorState.created (twoMirrors.take 29)
       mirrorAccepted s .load = some ⟨F64.hundred, F64.hundred, 7, 0⟩) ∧
      EveryStep mirrorStep
        (fun s op => ∀ got, mirrorAccepted s op = some got → writesDuring s.slot < 2 ^ 31 →
          s.slot.finished.head? = some got)
        MirrorState.created twoMirrors := by
  refine ⟨by decide +kernel, by decide +kernel, accepted_of_serialized ?_⟩
  simp only [twoMirrors, everyStep_cons, everyStep_nil, Serialized, true_and, and_true]
  -- each sender waits at its first increment only, and no other one is writing then
  and_intros
  all_goals
    intro record hwaits writer record' left hwrites
    cases hwaits
  all_goals rcases writer with _ | _ | writer <;> cases hwrites

/-- The first sender has made its first increment when the second one makes its own: the counter
    is even, and a reader begins. The second sender's stores of value and raw value come between
    the reader's loads of them. -/
def overlappingMirrors : List MirrorOp :=
  [.acquireAuthority 0, .acquireAuthority 1, .mirror 0 (sampleCommand F64.one rfl),
    .mirror 1 (sampleCommand F64.hundred rfl), .advance 0, .advance 1,
    .advance 0, .advance 0, .advance 0, .advance 0, .load, .load, .advance 1, .advance 1,
    .load, .load, .load]

/-- The reader accepts the value of one command with the raw value of the other. -/
theorem overlapping_mirrors_mix :
    let s := run mirrorStep MirrorState.created overlappingMirrors
    mirrorAccepted s .load = some ⟨F64.one, F64.hundred, 7, 0⟩ ∧ writesDuring s.slot = 0 ∧
      s.lease.shared = [1, 0] := by
  decide +kernel

end AetherEdge.Shm
