import AetherEdge.Io.ShmListener
import AetherEdge.Shm.CommandNotifier

/-!
# From the sender to the channels

The sender of `Shm.CommandNotifier` and the listener of `Io.ShmListener` over the connections
between them. The steps of both interleave in any way, writes stop after any prefix, connections
are replaced, and either side restarts at any time.

* `FromSend`: the frame at a place of a connection is the one a send has written;
* `command_transport`: the listener only decodes frames that were built for a command, no command
  reaches its channel twice, and a receipt says that the frame is on a connection.
-/

namespace AetherEdge.Io

open Shm Domain Transition

/-- The two sides. -/
structure Transport where
  sender : Sender
  listener : Listener

/-- A step of one of them. -/
inductive TransportOp where
  | send (op : SendOp)
  | listen (op : ListenOp)

/-- Before the first step. -/
def Transport.initial : Transport := ⟨Sender.initial, Listener.initial⟩

/-- A step of either side. -/
def transportStep (endian : Endian) (path : String) (t : Transport) : TransportOp → Transport
  | .send op => { t with sender := (t.sender.sendStep endian path op).2 }
  | .listen op => { t with listener := t.listener.listenStep endian t.sender.wire op }

/-- The send has written its whole frame at the place. -/
def FromSend (t : Transport) (connection offset send : ℕ) : Prop :=
  ∃ w ∈ t.sender.writes, w.send = send ∧ w.Complete ∧ w.connection = connection ∧ w.offset = offset

/-- The invariant of the two sides. -/
structure Consistent (endian : Endian) (t : Transport) : Prop where
  framed : Framed endian t.sender
  tracks : Tracks endian t.sender.wire t.listener

section Runs

variable {endian : Endian} {t : Transport}

theorem consistent_initial (endian : Endian) : Consistent endian Transport.initial :=
  ⟨framed_initial endian, tracks_initial endian⟩

theorem Consistent.step (h : Consistent endian t) (path : String) (op : TransportOp) :
    Consistent endian (transportStep endian path t op) := by
  cases op with
  | send op => exact ⟨h.framed.step path op, h.tracks.grow (t.sender.grows_sendStep endian path op)⟩
  | listen op => exact ⟨h.framed, h.tracks.step op⟩

theorem Consistent.decoded (h : Consistent endian t) {d : Decoded} (hd : d ∈ t.listener.decoded) :
    ∃ send command, FromSend t d.connection d.offset send ∧
      t.sender.sent[send]? = some (command, d.frame) ∧ BuiltFrom command d.frame := by
  obtain ⟨bytes, hbs, halign, hle, hfrm⟩ := h.tracks.decoded d hd
  obtain ⟨w, hw, hconn, hoff, hcompl⟩ :=
    h.framed.covered d.connection bytes hbs d.offset halign hle
  obtain ⟨bytes', command, frame, hbs', hsent, hat⟩ := h.framed.bytesAt_complete hw hcompl
  rw [hconn] at hbs'
  obtain rfl := Option.some.inj (hbs.symm.trans hbs')
  rw [hoff] at hat
  have heq : d.frame = frame := by
    rw [hfrm, hat, DeviceCommandFrame.fromBytes_toBytes]
  rw [heq]
  exact ⟨w.send, command, ⟨w, hw, rfl, hcompl, hconn, hoff⟩, hsent,
    h.framed.built _ (List.mem_of_getElem? hsent)⟩

/-- A send has written its frame at one place. -/
theorem Consistent.fromSend_unique (h : Consistent endian t)
    {connection offset connection' offset' send : ℕ} (hfrom : FromSend t connection offset send)
    (hfrom' : FromSend t connection' offset' send) :
    connection = connection' ∧ offset = offset' := by
  obtain ⟨w, hw, hsend, hcompl, rfl, rfl⟩ := hfrom
  obtain ⟨w', hw', hsend', hcompl', rfl, rfl⟩ := hfrom'
  have heq := h.framed.once w hw w' hw' hcompl hcompl' (hsend.trans hsend'.symm)
  exact ⟨congrArg Write.connection heq, congrArg Write.offset heq⟩

/-- In every run of sends and of the listener, with writes that stop after any prefix, reconnects
    and restarts:
    every frame the listener has decoded was built for a command by a send;
    every command that a channel has received is the one of the frame of a send to that channel,
    and no two of them are of one send;
    a step that returns a receipt concludes a send that has written its complete frame to a
    connection. -/
theorem command_transport (endian : Endian) (path : String) (ops : List TransportOp) :
    let t := run (transportStep endian path) Transport.initial ops
    (∀ d ∈ t.listener.decoded, ∃ (send : ℕ) (command : PhysicalDeviceCommand),
      t.sender.sent[send]? = some (command, d.frame) ∧ BuiltFrom command d.frame) ∧
    (∀ d ∈ t.listener.dispatched, ∃ send command frame pointType,
      FromSend t d.connection d.offset send ∧ t.sender.sent[send]? = some (command, frame) ∧
      d.channelId = command.target.channelId ∧ pointTypeOf frame = some pointType ∧
      d.command = commandOf frame pointType) ∧
    (t.listener.dispatched.Pairwise fun d d' => ∀ send,
      ¬(FromSend t d.connection d.offset send ∧ FromSend t d'.connection d'.offset send)) ∧
    (∀ op receipt, (t.sender.sendStep endian path op).1 = some (.ok receipt) →
      ∃ send command frame connection offset bytes, t.sender.phase = .transported send command ∧
        t.sender.sent[send]? = some (command, frame) ∧ receipt.commandId = command.id ∧
        FromSend t connection offset send ∧ t.sender.wire[connection]? = some bytes ∧
        bytesAt bytes offset DeviceCommandFrame.size = frame.toBytes endian) := by
  intro t
  have h : Consistent endian t :=
    (everyState_of_step (fun _ op h => h.step path op) (consistent_initial endian) ops).last
  refine ⟨?_, ?_, ?_, ?_⟩
  · intro d hd
    obtain ⟨send, command, -, hsent, hbuilt⟩ := h.decoded hd
    exact ⟨send, command, hsent, hbuilt⟩
  · intro d hd
    obtain ⟨-, frame, pointType, hread, hchannel, hpointType, hcommand⟩ := h.tracks.dispatched d hd
    obtain ⟨send, command, hfrom, hsent, code, producerId, sequence, -, hframe⟩ := h.decoded hread
    refine ⟨send, command, frame, pointType, hfrom, hsent, ?_, hpointType, hcommand⟩
    exact hchannel.trans (congrArg DeviceCommandFrame.channelId hframe)
  · refine h.tracks.distinct.imp fun hdistinct send hboth => ?_
    exact hdistinct (h.fromSend_unique hboth.1 hboth.2)
  · intro op receipt hresult
    obtain ⟨send, command, frame, hphase, hsent, hid, w, hw, hsend, hcomplete⟩ :=
      h.framed.receipt hresult
    obtain ⟨bytes, command', frame', hbytes, hsent', hat⟩ := h.framed.bytesAt_complete hw hcomplete
    rw [hsend, hsent, Option.some.injEq, Prod.mk.injEq] at hsent'
    obtain ⟨-, rfl⟩ := hsent'
    exact ⟨send, command, frame, w.connection, w.offset, bytes, hphase, hsent, hid,
      ⟨w, hw, hsend, hcomplete, rfl, rfl⟩, hbytes, hat⟩

end Runs

/-- A write that stops after 20 bytes, and a whole one on the next connection. -/
def retriedSend (command : PhysicalDeviceCommand) : List TransportOp :=
  [TransportOp.listen (.register 1), TransportOp.send (.notify command 10 0 .connected),
    TransportOp.send (.attempt 10 0 .connected ⟨20, .failed "broken pipe"⟩),
    TransportOp.listen (.receive 0 (some 11)),
    TransportOp.send (.attempt 20 10 .connected ⟨56, .timedOut⟩),
    TransportOp.listen (.receive 1 (some 21)), TransportOp.listen (.dispatch 1 .sent)]

/-- The channel gets the command once, from the second connection. -/
example : (run (transportStep .little "io.sock") Transport.initial
      (retriedSend ⟨1, ⟨1, .command, 5, rfl⟩, F64.one, 7, 100, rfl, by decide⟩)
      ).listener.dispatched.map (fun d => (d.connection, d.offset, d.channelId)) = [(1, 0, 1)] := by
  decide +kernel

end AetherEdge.Io
