import AetherEdge.Common.Transition
import AetherEdge.Io.Types
import AetherEdge.Shm.CommandFrame

/-!
# Receiving command frames

Model of `ShmCommandListener` (`services/io/src/core/channels/shm_listener.rs`). Every connection
has a task of its own (`handle_connection`), which reads 56 bytes at a time, decides about the frame
and hands the command to its channel. Tasks of different connections interleave; they share the
table of the last sequence numbers and the senders of the channels.

A step gets the bytes that were written to each connection. `decoded` and `dispatched` log the
frames that were read and the commands that a channel has received, each with the connection and
the place on it.

* `Tracks`: every decoded frame is 56 bytes from a frame boundary of its connection, every
  dispatched command is that of a decoded frame, and no two of them are from one place;
* `Tracks.step`: every step keeps to it, also when the connections have grown;
* `accepted_increasing_iff`: the accepted sequences of a producer increase exactly while its frames
  are in order.
-/

namespace AetherEdge.Io

open Shm Domain DeviceCommandFrame List

/-! ## The listener -/

/-- `SequenceMap`: the producer and the sequence of the last command of a
    point. -/
abbrev SequenceMap := UInt32 × UInt8 × UInt32 → Option (UInt64 × UInt64)

/-- Where a connection's task is. -/
inductive TaskState where
  | reading
  /-- a command that was read at `offset` waits for its channel -/
  | dispatching (offset : ℕ) (channelId : UInt32) (command : ChannelCommand)
  | ended

/-- How far the task of a connection has read. -/
structure ConnectionTask where
  consumed : ℕ
  state : TaskState

/-- A frame that was read. -/
structure Decoded where
  connection : ℕ
  offset : ℕ
  frame : DeviceCommandFrame

/-- A command that a channel has received. -/
structure Dispatched where
  connection : ℕ
  offset : ℕ
  channelId : UInt32
  command : ChannelCommand

/-- `ShmCommandListener`. `registered` are the channels with a sender. -/
structure Listener where
  tasks : ℕ → ConnectionTask
  lastSequences : SequenceMap
  registered : UInt32 → Bool
  decoded : List Decoded
  dispatched : List Dispatched

/-- What `sender.send` with its timeout comes to. -/
inductive DispatchFate where
  | sent
  | closed
  | timedOut

/-- The steps of the listener. `hangUp` is the end of a connection, a read error or the shutdown,
    and `restart` a new process. -/
inductive ListenOp where
  | receive (connection : ℕ) (now : Option ℕ)
  | dispatch (connection : ℕ) (fate : DispatchFate)
  | hangUp (connection : ℕ)
  | register (channelId : UInt32)
  | unregister (channelId : UInt32)
  | restart

/-- `{:016x}`. -/
def hex16 (n : UInt64) : String := String.ofList (List.leftpad 16 '0' (Nat.toDigits 16 n.toNat))

/-- `build_command` (lines 370-396). -/
def buildCommand (pointType : PointType) (pointId : UInt32) (value : F64)
    (timestamp expiresAtMs : Int64) (producerId seq : UInt64) : ChannelCommand :=
  let commandId := s!"uds-{hex16 producerId}-{seq.toNat}"
  match pointType with
  | .control => .control commandId pointId value timestamp expiresAtMs
  | _ => .adjustment commandId pointId value timestamp expiresAtMs

/-- The command of a frame, for the point type that its kind stands for. -/
def commandOf (notif : DeviceCommandFrame) (pointType : PointType) : ChannelCommand :=
  buildCommand pointType notif.pointId notif.value notif.timestampMs.toInt64
    (min notif.expiresAtMs 0x7fffffffffffffff).toInt64 notif.producerId notif.sequence

/-- In `handle_notification` (lines 202-363). -/
def pointTypeOf (notif : DeviceCommandFrame) : Option PointType :=
  match notif.pointKind with
  | some .command => some .control
  | some .action => some .adjustment
  | some .telemetry => none
  | some .status => none
  | none => none

/-- The frame is not newer than the last one of its producer for the point. -/
def outdated (sequences : SequenceMap) (notif : DeviceCommandFrame) : Bool :=
  (sequences (notif.channelId, notif.pointType, notif.pointId)).any fun last =>
    last.1 == notif.producerId &&
      (decide ((0xffffffffffffffff : UInt64) / 2 < notif.sequence - last.2) ||
        notif.sequence == last.2)

/-- `handle_notification` (lines 202-363) up to the dispatch. Without a clock that is past the epoch
    there is no `now`. The unbounded constraints ask for a finite value. -/
def handleNotification (notif : DeviceCommandFrame) (sequences : SequenceMap) (now : Option ℕ) :
    SequenceMap × Option ChannelCommand :=
  match pointTypeOf notif, now with
  | some pointType, some now =>
    if notif.expiresAtMs ≤ notif.timestampMs ∨ notif.expiresAtMs.toNat ≤ now then (sequences, none)
    else if outdated sequences notif then (sequences, none)
    else
      (Function.update sequences (notif.channelId, notif.pointType, notif.pointId)
          (some (notif.producerId, notif.sequence)),
        if notif.value.isFinite then some (commandOf notif pointType) else none)
  | _, _ => (sequences, none)

namespace Listener

variable (endian : Endian)

/-- A task goes on. -/
def setTask (l : Listener) (connection : ℕ) (task : ConnectionTask) : Listener :=
  { l with tasks := Function.update l.tasks connection task }

/-- One turn of `handle_connection` (lines 165-200): when 56 bytes have come, they are read and
    decoded. -/
def receive (wire : List Bytes) (l : Listener) (connection : ℕ) (now : Option ℕ) : Listener :=
  let offset := (l.tasks connection).consumed
  match (l.tasks connection).state, wire[connection]? with
  | .reading, some bytes =>
    if offset + size ≤ bytes.length then
      let notif := fromBytes endian (bytesAt bytes offset size)
      let (sequences, command) := handleNotification notif l.lastSequences now
      let state := match command with
        | some command => .dispatching offset notif.channelId command
        | none => .reading
      { l.setTask connection ⟨offset + size, state⟩ with
        lastSequences := sequences
        decoded := l.decoded ++ [⟨connection, offset, notif⟩] }
    else l
  | _, _ => l

/-- The end of `handle_notification` (lines 202-363). -/
def dispatch (l : Listener) (connection : ℕ) (fate : DispatchFate) : Listener :=
  match (l.tasks connection).state with
  | .dispatching offset channelId command =>
    let l' := l.setTask connection ⟨(l.tasks connection).consumed, .reading⟩
    match fate with
    | .sent =>
      if l.registered channelId then
        { l' with dispatched := l.dispatched ++ [⟨connection, offset, channelId, command⟩] }
      else l'
    | .closed => l'
    | .timedOut => l'
  | _ => l

/-- A step of the listener, when `wire` has been written to the connections. -/
def listenStep (wire : List Bytes) (l : Listener) (op : ListenOp) : Listener :=
  match op with
  | .receive connection now => l.receive endian wire connection now
  | .dispatch connection fate => l.dispatch connection fate
  | .hangUp connection => l.setTask connection ⟨(l.tasks connection).consumed, .ended⟩
  | .register channelId => { l with registered := Function.update l.registered channelId true }
  | .unregister channelId => { l with registered := Function.update l.registered channelId false }
  | .restart =>
    { l with
      tasks := fun connection =>
        if connection < wire.length then ⟨(l.tasks connection).consumed, .ended⟩
        else l.tasks connection
      lastSequences := fun _ => none
      registered := fun _ => false }

/-- Before the first connection. -/
def initial : Listener := ⟨fun _ => ⟨0, .reading⟩, fun _ => none, fun _ => false, [], []⟩

end Listener

theorem handleNotification_some {notif : DeviceCommandFrame} {sequences : SequenceMap}
    {now : Option ℕ} {command : ChannelCommand}
    (h : (handleNotification notif sequences now).2 = some command) :
    ∃ pointType, pointTypeOf notif = some pointType ∧ command = commandOf notif pointType := by
  unfold handleNotification at h
  split at h
  · next pointType _ hpointType =>
    split_ifs at h with _ _ hfin
    · exact ⟨pointType, hpointType, (Option.some.inj h).symm⟩
  · cases h

/-! ## What was read from where -/

/-- The command is that of a frame which was read at the given place. -/
def Read (l : Listener) (connection offset : ℕ) (channelId : UInt32) (command : ChannelCommand) :
    Prop :=
  ∃ frame pointType, ⟨connection, offset, frame⟩ ∈ l.decoded ∧ channelId = frame.channelId ∧
    pointTypeOf frame = some pointType ∧ command = commandOf frame pointType

/-- The logs of the listener and the connections. -/
structure Tracks (endian : Endian) (wire : List Bytes) (l : Listener) : Prop where
  aligned : ∀ c, size ∣ (l.tasks c).consumed
  /-- a frame is 56 bytes from a boundary -/
  decoded : ∀ d ∈ l.decoded, ∃ bytes, wire[d.connection]? = some bytes ∧
    size ∣ d.offset ∧ d.offset + size ≤ bytes.length ∧
    d.frame = fromBytes endian (bytesAt bytes d.offset size)
  /-- a command that waits for its channel is from the last frame of its connection -/
  dispatching : ∀ c offset channelId command,
    (l.tasks c).state = .dispatching offset channelId command →
    offset < (l.tasks c).consumed ∧ (∀ d ∈ l.dispatched, d.connection = c → d.offset < offset) ∧
    Read l c offset channelId command
  dispatched : ∀ d ∈ l.dispatched, d.offset < (l.tasks d.connection).consumed ∧
    Read l d.connection d.offset d.channelId d.command
  /-- no two commands are from one place -/
  distinct : l.dispatched.Pairwise fun d d' => ¬(d.connection = d'.connection ∧ d.offset = d'.offset)

theorem tracks_initial (endian : Endian) : Tracks endian [] Listener.initial where
  aligned _ := ⟨0, rfl⟩
  decoded _ h := by cases h
  dispatching _ _ _ _ h := by cases h
  dispatched _ h := by cases h
  distinct := List.Pairwise.nil

section Steps

variable {endian : Endian} {wire : List Bytes} {l : Listener}

/-- Bytes that are added behind others change nothing that was read. -/
theorem Tracks.grow (h : Tracks endian wire l) {wire' : List Bytes}
    (hgrow : Grows wire wire') : Tracks endian wire' l where
  aligned := h.aligned
  decoded d hd := by
    obtain ⟨bytes, hbs, halign, hle, hfrm⟩ := h.decoded d hd
    obtain ⟨more, hmore⟩ := hgrow d.connection bytes hbs
    refine ⟨bytes ++ more, hmore, halign, ?_, ?_⟩
    · rw [length_append]
      omega
    · rw [bytesAt_append_left hle, hfrm]
  dispatching := h.dispatching
  dispatched := h.dispatched
  distinct := h.distinct

theorem Tracks.keep (h : Tracks endian wire l) {l' : Listener} (hdec : l'.decoded = l.decoded)
    (hdisp : l'.dispatched = l.dispatched)
    (htasks : ∀ c, (l'.tasks c).consumed = (l.tasks c).consumed ∧
      ((l'.tasks c).state = (l.tasks c).state ∨ (l'.tasks c).state = .reading ∨
        (l'.tasks c).state = .ended)) : Tracks endian wire l' where
  aligned c := by
    rw [(htasks c).1]
    exact h.aligned c
  decoded := by
    rw [hdec]
    exact h.decoded
  dispatching c offset channelId command hst := by
    unfold Read
    rw [(htasks c).1, hdisp, hdec]
    rcases (htasks c).2 with heq | heq | heq
    · exact h.dispatching c offset channelId command (heq ▸ hst)
    · rw [heq] at hst
      cases hst
    · rw [heq] at hst
      cases hst
  dispatched d hd := by
    unfold Read
    rw [(htasks d.connection).1, hdec]
    exact h.dispatched d (hdisp ▸ hd)
  distinct := by
    rw [hdisp]
    exact h.distinct

theorem tasks_setTask (c : ℕ) (task : ConnectionTask) (c' : ℕ) :
    (l.setTask c task).tasks c' = if c' = c then task else l.tasks c' :=
  Function.update_apply l.tasks c task c'

theorem Read.mono {connection offset : ℕ} {channelId : UInt32} {command : ChannelCommand}
    (h : Read l connection offset channelId command) {l' : Listener}
    (hdec : ∀ d ∈ l.decoded, d ∈ l'.decoded) : Read l' connection offset channelId command := by
  obtain ⟨frame, pointType, hmem, hrest⟩ := h
  exact ⟨frame, pointType, hdec _ hmem, hrest⟩

theorem Tracks.receive (h : Tracks endian wire l) (c : ℕ) (now : Option ℕ) :
    Tracks endian wire (l.receive endian wire c now) := by
  unfold Listener.receive
  split
  · next bytes hst hbs =>
    dsimp only
    split_ifs with havailable
    · generalize hnotif : fromBytes endian
        (bytesAt bytes (l.tasks c).consumed size) = notif
      generalize hhandled : handleNotification notif l.lastSequences now = handled
      have hold : ∀ d ∈ l.decoded, d ∈ l.decoded ++ [⟨c, (l.tasks c).consumed, notif⟩] :=
        fun d hd => mem_append_left _ hd
      constructor
      · intro c'
        rw [tasks_setTask]
        split_ifs
        · exact Nat.dvd_add (h.aligned c) (Nat.dvd_refl _)
        · exact h.aligned c'
      · intro d hd
        rcases mem_append.1 hd with hd | hd
        · exact h.decoded d hd
        · rw [mem_singleton.1 hd]
          exact ⟨bytes, hbs, h.aligned c, havailable, hnotif.symm⟩
      · intro c' offset channelId command hdisp
        rw [tasks_setTask] at hdisp ⊢
        split_ifs at hdisp ⊢ with hc
        · subst hc
          dsimp only at hdisp ⊢
          split at hdisp
          · next command' hcmd =>
            cases hdisp
            refine ⟨Nat.lt_add_of_pos_right (by decide), ?_, ?_⟩
            · intro d hd hconn
              rw [← hconn]
              exact (h.dispatched d hd).1
            · rw [← hhandled] at hcmd
              obtain ⟨pointType, hpointType, hcmd⟩ := handleNotification_some hcmd
              exact ⟨notif, pointType, mem_append_right _ (mem_singleton_self _), rfl,
                hpointType, hcmd⟩
          · cases hdisp
        · obtain ⟨hlt, hbef, hread⟩ := h.dispatching c' offset channelId command hdisp
          exact ⟨hlt, hbef, hread.mono hold⟩
      · intro d hd
        obtain ⟨hlt, hread⟩ := h.dispatched d hd
        refine ⟨?_, hread.mono hold⟩
        rw [tasks_setTask]
        split_ifs with hc
        · rw [hc] at hlt
          exact Nat.lt_add_right _ hlt
        · exact hlt
      · exact h.distinct
    · exact h
  · exact h

theorem Tracks.dispatch (h : Tracks endian wire l) (c : ℕ) (fate : DispatchFate) :
    Tracks endian wire (l.dispatch c fate) := by
  unfold Listener.dispatch
  split
  · next offset channelId command hst =>
    have hidle : Tracks endian wire (l.setTask c ⟨(l.tasks c).consumed, .reading⟩) := by
      refine h.keep rfl rfl fun c' => ?_
      rw [tasks_setTask]
      split_ifs with hc
      · exact ⟨by rw [hc], .inr (.inl rfl)⟩
      · exact ⟨rfl, .inl rfl⟩
    cases fate with
    | sent =>
      dsimp only
      split_ifs
      · obtain ⟨hlt, hbef, hread⟩ := h.dispatching c offset channelId command hst
        refine ⟨hidle.aligned, hidle.decoded, ?_, ?_, ?_⟩
        · intro c' offset' channelId' command' hdisp
          have hne : c' ≠ c := by
            rintro rfl
            simp [tasks_setTask] at hdisp
          obtain ⟨hlt', hbef', hread'⟩ :=
            hidle.dispatching c' offset' channelId' command' hdisp
          refine ⟨hlt', fun d hd hconn => ?_, hread'⟩
          rcases mem_append.1 hd with hd | hd
          · exact hbef' d hd hconn
          · rw [mem_singleton.1 hd] at hconn
            exact absurd hconn.symm hne
        · intro d hd
          rcases mem_append.1 hd with hd | hd
          · exact hidle.dispatched d hd
          rw [mem_singleton.1 hd]
          refine ⟨?_, hread⟩
          rw [tasks_setTask, if_pos rfl]
          exact hlt
        · rw [pairwise_append]
          refine ⟨h.distinct, pairwise_singleton _ _, ?_⟩
          rintro d hd d' hd' ⟨hconn, hoff⟩
          rw [mem_singleton.1 hd'] at hconn hoff
          exact absurd hoff (Nat.ne_of_lt (hbef d hd hconn))
      · exact hidle
    | closed | timedOut => exact hidle
  · exact h

theorem Tracks.step (h : Tracks endian wire l) (op : ListenOp) :
    Tracks endian wire (l.listenStep endian wire op) := by
  cases op with
  | receive c now => exact h.receive c now
  | dispatch c fate => exact h.dispatch c fate
  | hangUp c =>
    refine h.keep rfl rfl fun c' => ?_
    simp only [Listener.listenStep]
    rw [tasks_setTask]
    split_ifs with hc
    · exact ⟨by rw [hc], .inr (.inr rfl)⟩
    · exact ⟨rfl, .inl rfl⟩
  | register | unregister => exact h.keep rfl rfl fun _ => ⟨rfl, .inl rfl⟩
  | restart =>
    refine h.keep rfl rfl fun c' => ?_
    simp only [Listener.listenStep]
    split_ifs
    · exact ⟨rfl, .inr (.inr rfl)⟩
    · exact ⟨rfl, .inl rfl⟩

end Steps

/-! ## Accepted sequences -/

/-- The frame comes to the check of its sequence: its kind stands for a command, and it has not
    expired. -/
def live (notif : DeviceCommandFrame) (now : Option ℕ) : Bool :=
  match pointTypeOf notif, now with
  | some _, some now =>
    !decide (notif.expiresAtMs ≤ notif.timestampMs ∨ notif.expiresAtMs.toNat ≤ now)
  | _, _ => false

/-- The key in `handle_notification` (lines 202-363). -/
def seqKey (notif : DeviceCommandFrame) : UInt32 × UInt8 × UInt32 :=
  (notif.channelId, notif.pointType, notif.pointId)

/-- The table, the live frames of all connections so far and those that were accepted, the newest
    first. -/
structure SequenceLog where
  sequences : SequenceMap := fun _ => none
  received : List DeviceCommandFrame := []
  accepted : List DeviceCommandFrame := []

/-- A frame, and the clock when it is handled. -/
abbrev Arrival := DeviceCommandFrame × Option ℕ

/-- A frame is handled. -/
def SequenceLog.handle (log : SequenceLog) (arrival : Arrival) : SequenceLog :=
  let (notif, now) := arrival
  let sequences := (handleNotification notif log.sequences now).1
  if live notif now then
    ⟨sequences, notif :: log.received,
      if outdated log.sequences notif then log.accepted else notif :: log.accepted⟩
  else { log with sequences := sequences }

section Sequences

variable (producer base : UInt64)

/-- The place of a sequence in the window from `base`. -/
def place (sequence : UInt64) : ℕ := (sequence - base).toNat

/-- The sequences that were accepted from the producer increase strictly. -/
def Increasing (log : SequenceLog) : Prop :=
  (log.accepted.filter (·.producerId = producer)).Pairwise fun newer older =>
    place base older.sequence < place base newer.sequence

/-- The live frames of the producer for a point since the last one of another producer, the newest
    first. -/
def SequenceLog.ownSince (log : SequenceLog) (key : UInt32 × UInt8 × UInt32) :
    List DeviceCommandFrame :=
  (log.received.filter (seqKey · = key)).takeWhile (·.producerId = producer)

/-- A live frame of the producer is newer than all its live frames before, or there is one for the
    same point that is no older and after which no other producer had a live frame for the point. -/
def InOrder (log : SequenceLog) (arrival : Arrival) : Prop :=
  live arrival.1 arrival.2 → arrival.1.producerId = producer →
    (∀ earlier ∈ log.received, earlier.producerId = producer →
      place base earlier.sequence < place base arrival.1.sequence) ∨
    ∃ earlier ∈ log.ownSince producer (seqKey arrival.1),
      place base arrival.1.sequence ≤ place base earlier.sequence

/-- An arrival in the window: a frame of the producer has its sequence within `2 ^ 63` of `base`. -/
structure Windowed where
  arrival : Arrival
  window : arrival.1.producerId = producer → place base arrival.1.sequence < 2 ^ 63

/-- A step of a run in which the sequences of the producer stay in the window. -/
def SequenceLog.handleWindowed (log : SequenceLog) (windowed : Windowed producer base) :
    SequenceLog :=
  log.handle windowed.arrival

/-- What the table tells of the live frames of the producer. -/
structure Remembers (log : SequenceLog) : Prop where
  accepted : ∀ frame ∈ log.accepted, frame ∈ log.received
  covered : ∀ frame ∈ log.received, frame.producerId = producer → ∃ newer ∈ log.accepted,
    newer.producerId = producer ∧ place base frame.sequence ≤ place base newer.sequence
  window : ∀ key q, log.sequences key = some (producer, q) → place base q < 2 ^ 63
  kept : ∀ key, ∀ frame ∈ log.ownSince producer key,
    ∃ q, log.sequences key = some (producer, q) ∧ place base frame.sequence ≤ place base q
  held : ∀ key q, log.sequences key = some (producer, q) →
    ∃ frame ∈ log.ownSince producer key, frame.sequence = q

/-- So far the accepted sequences increase. -/
structure Ordered (log : SequenceLog) : Prop extends Remembers producer base log where
  increasing : Increasing producer base log

variable {producer base} {log : SequenceLog} {notif : DeviceCommandFrame} {now : Option ℕ}

theorem ownSince_cons (sequences : SequenceMap) (accepted : List DeviceCommandFrame)
    (key : UInt32 × UInt8 × UInt32) :
    SequenceLog.ownSince producer ⟨sequences, notif :: log.received, accepted⟩ key =
      if seqKey notif = key then
        if notif.producerId = producer then notif :: log.ownSince producer key else []
      else log.ownSince producer key := by
  unfold SequenceLog.ownSince
  rw [filter_cons]
  by_cases hkey : seqKey notif = key
  · simp only [hkey, decide_true, if_true, takeWhile_cons, decide_eq_true_eq]
  · simp only [hkey, decide_false, Bool.false_eq_true, if_false]

theorem mem_received_of_ownSince {key : UInt32 × UInt8 × UInt32} {frame : DeviceCommandFrame}
    (h : frame ∈ log.ownSince producer key) :
    frame ∈ log.received ∧ frame.producerId = producer := by
  refine ⟨mem_of_mem_filter (takeWhile_subset _ h), ?_⟩
  simpa using mem_takeWhile_imp h

/-- Within a window of `2 ^ 63` the wrapping comparison is that of the places. -/
theorem outdated_iff (hfrom : notif.producerId = producer)
    (hwindow : place base notif.sequence < 2 ^ 63) {sequences : SequenceMap}
    (htable : ∀ key q, sequences key = some (producer, q) → place base q < 2 ^ 63) :
    outdated sequences notif ↔ ∃ q, sequences (seqKey notif) = some (producer, q) ∧
      place base notif.sequence ≤ place base q := by
  have hhalf : ((0xffffffffffffffff : UInt64) / 2).toNat = 2 ^ 63 - 1 := rfl
  have hany : outdated sequences notif ↔ ∃ q, sequences (seqKey notif) = some (producer, q) ∧
      ((0xffffffffffffffff : UInt64) / 2 < notif.sequence - q ∨ notif.sequence = q) := by
    unfold outdated seqKey
    rcases sequences _ with _ | ⟨other, q⟩ <;> simp [hfrom]
  rw [hany]
  refine exists_congr fun q => and_congr_right fun hq => ?_
  have hq := htable _ q hq
  rw [UInt64.lt_iff_toNat_lt, ← UInt64.toNat_inj, hhalf]
  simp only [place, UInt64.toNat_sub] at hwindow hq ⊢
  have := notif.sequence.toNat_lt
  have := q.toNat_lt
  have := base.toNat_lt
  omega

theorem sequences_handleNotification (sequences : SequenceMap) :
    (handleNotification notif sequences now).1 =
      if live notif now ∧ ¬outdated sequences notif then
        Function.update sequences (seqKey notif) (some (notif.producerId, notif.sequence))
      else sequences := by
  unfold handleNotification live
  split
  · split_ifs <;> simp_all [seqKey]
  · simp

/-- A frame of the producer is dropped when a live frame for its point that the table still knows is
    no older. -/
theorem Remembers.outdated_iff (h : Remembers producer base log) (hfrom : notif.producerId = producer)
    (hwindow : place base notif.sequence < 2 ^ 63) :
    outdated log.sequences notif ↔ ∃ earlier ∈ log.ownSince producer (seqKey notif),
      place base notif.sequence ≤ place base earlier.sequence := by
  rw [Io.outdated_iff hfrom hwindow h.window]
  constructor
  · rintro ⟨q, hq, hle⟩
    obtain ⟨earlier, hmem, rfl⟩ := h.held _ q hq
    exact ⟨earlier, hmem, hle⟩
  · rintro ⟨earlier, hmem, hle⟩
    obtain ⟨q, hq, hqle⟩ := h.kept _ earlier hmem
    exact ⟨q, hq, hle.trans hqle⟩

/-- An accepted frame becomes the entry of its point. -/
theorem Remembers.accept (h : Remembers producer base log)
    (hwindow : notif.producerId = producer → place base notif.sequence < 2 ^ 63)
    (hnew : ¬outdated log.sequences notif) :
    Remembers producer base ⟨Function.update log.sequences (seqKey notif)
      (some (notif.producerId, notif.sequence)), notif :: log.received, notif :: log.accepted⟩ := by
  refine ⟨?_, ?_, fun key q hq => ?_, fun key => ?_, fun key q hq => ?_⟩
  · exact forall_mem_cons.2 ⟨mem_cons_self, fun frame hmem =>
      mem_cons_of_mem _ (h.accepted frame hmem)⟩
  · refine forall_mem_cons.2 ⟨fun hfrom => ⟨notif, mem_cons_self, hfrom, Nat.le_refl _⟩, ?_⟩
    intro frame hmem hfrom
    obtain ⟨newer, hacc, hnewer⟩ := h.covered frame hmem hfrom
    exact ⟨newer, mem_cons_of_mem _ hacc, hnewer⟩
  · dsimp only at hq
    rw [Function.update_apply] at hq
    split_ifs at hq
    · cases hq
      exact hwindow rfl
    · exact h.window key q hq
  · rw [ownSince_cons]
    dsimp only
    rw [Function.update_apply]
    by_cases hkey : seqKey notif = key
    · subst hkey
      rw [if_pos rfl, if_pos rfl]
      split_ifs with hfrom
      · refine forall_mem_cons.2 ⟨⟨_, by rw [hfrom], Nat.le_refl _⟩, fun frame hmem => ?_⟩
        -- what the table knew is older, or the frame would have been dropped
        rw [h.outdated_iff hfrom (hwindow hfrom)] at hnew
        push Not at hnew
        exact ⟨_, by rw [hfrom], (hnew frame hmem).le⟩
      · exact fun frame hmem => absurd hmem not_mem_nil
    · rw [if_neg hkey, if_neg (Ne.symm hkey)]
      exact h.kept key
  · rw [ownSince_cons]
    dsimp only at hq
    rw [Function.update_apply] at hq
    by_cases hkey : seqKey notif = key
    · subst hkey
      rw [if_pos rfl] at hq ⊢
      cases hq
      rw [if_pos rfl]
      exact ⟨notif, mem_cons_self, rfl⟩
    · rw [if_neg (Ne.symm hkey)] at hq
      rw [if_neg hkey]
      exact h.held key q hq

/-- A dropped frame leaves the entry of its point, which is of the same producer. -/
theorem Remembers.drop (h : Remembers producer base log)
    (hwindow : notif.producerId = producer → place base notif.sequence < 2 ^ 63)
    (hold : outdated log.sequences notif) :
    Remembers producer base ⟨log.sequences, notif :: log.received, log.accepted⟩ := by
  have hown : ∀ key, seqKey notif = key → notif.producerId ≠ producer →
      ∀ q, log.sequences key ≠ some (producer, q) := by
    rintro _ rfl hfrom q hq
    have hentry : log.sequences (notif.channelId, notif.pointType, notif.pointId) =
      some (producer, q) := hq
    rw [outdated, hentry] at hold
    simp [Ne.symm hfrom] at hold
  refine ⟨fun frame hmem => mem_cons_of_mem _ (h.accepted frame hmem), ?_, h.window, fun key => ?_,
    fun key q hq => ?_⟩
  · refine forall_mem_cons.2 ⟨fun hfrom => ?_, h.covered⟩
    obtain ⟨earlier, hmem, hle⟩ := (h.outdated_iff hfrom (hwindow hfrom)).1 hold
    obtain ⟨hrec, hof⟩ := mem_received_of_ownSince hmem
    obtain ⟨newer, hacc, hnewer, hnle⟩ := h.covered earlier hrec hof
    exact ⟨newer, hacc, hnewer, hle.trans hnle⟩
  · rw [ownSince_cons]
    split_ifs with hkey hfrom
    · refine forall_mem_cons.2 ⟨?_, h.kept key⟩
      exact hkey ▸ (Io.outdated_iff hfrom (hwindow hfrom) h.window).1 hold
    · exact fun frame hmem => absurd hmem not_mem_nil
    · exact h.kept key
  · obtain ⟨frame, hmem, hseq⟩ := h.held key q hq
    rw [ownSince_cons]
    split_ifs with hkey hfrom
    · exact ⟨frame, mem_cons_of_mem _ hmem, hseq⟩
    · exact absurd hq (hown key hkey hfrom q)
    · exact ⟨frame, hmem, hseq⟩

variable {windowed : Windowed producer base}

/-- A frame that is not live changes nothing, and another one is accepted or dropped. -/
theorem handleWindowed_cases (log : SequenceLog) (windowed : Windowed producer base) :
    let notif := windowed.arrival.1
    log.handleWindowed producer base windowed = log ∧ live notif windowed.arrival.2 = false ∨
      live notif windowed.arrival.2 ∧
        (¬outdated log.sequences notif ∧ log.handleWindowed producer base windowed =
          ⟨Function.update log.sequences (seqKey notif) (some (notif.producerId, notif.sequence)),
            notif :: log.received, notif :: log.accepted⟩ ∨
        outdated log.sequences notif ∧ log.handleWindowed producer base windowed =
          ⟨log.sequences, notif :: log.received, log.accepted⟩) := by
  unfold SequenceLog.handleWindowed SequenceLog.handle
  simp only [sequences_handleNotification]
  cases live windowed.arrival.1 windowed.arrival.2 <;>
    cases outdated log.sequences windowed.arrival.1 <;> simp

theorem Remembers.handle (h : Remembers producer base log) :
    Remembers producer base (log.handleWindowed producer base windowed) := by
  rcases handleWindowed_cases log windowed with ⟨heq, -⟩ | ⟨-, ⟨hnew, heq⟩ | ⟨hold, heq⟩⟩
  · rwa [heq]
  · rw [heq]
    exact h.accept windowed.window hnew
  · rw [heq]
    exact h.drop windowed.window hold

theorem increasing_cons (hfrom : notif.producerId = producer) (sequences : SequenceMap)
    (received : List DeviceCommandFrame) :
    Increasing producer base ⟨sequences, received, notif :: log.accepted⟩ ↔
      (∀ earlier ∈ log.accepted, earlier.producerId = producer →
        place base earlier.sequence < place base notif.sequence) ∧ Increasing producer base log := by
  unfold Increasing
  rw [filter_cons_of_pos (by simpa using hfrom), pairwise_cons]
  simp only [mem_filter, decide_eq_true_eq, and_imp]

/-- The accepted sequences still increase after a frame exactly when it was in order. -/
theorem Ordered.increasing_handle_iff (h : Ordered producer base log) :
    Increasing producer base (log.handleWindowed producer base windowed) ↔
      InOrder producer base log windowed.arrival := by
  unfold InOrder
  rcases handleWindowed_cases log windowed with ⟨heq, hlive⟩ | ⟨hlive, ⟨hnew, heq⟩ | ⟨hold, heq⟩⟩
  · rw [heq]
    exact iff_of_true h.increasing fun h => absurd (hlive.symm.trans h) (by decide)
  · rw [heq]
    by_cases hfrom : windowed.arrival.1.producerId = producer
    swap
    · refine iff_of_true ?_ fun _ h => absurd h hfrom
      unfold Increasing
      rw [filter_cons_of_neg (by simpa using hfrom)]
      exact h.increasing
    rw [increasing_cons hfrom, and_iff_left h.increasing]
    rw [h.outdated_iff hfrom (windowed.window hfrom)] at hnew
    constructor
    · intro hall _ _
      left
      intro earlier hmem hof
      obtain ⟨newer, hacc, hnewer, hle⟩ := h.covered earlier hmem hof
      exact hle.trans_lt (hall newer hacc hnewer)
    · intro horder earlier hacc
      exact (horder hlive hfrom).resolve_right hnew earlier (h.accepted earlier hacc)
  · rw [heq]
    refine iff_of_true h.increasing fun _ hfrom => .inr ?_
    exact (h.outdated_iff hfrom (windowed.window hfrom)).1 hold

end Sequences

open Transition

/-- Whatever other producers send and however the frames of the producer are delayed, repeated or
    lost: the sequences that are accepted from it increase throughout a run exactly when each of its
    frames is in order. -/
theorem accepted_increasing_iff (producer base : UInt64) (arrivals : List (Windowed producer base)) :
    EveryState (SequenceLog.handleWindowed producer base) (Increasing producer base) {} arrivals ↔
      EveryStep (SequenceLog.handleWindowed producer base)
        (fun log windowed => InOrder producer base log windowed.arrival) {} arrivals := by
  have hinit : Ordered producer base {} := ⟨⟨nofun, nofun, nofun, nofun, nofun⟩, .nil⟩
  refine everyState_iff_everyStep (fun log windowed h horder => ?_) (fun _ h => h.increasing)
    (fun log windowed h horder hincreasing => ?_) hinit arrivals
  · exact ⟨h.toRemembers.handle, h.increasing_handle_iff.2 horder⟩
  · exact horder (h.increasing_handle_iff.1 hincreasing)

/-- A command for one point, not expired, in the window from 0. -/
def commandArrival (producerId : UInt64) (sequence : UInt8) : Windowed 1 0 where
  arrival := (⟨1, 1, 2, Vector.replicate 7 0, 0, 1, 9, producerId, sequence.toUInt64⟩, some 1)
  window _ := by
    have hlt := sequence.toNat_lt
    simp only [place, UInt64.sub_zero, UInt8.toNat_toUInt64]
    omega

/-- The frames of a producer arrive out of order, one of another producer comes between, and then a
    new one and an old one. -/
theorem accepted_increasing_mixed :
    EveryState (SequenceLog.handleWindowed 1 0) (Increasing 1 0) {}
      [commandArrival 1 7, commandArrival 1 3, commandArrival 1 5, commandArrival 2 4,
        commandArrival 1 9, commandArrival 1 8] := by
  rw [accepted_increasing_iff]
  simp only [everyStep_cons, everyStep_nil, and_true]
  refine ⟨fun _ _ => .inl ?_, fun _ _ => .inr ?_, fun _ _ => .inr ?_, fun _ h => ?_,
    fun _ _ => .inl ?_, fun _ _ => .inr ?_⟩
  case refine_4 => exact absurd h (by decide)
  all_goals decide +kernel

/-- After a command of another producer a copy of the first one is accepted again. -/
theorem accepted_twice :
    let arrivals := [commandArrival 1 5, commandArrival 2 4, commandArrival 1 5]
    (run (SequenceLog.handleWindowed 1 0) {} arrivals).accepted =
        [(commandArrival 1 5).1.1, (commandArrival 2 4).1.1, (commandArrival 1 5).1.1] ∧
      ¬Increasing 1 0 (run (SequenceLog.handleWindowed 1 0) {} arrivals) := by
  refine ⟨rfl, ?_⟩
  unfold Increasing
  decide +kernel

end AetherEdge.Io
