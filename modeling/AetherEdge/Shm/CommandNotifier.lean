import AetherEdge.Common.Transition
import AetherEdge.Ports
import AetherEdge.Shm.CommandFrame

/-!
# Sending command frames

Model of `CommandNotifier` and of the part of `ShmDeviceCommandSink::send` that holds its lock
(`libs/aether-shm-bridge/src/command_sink.rs`). The steps of a send are what happens between two
awaits: the beginning of `notify`, the turns of its retry loop, the end of `send`. A write takes any
number of bytes of the frame. `write_all` returns when it has written the last one; before that it
can fail, time out or be cancelled, by the deadline of the notification or because the caller dropped
the send.

Connections are numbered in the order in which they are made. The state keeps what was written to
each of them, and the log of the frames that were built and of the writes.

* `Framed`: on every connection, what lies between two frame boundaries is one complete write, and
  no send writes its frame completely twice;
* `Framed.step`: every step of a send keeps to it.
-/

namespace AetherEdge.Shm

open Domain Transition DeviceCommandFrame List Option

/-! ## The notifier -/

/-- `CommandNotifier`. Times are in milliseconds. -/
structure CommandNotifier where
  stream : Option ℕ
  producerId : UInt64
  nextSequence : UInt64
  lastConnectAttempt : Option ℕ
  backoff : ℕ

/-- Line 486. -/
def minBackoff : ℕ := 1000

/-- Line 487. -/
def maxBackoff : ℕ := 5000

/-- Line 488. -/
def sendRetries : ℕ := 3

/-- Lines 599-603. -/
inductive CommandNotifyError where
  | expired
  | timeout (context : String)
  | io (error : String)

/-- The error that `send` (lines 370-452) returns. -/
def CommandNotifyError.toPort : CommandNotifyError → PortError
  | .expired => ⟨.rejected, "command expired immediately before UDS transport write"⟩
  | .timeout context => ⟨.timeout, context⟩
  | .io error => ⟨.unavailable, s!"command UDS notification failed after SHM mirror: {error}"⟩

/-- `control.rs:39-42`. -/
structure CommandReceipt where
  commandId : ℕ
  completedAt : UInt64
  deriving DecidableEq

/-- What a connection attempt comes to. -/
inductive ConnectFate where
  | connected
  | refused
  | timedOut

/-- How a `write_all` ends that has bytes left to write. -/
inductive WriteEnding where
  | failed (error : String)
  | timedOut
  /-- the deadline of the whole notification -/
  | deadline
  /-- the caller drops the future of the send -/
  | dropped

/-- How many bytes of the frame a write takes, and how it ends if these are not all. -/
structure WriteFate where
  accepted : ℕ
  ending : WriteEnding

/-! ## The sender -/

/-- A write: the send it belongs to, and where on which connection its bytes are. -/
structure Write where
  send : ℕ
  connection : ℕ
  offset : ℕ
  count : ℕ
  deriving DecidableEq

/-- Where the send that holds the lock of the notifier is. -/
inductive Phase where
  | idle
  /-- in front of a turn of the retry loop -/
  | notifying (send : ℕ) (command : PhysicalDeviceCommand) (frame : DeviceCommandFrame)
      (attempt : ℕ)
  /-- behind `notify` -/
  | transported (send : ℕ) (command : PhysicalDeviceCommand)

/-- The notifier, its phase and the connections. -/
structure Sender where
  notifier : CommandNotifier
  phase : Phase
  wire : List Bytes
  sent : List (PhysicalDeviceCommand × DeviceCommandFrame)
  writes : List Write

/-- The steps of the sender. `restart` is a new process with a new notifier. -/
inductive SendOp where
  | notify (command : PhysicalDeviceCommand) (now instant : ℕ) (connect : ConnectFate)
  | attempt (now instant : ℕ) (connect : ConnectFate) (write : WriteFate)
  | abandon (instant : ℕ) (deadline : Bool)
  | conclude (authority : PortResult Unit) (now : UInt64)
  | restart (producerId : UInt64) (instant : ℕ) (connect : ConnectFate)

namespace Sender

/-- A new connection. -/
def connected (s : Sender) : Sender :=
  { s with
    notifier := { s.notifier with
      stream := some s.wire.length
      lastConnectAttempt := none
      backoff := minBackoff }
    wire := s.wire ++ [[]] }

/-- A connection attempt that came to nothing. -/
def backOff (s : Sender) (instant : ℕ) : Sender :=
  { s with notifier := { s.notifier with
      lastConnectAttempt := some instant
      backoff := min (s.notifier.backoff * 2) maxBackoff } }

/-- `try_reconnect` (lines 567-596). -/
def tryReconnect (s : Sender) (instant : ℕ) (fate : ConnectFate) :
    Except CommandNotifyError Unit × Sender :=
  if s.notifier.stream.isSome then (.ok (), s)
  else if s.notifier.lastConnectAttempt.any fun last => instant - last < s.notifier.backoff then
    (.ok (), s)
  else
    match fate with
    | .connected => (.ok (), s.connected)
    | .refused => (.ok (), s.backOff instant)
    | .timedOut =>
      (.error (.timeout "command UDS reconnect timed out after SHM mirror"), s.backOff instant)

/-- `disconnect` (lines 558-565). -/
def disconnect (s : Sender) (lastConnectAttempt : Option ℕ) : Sender :=
  { s with notifier := { s.notifier with
      stream := none
      lastConnectAttempt := lastConnectAttempt } }

/-- The stream is taken out of the notifier, and the bytes are written to it. -/
def write (s : Sender) (send connection : ℕ) (chunk : Bytes) : Sender :=
  { s with
    notifier := { s.notifier with stream := none }
    wire := s.wire.modify connection (· ++ chunk)
    writes := s.writes ++ [⟨send, connection, (s.wire.getD connection []).length, chunk.length⟩] }

/-- The result of a send, which gives up the lock. -/
abbrev Result := Option (PortResult CommandReceipt)

/-- The send ends with an error. -/
def fail (s : Sender) (error : CommandNotifyError) : Result × Sender :=
  (some (.error error.toPort), { s with phase := .idle })

variable (endian : Endian) (path : String)

/-- `notify` (lines 507-556) up to the retry loop. -/
def notify (s : Sender) (command : PhysicalDeviceCommand) (now instant : ℕ) (connect : ConnectFate) :
    Result × Sender :=
  match s.tryReconnect instant connect with
  | (.error error, s) => s.fail error
  | (.ok (), s) =>
    if command.expiresAt.toNat ≤ now then s.fail .expired
    else
      let sequence := s.notifier.nextSequence
      let s := { s with notifier := { s.notifier with nextSequence := max (sequence + 1) 1 } }
      match pointTypeCode command.target.kind with
      | none => s.fail (.io "acquisition-owned point cannot enter the command wire")
      | some code =>
        let frame := build command code s.notifier.producerId sequence
        (none, { s with
          sent := s.sent ++ [(command, frame)]
          phase := .notifying s.sent.length command frame 0 })

/-- The outcome of a `write_all` that stopped early. -/
def interrupted (s : Sender) (send : ℕ) (command : PhysicalDeviceCommand)
    (frame : DeviceCommandFrame) (attempt instant : ℕ) (ending : WriteEnding) : Result × Sender :=
  let retry := { s.disconnect none with phase := .notifying send command frame (attempt + 1) }
  match ending with
  | .failed error =>
    if attempt + 1 < sendRetries then (none, retry)
    else (s.disconnect (some instant)).fail (.io error)
  | .timedOut =>
    if attempt + 1 < sendRetries then (none, retry)
    else (s.disconnect (some instant)).fail
      (.timeout "command UDS write timed out after SHM mirror")
  | .deadline => (s.disconnect (some instant)).fail
      (.timeout "command UDS notification exceeded its bounded transport deadline")
  | .dropped => (none, { s with phase := .idle })

/-- One turn of the retry loop of `notify` (lines 507-556). -/
def attempt (s : Sender) (send : ℕ) (command : PhysicalDeviceCommand) (frame : DeviceCommandFrame)
    (attempt now instant : ℕ) (connect : ConnectFate) (fate : WriteFate) : Result × Sender :=
  if sendRetries ≤ attempt then s.fail (.io "command frame retry loop exhausted")
  else if command.expiresAt.toNat ≤ now then s.fail .expired
  else
    match s.tryReconnect instant connect with
    | (.error error, s) => s.fail error
    | (.ok (), s) =>
      match s.notifier.stream with
      | none => s.fail (.io s!"IO command listener {debugStr path} is disconnected")
      | some connection =>
        let chunk := (frame.toBytes endian).take fate.accepted
        let written := s.write send connection chunk
        if size ≤ fate.accepted then
          (none, { written with
            notifier := { written.notifier with stream := some connection }
            phase := .transported send command })
        else written.interrupted send command frame attempt instant fate.ending

/-- The send is cancelled in an await that is not a write: in a connection attempt or between two
    turns of the loop. -/
def abandon (s : Sender) (instant : ℕ) (deadline : Bool) : Result × Sender :=
  if deadline then
    (s.disconnect (some instant)).fail
      (.timeout "command UDS notification exceeded its bounded transport deadline")
  else (none, { s with notifier := { s.notifier with stream := none }, phase := .idle })

/-- The end of `send` (lines 370-452). -/
def conclude (s : Sender) (command : PhysicalDeviceCommand) (authority : PortResult Unit)
    (now : UInt64) : Result × Sender :=
  match authority with
  | .error error => (some (.error error), { s with phase := .idle })
  | .ok () => (some (.ok ⟨command.id, now⟩), { s with phase := .idle })

/-- `connect` (lines 491-505). -/
def connect (s : Sender) (producerId : UInt64) (instant : ℕ) (fate : ConnectFate) : Sender :=
  let s := { s with phase := .idle }
  match fate with
  | .connected =>
    { s with
      notifier := ⟨some s.wire.length, producerId, 1, none, minBackoff⟩
      wire := s.wire ++ [[]] }
  | _ => { s with notifier := ⟨none, producerId, 1, some instant, minBackoff⟩ }

/-- A step of the sender, and the result of the send when it returns. A step that does not fit the
    phase changes nothing. -/
def sendStep (s : Sender) (op : SendOp) : Result × Sender :=
  match op, s.phase with
  | .notify command now instant connect, .idle => s.notify command now instant connect
  | .attempt now instant connect fate, .notifying send command frame attempt =>
    s.attempt endian path send command frame attempt now instant connect fate
  | .abandon instant deadline, .idle =>
    if s.notifier.stream.isNone then s.abandon instant deadline else (none, s)
  | .abandon instant deadline, .notifying _ _ _ _ => s.abandon instant deadline
  | .conclude authority now, .transported _ command => s.conclude command authority now
  | .restart producerId instant connect, _ => (none, s.connect producerId instant connect)
  | _, _ => (none, s)

/-- Before the first connection. -/
def initial : Sender := ⟨⟨none, 0, 1, none, minBackoff⟩, .idle, [], [], []⟩

/-! ## Frame boundaries -/

end Sender

/-- A write of a whole frame. -/
def Write.Complete (w : Write) : Prop := w.count = size

/-- The frame is the one that `DeviceCommandFrame::new` makes of the command. -/
def BuiltFrom (command : PhysicalDeviceCommand) (frame : DeviceCommandFrame) : Prop :=
  ∃ code producerId sequence, pointTypeCode command.target.kind = some code ∧
    frame = build command code producerId sequence

/-- The frames on the wire. -/
structure Framed (endian : Endian) (s : Sender) : Prop where
  built : ∀ entry ∈ s.sent, BuiltFrom entry.1 entry.2
  /-- the connection in use ends at a frame boundary -/
  aligned : ∀ c, s.notifier.stream = some c →
    ∃ bytes, s.wire[c]? = some bytes ∧ size ∣ bytes.length
  /-- the bytes of a write are a prefix of the frame of its send -/
  written : ∀ w ∈ s.writes, ∃ bytes command frame, s.wire[w.connection]? = some bytes ∧
    s.sent[w.send]? = some (command, frame) ∧ w.offset + w.count ≤ bytes.length ∧
    bytesAt bytes w.offset w.count = (frame.toBytes endian).take w.count
  /-- between two boundaries there is a complete write -/
  covered : ∀ (c : ℕ) (bytes : Bytes), s.wire[c]? = some bytes → ∀ offset,
    size ∣ offset → offset + size ≤ bytes.length →
    ∃ w ∈ s.writes, w.connection = c ∧ w.offset = offset ∧ w.Complete
  /-- a send has at most one complete write -/
  once : ∀ w ∈ s.writes, ∀ w' ∈ s.writes, w.Complete → w'.Complete → w.send = w'.send → w = w'
  /-- a send that is still in its loop has none -/
  notifying : ∀ send command frame attempt, s.phase = .notifying send command frame attempt →
    s.sent[send]? = some (command, frame) ∧ ∀ w ∈ s.writes, w.send = send → ¬w.Complete
  /-- a send that has left its loop has one -/
  transported : ∀ send command, s.phase = .transported send command →
    (∃ frame, s.sent[send]? = some (command, frame)) ∧ ∃ w ∈ s.writes, w.send = send ∧ w.Complete

theorem framed_initial (endian : Endian) : Framed endian Sender.initial where
  built _ h := by cases h
  aligned _ h := by cases h
  written _ h := by cases h
  covered _ _ h := by cases h
  once _ h := by cases h
  notifying _ _ _ _ h := by cases h
  transported _ _ h := by cases h

section Steps

variable {endian : Endian} {s : Sender}

theorem Framed.keep (h : Framed endian s) {s' : Sender} (hwire : s'.wire = s.wire)
    (hsent : s'.sent = s.sent) (hwrs : s'.writes = s.writes)
    (hstr : s'.notifier.stream = s.notifier.stream ∨ s'.notifier.stream = none)
    (hph : s'.phase = s.phase ∨ s'.phase = .idle ∨
      ∃ send command frame attempt attempt', s.phase = .notifying send command frame attempt ∧
        s'.phase = .notifying send command frame attempt') : Framed endian s' where
  built := by
    rw [hsent]
    exact h.built
  aligned c hc := by
    rw [hwire]
    rcases hstr with heq | hnone
    · exact h.aligned c (heq ▸ hc)
    · rw [hnone] at hc
      cases hc
  written := by
    rw [hwire, hsent, hwrs]
    exact h.written
  covered := by
    rw [hwire, hwrs]
    exact h.covered
  once := by
    rw [hwrs]
    exact h.once
  notifying send command frame attempt hnotifying := by
    rw [hsent, hwrs]
    rcases hph with heq | hidle | ⟨send', command', frame', before, after, hbef, haft⟩
    · exact h.notifying send command frame attempt (heq ▸ hnotifying)
    · rw [hidle] at hnotifying
      cases hnotifying
    · rw [haft] at hnotifying
      cases hnotifying
      exact h.notifying send command frame before hbef
  transported send command htrans := by
    rw [hsent, hwrs]
    rcases hph with heq | hidle | ⟨_, _, _, _, _, _, haft⟩
    · exact h.transported send command (heq ▸ htrans)
    · rw [hidle] at htrans
      cases htrans
    · rw [haft] at htrans
      cases htrans

/-- A new connection is at a frame boundary. -/
theorem Framed.connect (h : Framed endian s) {s' : Sender} (hwire : s'.wire = s.wire ++ [[]])
    (hsent : s'.sent = s.sent) (hwrs : s'.writes = s.writes)
    (hstr : s'.notifier.stream = some s.wire.length)
    (hph : s'.phase = s.phase ∨ s'.phase = .idle) : Framed endian s' := by
  have hopened : Framed endian { s with
      wire := s.wire ++ [[]]
      notifier := { s.notifier with stream := some s.wire.length } } := { h with
    aligned := by
      rintro c ⟨⟩
      exact ⟨[], by simp, by simp⟩
    written := by
      intro w hw
      obtain ⟨bytes, command, frame, hbs, hrest⟩ := h.written w hw
      refine ⟨bytes, command, frame, ?_, hrest⟩
      rw [getElem?_append_left (List.getElem?_eq_some_iff.1 hbs).1]
      exact hbs
    covered := by
      intro c bytes hbs offset halign hle
      rw [getElem?_append] at hbs
      split_ifs at hbs with hc
      · exact h.covered c bytes hbs offset halign hle
      · -- nothing has been written to the new connection
        obtain rfl : [] = bytes := mem_singleton.1 (List.mem_of_getElem? hbs) ▸ rfl
        exact absurd hle (by simp [size]) }
  exact hopened.keep hwire hsent hwrs (.inl hstr) (hph.imp_right .inl)

theorem Framed.tryReconnect (h : Framed endian s) (instant : ℕ) (fate : ConnectFate) :
    Framed endian (s.tryReconnect instant fate).2 ∧
      (s.tryReconnect instant fate).2.phase = s.phase := by
  unfold Sender.tryReconnect
  split_ifs
  · exact ⟨h, rfl⟩
  · exact ⟨h, rfl⟩
  · cases fate with
    | connected => exact ⟨h.connect rfl rfl rfl rfl (.inl rfl), rfl⟩
    | refused | timedOut => exact ⟨h.keep rfl rfl rfl (.inl rfl) (.inl rfl), rfl⟩

/-! ## A write -/

section Writing

variable {send c attempt accepted : ℕ} {command : PhysicalDeviceCommand}
  {frame : DeviceCommandFrame}

/-- The bytes that are accepted. -/
abbrev chunkOf (endian : Endian) (frame : DeviceCommandFrame) (accepted : ℕ) : Bytes :=
  (frame.toBytes endian).take accepted

theorem length_chunkOf (endian : Endian) (frame : DeviceCommandFrame) (accepted : ℕ) :
    (chunkOf endian frame accepted).length = min accepted 56 := by
  rw [length_take, length_toBytes]
  rfl

theorem getElem?_wire_write (chunk : Bytes) (c' : ℕ) :
    (s.write send c chunk).wire[c']? =
      if c = c' then s.wire[c']?.map (· ++ chunk) else s.wire[c']? := by
  show (s.wire.modify c (· ++ chunk))[c']? = _
  rw [getElem?_modify]
  split_ifs
  · rfl
  · simp

theorem Framed.written_write (h : Framed endian s) (hstr : s.notifier.stream = some c)
    (hsent : s.sent[send]? = some (command, frame)) :
    ∀ w ∈ (s.write send c (chunkOf endian frame accepted)).writes, ∃ bytes command' frame',
      (s.write send c (chunkOf endian frame accepted)).wire[w.connection]? = some bytes ∧
      s.sent[w.send]? = some (command', frame') ∧ w.offset + w.count ≤ bytes.length ∧
      bytesAt bytes w.offset w.count = (frame'.toBytes endian).take w.count := by
  intro w hw
  rcases mem_append.1 hw with hw | hw
  · -- what was written before stays where it is
    obtain ⟨bytes, command', frame', hbs, hsent', hle, hat⟩ := h.written w hw
    by_cases hc : c = w.connection
    · refine ⟨bytes ++ chunkOf endian frame accepted, command', frame', ?_, hsent', ?_, ?_⟩
      · rw [getElem?_wire_write, if_pos hc, hbs]
        rfl
      · rw [length_append]
        omega
      · rw [bytesAt_append_left hle, hat]
    · refine ⟨bytes, command', frame', ?_, hsent', hle, hat⟩
      rw [getElem?_wire_write, if_neg hc, hbs]
  · obtain rfl := mem_singleton.1 hw
    obtain ⟨bytes, hbs, -⟩ := h.aligned c hstr
    have hget : s.wire.getD c [] = bytes := by
      rw [getD_eq_getElem?_getD, hbs, getD_some]
    refine ⟨bytes ++ chunkOf endian frame accepted, command, frame, ?_, hsent, ?_, ?_⟩
    · rw [getElem?_wire_write, if_pos rfl, hbs, map_some]
    · rw [hget, length_append]
    · rw [hget, bytesAt_append_right (Nat.le_refl _), Nat.sub_self, bytesAt_length]
      exact prefix_iff_eq_take.1 (List.take_prefix _ _)

theorem Framed.covered_write (h : Framed endian s) (hstr : s.notifier.stream = some c) :
    ∀ (c' : ℕ) (bytes : Bytes),
      (s.write send c (chunkOf endian frame accepted)).wire[c']? = some bytes → ∀ offset,
      size ∣ offset → offset + size ≤ bytes.length →
      ∃ w ∈ (s.write send c (chunkOf endian frame accepted)).writes,
        w.connection = c' ∧ w.offset = offset ∧ w.Complete := by
  intro c' bytes' hbs' offset halign hle
  have hold : ∀ bytes, s.wire[c']? = some bytes → offset + size ≤ bytes.length →
      ∃ w ∈ (s.write send c (chunkOf endian frame accepted)).writes,
        w.connection = c' ∧ w.offset = offset ∧ w.Complete := by
    intro bytes hbs hle
    obtain ⟨w, hw, hrest⟩ := h.covered c' bytes hbs offset halign hle
    exact ⟨w, mem_append_left _ hw, hrest⟩
  rw [getElem?_wire_write] at hbs'
  by_cases hc : c = c'
  · subst hc
    obtain ⟨bytes, hbs, hboundary⟩ := h.aligned c hstr
    rw [if_pos rfl, hbs, map_some, Option.some.injEq] at hbs'
    subst hbs'
    by_cases hbef : offset + size ≤ bytes.length
    · exact hold bytes hbs hbef
    -- a boundary behind which there are 56 bytes, but not without the write: it is a whole frame
    have hget : s.wire.getD c [] = bytes := by
      rw [getD_eq_getElem?_getD, hbs, getD_some]
    have hlen := length_chunkOf endian frame accepted
    obtain ⟨a, rfl⟩ := halign
    obtain ⟨b, hb⟩ := hboundary
    rw [length_append] at hle
    simp only [size] at hle hbef hb ⊢
    refine ⟨⟨send, c, bytes.length, (chunkOf endian frame accepted).length⟩, ?_, rfl, ?_, ?_⟩
    · rw [← hget]
      exact mem_append_right _ (mem_singleton_self _)
    · show bytes.length = 56 * a
      omega
    · show (chunkOf endian frame accepted).length = 56
      omega
  · rw [if_neg hc] at hbs'
    exact hold bytes' hbs' hle

theorem Framed.once_write (h : Framed endian s)
    (hnone : ∀ w ∈ s.writes, w.send = send → ¬w.Complete) (chunk : Bytes) :
    ∀ w ∈ (s.write send c chunk).writes, ∀ w' ∈ (s.write send c chunk).writes,
      w.Complete → w'.Complete → w.send = w'.send → w = w' := by
  intro w hw w' hw' hcompl hcompl' hsend
  rcases mem_append.1 hw with hw | hw
  · rcases mem_append.1 hw' with hw' | hw'
    · exact h.once w hw w' hw' hcompl hcompl' hsend
    · rw [mem_singleton.1 hw'] at hsend
      exact absurd hcompl (hnone w hw hsend)
  · rcases mem_append.1 hw' with hw' | hw'
    · rw [mem_singleton.1 hw] at hsend
      exact absurd hcompl' (hnone w' hw' hsend.symm)
    · rw [mem_singleton.1 hw, mem_singleton.1 hw']

/-- A write that stops early leaves the connection, and the send without a complete write. -/
theorem Framed.write_short (h : Framed endian s) (hstr : s.notifier.stream = some c)
    (hph : s.phase = .notifying send command frame attempt)
    (hshort : accepted < size) :
    Framed endian (s.write send c (chunkOf endian frame accepted)) := by
  obtain ⟨hsent, hnone⟩ := h.notifying _ _ _ _ hph
  have hlen := length_chunkOf endian frame accepted
  have hlt : accepted < 56 := hshort
  refine ⟨h.built, ?_, h.written_write hstr hsent, h.covered_write hstr,
    h.once_write hnone _, ?_, ?_⟩
  · intro _ hc
    cases hc
  · intro send' command' frame' attempt' hph'
    obtain ⟨hsent', hnone'⟩ := h.notifying send' command' frame' attempt' hph'
    refine ⟨hsent', fun w hw hsend => ?_⟩
    rcases mem_append.1 hw with hw | hw
    · exact hnone' w hw hsend
    · rw [mem_singleton.1 hw]
      show (chunkOf endian frame accepted).length ≠ 56
      omega
  · intro send' command' hph'
    exact absurd (hph.symm.trans hph') (by simp)

/-- A write of all bytes leaves the connection at a boundary. -/
theorem Framed.write_whole (h : Framed endian s) (hstr : s.notifier.stream = some c)
    (hph : s.phase = .notifying send command frame attempt)
    (hwhole : size ≤ accepted) (notifier : CommandNotifier)
    (hnotifier : notifier.stream = some c) :
    Framed endian { s.write send c (chunkOf endian frame accepted) with
      notifier := notifier
      phase := .transported send command } := by
  obtain ⟨hsent, hnone⟩ := h.notifying _ _ _ _ hph
  have hlen := length_chunkOf endian frame accepted
  have hle : 56 ≤ accepted := hwhole
  constructor
  · exact h.built
  · intro c' hc'
    obtain rfl : c = c' := Option.some.inj (hnotifier.symm.trans hc')
    obtain ⟨bytes, hbs, b, hb⟩ := h.aligned c hstr
    refine ⟨bytes ++ chunkOf endian frame accepted, ?_, b + 1, ?_⟩
    · show (s.write send c _).wire[c]? = _
      rw [getElem?_wire_write, if_pos rfl, hbs]
      rfl
    · rw [length_append, hb]
      simp only [size]
      omega
  · exact h.written_write hstr hsent
  · exact h.covered_write hstr
  · exact h.once_write hnone _
  · intro _ _ _ _ hph'
    cases hph'
  · intro send' command' hph'
    cases hph'
    refine ⟨⟨frame, hsent⟩, _, mem_append_right _ (mem_singleton_self _), rfl, ?_⟩
    show (chunkOf endian frame accepted).length = 56
    omega

end Writing

/-! ## The steps -/

section

variable (h : Framed endian s)

include h

theorem Framed.fail (error : CommandNotifyError) : Framed endian (s.fail error).2 :=
  h.keep rfl rfl rfl (.inl rfl) (.inr (.inl rfl))

theorem Framed.disconnect (lastConnectAttempt : Option ℕ) :
    Framed endian (s.disconnect lastConnectAttempt) :=
  h.keep rfl rfl rfl (.inr rfl) (.inl rfl)

/-- A send gets a number that no write has. -/
theorem Framed.notify (command : PhysicalDeviceCommand) (now instant : ℕ) (connect : ConnectFate) :
    Framed endian (s.notify command now instant connect).2 := by
  obtain ⟨haft, -⟩ := h.tryReconnect instant connect
  unfold Sender.notify
  generalize s.tryReconnect instant connect = after at haft ⊢
  obtain ⟨error | _, s'⟩ := after
  · exact haft.fail error
  dsimp only at haft ⊢
  split_ifs
  · exact haft.fail _
  split
  · exact haft.keep rfl rfl rfl (.inl rfl) (.inr (.inl rfl))
  next code hcode =>
  refine ⟨?_, haft.aligned, ?_, haft.covered, haft.once, ?_, ?_⟩
  · intro entry hent
    rcases mem_append.1 hent with hold | hnew
    · exact haft.built entry hold
    · rw [mem_singleton.1 hnew]
      exact ⟨code, _, _, hcode, rfl⟩
  · intro w hw
    obtain ⟨bytes, command', frame, hbs, hsent, hrest⟩ := haft.written w hw
    refine ⟨bytes, command', frame, hbs, ?_, hrest⟩
    dsimp only
    rw [getElem?_append_left (List.getElem?_eq_some_iff.1 hsent).1, hsent]
  · intro send command' frame attempt heq
    cases heq
    refine ⟨by simp, fun w hw hsend => ?_⟩
    obtain ⟨_, _, _, _, hsent, _⟩ := haft.written w hw
    have hlt := (List.getElem?_eq_some_iff.1 hsent).1
    exact absurd hsend (Nat.ne_of_lt hlt)
  · intro send command' heq
    cases heq

variable {command : PhysicalDeviceCommand} {frame : DeviceCommandFrame}

theorem Framed.interrupted {send attempt : ℕ}
    (hph : s.phase = .notifying send command frame attempt) (instant : ℕ)
    (ending : WriteEnding) :
    Framed endian (s.interrupted send command frame attempt instant ending).2 := by
  have hretry : Framed endian
      { s.disconnect none with phase := .notifying send command frame (attempt + 1) } :=
    h.keep rfl rfl rfl (.inr rfl) (.inr (.inr ⟨_, _, _, _, _, hph, rfl⟩))
  cases ending with
  | failed | timedOut =>
    simp only [Sender.interrupted]
    split_ifs
    · exact hretry
    · exact (h.disconnect _).fail _
  | deadline => exact (h.disconnect _).fail _
  | dropped => exact h.keep rfl rfl rfl (.inl rfl) (.inr (.inl rfl))

theorem Framed.attempt (path : String) {send attempt : ℕ}
    (hph : s.phase = .notifying send command frame attempt) (now instant : ℕ)
    (connect : ConnectFate) (fate : WriteFate) :
    Framed endian
      (s.attempt endian path send command frame attempt now instant connect fate).2 := by
  obtain ⟨haft, hph'⟩ := h.tryReconnect instant connect
  unfold Sender.attempt
  split
  · exact h.fail _
  split
  · exact h.fail _
  generalize s.tryReconnect instant connect = after at haft hph' ⊢
  obtain ⟨error | _, s'⟩ := after
  · exact haft.fail error
  dsimp only at haft hph' ⊢
  rw [hph] at hph'
  rcases hstr : s'.notifier.stream with _ | connection
  · exact haft.fail _
  dsimp only
  split_ifs with hwhole
  · exact haft.write_whole hstr hph' hwhole _ rfl
  · exact (haft.write_short hstr hph' (not_le.1 hwhole)).interrupted hph' instant _

theorem Framed.abandon (instant : ℕ) (deadline : Bool) :
    Framed endian (s.abandon instant deadline).2 := by
  unfold Sender.abandon
  split_ifs
  · exact (h.disconnect _).fail _
  · exact h.keep rfl rfl rfl (.inr rfl) (.inr (.inl rfl))

theorem Framed.conclude (command : PhysicalDeviceCommand) (authority : PortResult Unit)
    (now : UInt64) : Framed endian (s.conclude command authority now).2 := by
  cases authority with
  | error | ok => exact h.keep rfl rfl rfl (.inl rfl) (.inr (.inl rfl))

theorem Framed.restart (producerId : UInt64) (instant : ℕ) (connect : ConnectFate) :
    Framed endian (s.connect producerId instant connect) := by
  cases connect with
  | connected => exact h.connect rfl rfl rfl rfl (.inr rfl)
  | refused | timedOut => exact h.keep rfl rfl rfl (.inr rfl) (.inr (.inl rfl))

theorem Framed.step (path : String) (op : SendOp) :
    Framed endian (s.sendStep endian path op).2 := by
  unfold Sender.sendStep
  split
  · exact h.notify _ _ _ _
  · next hph => exact h.attempt path hph _ _ _ _
  · split_ifs
    · exact h.abandon _ _
    · exact h
  · exact h.abandon _ _
  · exact h.conclude _ _ _
  · exact h.restart _ _ _
  · exact h

end

/-! ## Results -/

/-- The step returns no receipt, and what has been written to a connection stays there. -/
structure Sender.Extends (s : Sender) (after : Sender.Result × Sender) : Prop where
  unreceipted : ∀ receipt, after.1 ≠ some (.ok receipt)
  grows : Grows s.wire after.2.wire

theorem Sender.grows_tryReconnect (s : Sender) (instant : ℕ) (fate : ConnectFate) :
    Grows s.wire (s.tryReconnect instant fate).2.wire := by
  unfold Sender.tryReconnect
  split_ifs
  · exact .refl _
  · exact .refl _
  · cases fate with
    | connected => exact .append _ _
    | refused | timedOut => exact .refl _

theorem Sender.extends_notify (s : Sender) (command : PhysicalDeviceCommand) (now instant : ℕ)
    (connect : ConnectFate) : s.Extends (s.notify command now instant connect) := by
  have hgrows := s.grows_tryReconnect instant connect
  unfold Sender.notify
  generalize s.tryReconnect instant connect = after at hgrows ⊢
  obtain ⟨error | _, s'⟩ := after
  · exact ⟨by simp [Sender.fail], hgrows⟩
  dsimp only
  split_ifs
  · exact ⟨by simp [Sender.fail], hgrows⟩
  · split
    · exact ⟨by simp [Sender.fail], hgrows⟩
    · exact ⟨by simp, hgrows⟩

theorem Sender.interrupted_spec (s : Sender) (send : ℕ) (command : PhysicalDeviceCommand)
    (frame : DeviceCommandFrame) (attempt instant : ℕ) (ending : WriteEnding) :
    (∀ receipt, (s.interrupted send command frame attempt instant ending).1 ≠ some (.ok receipt)) ∧
      (s.interrupted send command frame attempt instant ending).2.wire = s.wire := by
  cases ending with
  | failed | timedOut =>
    simp only [Sender.interrupted]
    split_ifs
    · exact ⟨by simp, rfl⟩
    · exact ⟨by simp [Sender.fail], rfl⟩
  | deadline => exact ⟨by simp [Sender.interrupted, Sender.fail], rfl⟩
  | dropped => exact ⟨by simp [Sender.interrupted], rfl⟩

theorem Sender.extends_attempt (s : Sender) (endian : Endian) (path : String) (send : ℕ)
    (command : PhysicalDeviceCommand) (frame : DeviceCommandFrame) (attempt now instant : ℕ)
    (connect : ConnectFate) (fate : WriteFate) :
    s.Extends (s.attempt endian path send command frame attempt now instant connect fate) := by
  have hgrows := s.grows_tryReconnect instant connect
  unfold Sender.attempt
  split
  · exact ⟨by simp [Sender.fail], .refl _⟩
  split
  · exact ⟨by simp [Sender.fail], .refl _⟩
  generalize s.tryReconnect instant connect = after at hgrows ⊢
  obtain ⟨error | _, s'⟩ := after
  · exact ⟨by simp [Sender.fail], hgrows⟩
  dsimp only at hgrows ⊢
  rcases hstr : s'.notifier.stream with _ | connection
  · exact ⟨by simp [Sender.fail], hgrows⟩
  dsimp only
  have hwrite := hgrows.modify connection (chunkOf endian frame fate.accepted)
  split_ifs
  · exact ⟨by simp, hwrite⟩
  obtain ⟨hnone, hwire⟩ := Sender.interrupted_spec
    (s'.write send connection (chunkOf endian frame fate.accepted)) send command frame attempt
    instant fate.ending
  exact ⟨hnone, hwire ▸ hwrite⟩

theorem Sender.extends_abandon (s : Sender) (instant : ℕ) (deadline : Bool) :
    s.Extends (s.abandon instant deadline) := by
  unfold Sender.abandon
  split_ifs
  · exact ⟨by simp [Sender.fail], .refl _⟩
  · exact ⟨by simp, .refl _⟩

theorem Sender.grows_connect (s : Sender) (producerId : UInt64) (instant : ℕ)
    (fate : ConnectFate) : Grows s.wire (s.connect producerId instant fate).wire := by
  cases fate with
  | connected => exact .append _ _
  | refused | timedOut => exact .refl _

/-- A step either ends a send whose frame was written, and leaves the connections alone, or returns
    no receipt. -/
theorem Sender.sendStep_cases (s : Sender) (endian : Endian) (path : String) (op : SendOp) :
    s.Extends (s.sendStep endian path op) ∨
      ∃ send command now, s.phase = .transported send command ∧
        s.sendStep endian path op = (some (.ok ⟨command.id, now⟩), { s with phase := .idle }) := by
  unfold Sender.sendStep
  split
  · exact .inl (s.extends_notify _ _ _ _)
  · exact .inl (s.extends_attempt _ _ _ _ _ _ _ _ _ _)
  · split_ifs
    · exact .inl (s.extends_abandon _ _)
    · exact .inl ⟨by simp, .refl _⟩
  · exact .inl (s.extends_abandon _ _)
  · next authority now send command hph =>
    cases authority with
    | error error => exact .inl ⟨by simp [Sender.conclude], .refl _⟩
    | ok => exact .inr ⟨send, command, now, hph, rfl⟩
  · exact .inl ⟨by simp, s.grows_connect _ _ _⟩
  · exact .inl ⟨by simp, .refl _⟩

theorem Sender.grows_sendStep (s : Sender) (endian : Endian) (path : String) (op : SendOp) :
    Grows s.wire (s.sendStep endian path op).2.wire := by
  rcases s.sendStep_cases endian path op with h | ⟨_, _, _, _, heq⟩
  · exact h.grows
  · rw [heq]
    exact .refl _

/-- A receipt is for a command whose frame has been written completely. -/
theorem Framed.receipt (h : Framed endian s) {path : String} {op : SendOp}
    {receipt : CommandReceipt} (hres : (s.sendStep endian path op).1 = some (.ok receipt)) :
    ∃ send command frame, s.phase = .transported send command ∧
      s.sent[send]? = some (command, frame) ∧ receipt.commandId = command.id ∧
      ∃ w ∈ s.writes, w.send = send ∧ w.Complete := by
  rcases s.sendStep_cases endian path op with hextends | ⟨send, command, now, hph, heq⟩
  · exact absurd hres (hextends.unreceipted receipt)
  rw [heq] at hres
  cases hres
  obtain ⟨⟨frame, hsent⟩, hwr⟩ := h.transported send command hph
  exact ⟨send, command, frame, hph, hsent, rfl, hwr⟩

theorem Framed.bytesAt_complete (h : Framed endian s) {w : Write} (hw : w ∈ s.writes)
    (hcompl : w.Complete) :
    ∃ bytes command frame, s.wire[w.connection]? = some bytes ∧
      s.sent[w.send]? = some (command, frame) ∧
      bytesAt bytes w.offset size = frame.toBytes endian := by
  obtain ⟨bytes, command, frame, hbs, hsent, -, hat⟩ := h.written w hw
  refine ⟨bytes, command, frame, hbs, hsent, ?_⟩
  rw [← show w.count = size from hcompl, hat,
    show w.count = size from hcompl,
    take_of_length_le (Nat.le_of_eq (frame.length_toBytes endian))]

end Steps

end AetherEdge.Shm
