import AetherEdge.Common.Transition
import AetherEdge.Outbox.Replay

/-!
# The file outbox

Model of `FileOutbox` and its `Journal` (`libs/aether-store-local/src/file_outbox.rs`) as a
transition system over the bytes of the journal file and the journal a process has open. The
worker thread handles requests one at a time, so a run is a list of them. What the file system
does is part of each operation: an append, a compaction or an open succeeds, fails at some
point, or is cut short by the death of the process.

* `System`, `Op`, `step`: the system;
* `Journal.enqueueRecord_ok`, `Journal.acknowledgeRecord_ok`: what a request can do;
* `Stands`: the contents the file stands for;
* `step_simulates`: as long as failed appends are rolled back, a step of the system is one of
  the steps `Recovered.Next` of its contents.
-/

namespace AetherEdge.Outbox

open OrderedMap Framing Transition List
open Std (ExtTreeMap ExtTreeSet)

/-! ## What the file system can do -/

/-- The fate of `append_record`. In `failed`, `written` bytes of the record reached the file
    (when that is all of them, it is the sync that failed), and `truncated` says whether the
    `set_len` of the error path, whose result the code ignores, took effect. -/
inductive AppendFate where
  | done
  | seekFailed (error : IoError)
  | failed (written : ℕ) (truncated : Bool) (error : IoError)
  | crashed (written : ℕ)

/-- The steps of `compact` up to the rename that can fail, none of which touches the journal. -/
inductive CompactStage where
  | create
  | resetHeader
  | writeHeader
  | writeRecord
  | sync
  | rename

/-- The context `compact` gives to the error of a step. -/
def CompactStage.context : CompactStage → String
  | .create => "create outbox compaction file"
  | .resetHeader => "reset outbox journal"
  | .writeHeader => "initialize outbox journal"
  | .writeRecord => "write outbox journal record"
  | .sync => "sync outbox compaction file"
  | .rename => "commit outbox compaction"

/-- The fate of `compact`: it fails before the rename takes effect, in opening or positioning
    the renamed file, or in the directory sync; or the process dies before or after the rename. -/
inductive CompactFate where
  | done
  | failed (stage : CompactStage) (error : IoError)
  | reopenFailed (context : String) (error : IoError)
  | syncFailed (error : IoError)
  | crashed (renamed : Bool)

/-- The fate of `open`. `written` bytes of the header of a new journal reached the file, and
    `truncated` says whether an incomplete record was cut off. -/
inductive OpenFate where
  | done
  | failed (written : ℕ) (truncated : Bool) (context : String) (error : IoError)
  | crashed (written : ℕ) (truncated : Bool)

/-- A call returns, or the process dies in it. -/
inductive Outcome (α : Type) where
  | returned (result : PortResult α)
  | crashed

/-! ## The system -/

/-- `Journal` without its path and file handles. -/
structure Journal extends Recovered where
  capacity : ℕ
  poisoned : Option String

/-- The contents of the journal file and the journal of the process that has it open. A file
    that does not exist is empty: `open` creates it. -/
structure System where
  file : Bytes
  journal : Option Journal

/-- The entry is filed under the next identifier. -/
def Recovered.push (contents : Recovered) (message : OutboxMessage)
    (h : contents.nextId + 1 ≤ u64Max) : Recovered where
  nextId := contents.nextId + 1
  entries := contents.entries.insert contents.nextId ⟨contents.nextId, message, 0⟩
  nextId_pos := Nat.succ_pos _
  nextId_le := h
  keyed id entry hget := by
    rw [getElem?_insert_nat] at hget
    split_ifs at hget with hid
    · cases hget; exact hid
    · exact contents.keyed id entry hget
  below id hmem := by
    rw [ExtTreeMap.mem_insert, Nat.compare_eq_eq] at hmem
    rcases hmem with rfl | hmem
    · exact Nat.lt_succ_self _
    · exact Nat.lt_succ_of_lt (contents.below id hmem)

namespace Journal

/-- `ensure_healthy` (lines 354-362). -/
def ensureHealthy (journal : Journal) : PortResult Unit :=
  match journal.poisoned with
  | some reason =>
    .error ⟨.permanent, s!"file outbox is unavailable after a fatal journal error: {reason}"⟩
  | none => .ok ()

/-- `enqueue` (lines 268-288) up to the append: the record and the journal the call leaves when it
    has been appended. -/
def enqueueRecord (journal : Journal) (message : OutboxMessage) : PortResult (Bytes × Journal) := do
  journal.ensureHealthy
  if journal.entries.size ≥ journal.capacity then
    throw ⟨.unavailable, s!"file outbox capacity {journal.capacity} reached"⟩
  else if h : journal.nextId + 1 ≤ u64Max then
    let payload ← encodeEnqueue ⟨journal.nextId, message, 0⟩
    return (payload, { journal with toRecovered := journal.push message h })
  else throw ⟨.permanent, "outbox identifier exhausted"⟩

/-- `peek` (lines 290-293). -/
def peek (journal : Journal) (limit : ℕ) : PortResult (List OutboxEntry) := do
  journal.ensureHealthy
  return (values journal.entries).take limit

/-- The identifiers `acknowledge` (lines 295-314) looks at: those that have an entry, once each and
    in order. -/
def existing (journal : Journal) (ids : List ℕ) : List ℕ :=
  (ExtTreeSet.ofList (ids.filter (· ∈ journal.entries))).toList

/-- `acknowledge` (lines 295-314) up to the append: the record, if there is one to be written, and
    the journal the call leaves when it has been. -/
def acknowledgeRecord (journal : Journal) (ids : List ℕ) :
    PortResult (Option Bytes × Journal) := do
  journal.ensureHealthy
  if journal.existing ids = [] then return (none, journal)
  else
    let payload ← encodeAcknowledge (journal.existing ids)
    return (some payload, { journal with
      toRecovered := journal.removeAll (journal.existing ids) })

end Journal

/-- `append_record` (lines 587-602) with `write_record`. -/
def appendRecord (file payload : Bytes) (fate : AppendFate) : Outcome Unit × Bytes :=
  match validateRecordSize payload with
  | .error e => (.returned (.error e), file)
  | .ok () =>
    let frame := recordFrame payload
    match fate with
    | .done => (.returned (.ok ()), file ++ frame)
    | .seekFailed error => (.returned (.error (ioError "seek outbox append position" error)), file)
    | .failed written truncated error =>
      let context :=
        if written < frame.length then "write outbox journal record"
        else "sync outbox journal record"
      (.returned (.error (ioError context error)),
        if truncated then file else file ++ frame.take written)
    | .crashed written => (.crashed, file ++ frame.take written)

/-- The end of `enqueue` and of `acknowledge`: the memory changes when the record has been
    appended. -/
def commitRecord {α : Type} (file : Bytes) (journal next : Journal) (payload : Bytes) (reply : α)
    (fate : AppendFate) : Outcome α × System :=
  match appendRecord file payload fate with
  | (.returned (.ok ()), file) => (.returned (.ok reply), ⟨file, some next⟩)
  | (.returned (.error e), file) => (.returned (.error e), ⟨file, some journal⟩)
  | (.crashed, file) => (.crashed, ⟨file, none⟩)

/-- `enqueue` (lines 268-288). -/
def enqueue (file : Bytes) (journal : Journal) (message : OutboxMessage) (fate : AppendFate) :
    Outcome ℕ × System :=
  match journal.enqueueRecord message with
  | .error e => (.returned (.error e), ⟨file, some journal⟩)
  | .ok (payload, next) => commitRecord file journal next payload journal.nextId fate

/-- `acknowledge` (lines 295-314). -/
def acknowledge (file : Bytes) (journal : Journal) (ids : List ℕ) (fate : AppendFate) :
    Outcome ℕ × System :=
  match journal.acknowledgeRecord ids with
  | .error e => (.returned (.error e), ⟨file, some journal⟩)
  | .ok (none, _) => (.returned (.ok 0), ⟨file, some journal⟩)
  | .ok (some payload, next) =>
    commitRecord file journal next payload (journal.existing ids).length fate

/-- `compact` (lines 316-352). -/
def compact (file : Bytes) (journal : Journal) (fate : CompactFate) : Outcome Unit × System :=
  match (do journal.ensureHealthy; compactedRecords journal.toRecovered) with
  | .error e => (.returned (.error e), ⟨file, some journal⟩)
  | .ok records =>
    let compacted := fileHeader ++ recordFormat.log records
    match fate with
    | .done => (.returned (.ok ()), ⟨compacted, some journal⟩)
    | .failed stage error =>
      (.returned (.error (ioError stage.context error)), ⟨file, some journal⟩)
    | .reopenFailed context error =>
      let error := ioError context error
      (.returned (.error error),
        ⟨compacted, some { journal with poisoned := some error.toText }⟩)
    | .syncFailed error =>
      (.returned (.error (ioError "sync outbox parent directory" error)),
        ⟨compacted, some journal⟩)
    | .crashed renamed => (.crashed, ⟨if renamed then compacted else file, none⟩)

/-- What an `open` that does not come to its end leaves of the file. -/
def interruptedOpen (file : Bytes) (written : ℕ) (truncated : Bool) : Bytes :=
  match recover file with
  | .error _ => file
  | .ok (_, recovered) =>
    if file.length = 0 then fileHeader.take written
    else if truncated then recovered
    else file

/-- `FileOutbox::open` (lines 57-86) with `Journal::open`. -/
def openJournal (path : String) (s : System) (capacity : ℕ) (fate : OpenFate) :
    Outcome Unit × System :=
  if capacity = 0 then
    (.returned (.error ⟨.invalidData, "file outbox capacity must be greater than zero"⟩), s)
  else if capacity > maxCapacity then
    (.returned (.error ⟨.invalidData, s!"file outbox capacity exceeds maximum {maxCapacity}"⟩), s)
  else if s.journal.isSome then
    (.returned (.error ⟨.conflict, s!"outbox journal is already open: {path}"⟩), s)
  else
    match fate with
    | .failed written truncated context error =>
      (.returned (.error (ioError context error)),
        ⟨interruptedOpen s.file written truncated, none⟩)
    | .crashed written truncated => (.crashed, ⟨interruptedOpen s.file written truncated, none⟩)
    | .done =>
      match recover s.file with
      | .error e => (.returned (.error e), s)
      | .ok (recovered, file) =>
        (.returned (.ok ()), ⟨file, some { recovered with capacity := capacity, poisoned := none }⟩)

/-- An operation on the outbox together with what the file system does in it. `close` ends the
    process between requests. -/
inductive Op where
  | enqueue (message : OutboxMessage) (fate : AppendFate)
  | peek (limit : ℕ)
  | acknowledge (ids : List ℕ) (fate : AppendFate)
  | compact (fate : CompactFate)
  | close
  | reopen (capacity : ℕ) (fate : OpenFate)

/-- The system after an operation (`run_worker` (lines 187-205)). A request to an outbox that is not
    open cannot be made and changes nothing. -/
def step (path : String) (s : System) (op : Op) : System :=
  match op, s.journal with
  | .enqueue message fate, some journal => (enqueue s.file journal message fate).2
  | .acknowledge ids fate, some journal => (acknowledge s.file journal ids fate).2
  | .compact fate, some journal => (compact s.file journal fate).2
  | .close, _ => ⟨s.file, none⟩
  | .reopen capacity fate, _ => (openJournal path s capacity fate).2
  | _, _ => s

/-! ## What a request can do -/

/-- A failed append leaves the file as it found it. -/
def AppendFate.RollsBack : AppendFate → Prop
  | .failed written truncated _ => truncated = true ∨ written = 0
  | _ => True

/-- Every failed append of the operation leaves the file as it found it. -/
def Op.RollsBack : Op → Prop
  | .enqueue _ fate | .acknowledge _ fate => fate.RollsBack
  | _ => True

theorem Recovered.push_eq_insert (contents : Recovered) (message : OutboxMessage)
    (h : contents.nextId + 1 ≤ u64Max) :
    contents.push message h = contents.insert ⟨contents.nextId, message, 0⟩ h :=
  Recovered.ext (Nat.max_eq_right (Nat.le_succ _)).symm rfl

theorem Journal.mem_existing {journal : Journal} {ids : List ℕ} {id : ℕ} :
    id ∈ journal.existing ids ↔ id ∈ ids ∧ id ∈ journal.entries := by
  simp [Journal.existing]

theorem Journal.enqueueRecord_ok {journal next : Journal} {message : OutboxMessage}
    {payload : Bytes} (h : journal.enqueueRecord message = .ok (payload, next)) :
    RecordFits payload ∧
      applyRecord journal.toRecovered payload = .ok next.toRecovered ∧
      ∃ hid, next.toRecovered = journal.push message hid := by
  simp only [Journal.enqueueRecord, bind_eq_ok, exists_unit] at h
  obtain ⟨-, h⟩ := h
  split_ifs at h with hfull hid
  simp only [bind_eq_ok] at h
  obtain ⟨bytes, henc, hpair⟩ := h
  cases hpair
  refine ⟨recordFits_encodeEnqueue henc, ?_, hid, rfl⟩
  have hfr : journal.nextId ∉ journal.entries := fun hmem => lt_irrefl _ (journal.below _ hmem)
  rw [applyRecord_enqueue henc hfr hid, Recovered.push_eq_insert]

theorem Journal.acknowledgeRecord_ok {journal next : Journal} {ids : List ℕ}
    {record : Option Bytes} (h : journal.acknowledgeRecord ids = .ok (record, next)) :
    (record = none → journal.existing ids = []) ∧
    ∀ payload, record = some payload → RecordFits payload ∧
      next.toRecovered = journal.removeAll (journal.existing ids) ∧
      applyRecord journal.toRecovered payload = .ok next.toRecovered := by
  simp only [Journal.acknowledgeRecord, bind_eq_ok, exists_unit] at h
  obtain ⟨-, h⟩ := h
  split_ifs at h with hnone
  · cases h
    exact ⟨fun _ => hnone, by simp⟩
  simp only [bind_eq_ok] at h
  obtain ⟨bytes, henc, hpair⟩ := h
  cases hpair
  refine ⟨by simp, ?_⟩
  rintro payload ⟨⟩
  obtain ⟨hbs, hfits, -⟩ := encodeAcknowledge_ok henc
  refine ⟨hbs ▸ hfits, rfl, applyRecord_acknowledge henc ?_ _⟩
  intro id hid
  have hbel := journal.below id (Journal.mem_existing.1 hid).2
  exact le_of_lt (lt_of_lt_of_le hbel journal.nextId_le)

/-- A compaction leaves the contents as they are, in the old file or in the compacted one. -/
theorem compact_cases (file : Bytes) (journal : Journal) (fate : CompactFate) :
    (∀ after, (compact file journal fate).2.journal = some after →
      after.toRecovered = journal.toRecovered) ∧
    ((compact file journal fate).2.file = file ∨
      ∃ records, compactedRecords journal.toRecovered = .ok records ∧
        (compact file journal fate).2.file = fileHeader ++ recordFormat.log records) := by
  unfold compact
  cases hrecs : (do journal.ensureHealthy; compactedRecords journal.toRecovered) with
  | error e => exact ⟨fun _ h => by cases h; rfl, .inl rfl⟩
  | ok records =>
    simp only [bind_eq_ok, exists_unit] at hrecs
    cases fate with
    | done | syncFailed => exact ⟨fun _ h => by cases h; rfl, .inr ⟨records, hrecs.2, rfl⟩⟩
    | failed stage error => exact ⟨fun _ h => by cases h; rfl, .inl rfl⟩
    | reopenFailed context error =>
      exact ⟨fun _ h => by cases h; rfl, .inr ⟨records, hrecs.2, rfl⟩⟩
    | crashed renamed =>
      refine ⟨fun _ h => (by cases h), ?_⟩
      cases renamed with
      | false => exact .inl rfl
      | true => exact .inr ⟨records, hrecs.2, rfl⟩

/-! ## The contents of the file -/

/-- `file` is what a process may leave of a journal with these contents: the beginning of the
    header of a new one, or complete records followed by the beginning of one more. -/
inductive Leaves (file : Bytes) (contents : Recovered) : Prop where
  | header (n : ℕ) (hn : n < fileHeaderLen) (hfile : file = fileHeader.take n)
      (hcontents : contents = Recovered.empty)
  | records (base tail payload : Bytes) (hbase : Represents base contents)
      (hfits : RecordFits payload) (htail : tail <+: recordFrame payload)
      (hne : tail ≠ recordFrame payload) (hfile : file = base ++ tail)

/-- The contents the system stands for. While the outbox is open they are the contents in memory
    and those of a journal without an incomplete record. -/
def Stands (s : System) (contents : Recovered) : Prop :=
  match s.journal with
  | some journal => journal.toRecovered = contents ∧ Represents s.file contents
  | none => Leaves s.file contents

variable {contents : Recovered}

theorem Represents.leaves {file : Bytes} (h : Represents file contents) : Leaves file contents :=
  .records file [] _ h (recordFits_checkpoint 1) nil_prefix
    (Format.frame_ne_nil (F := recordFormat) (recordFits_checkpoint 1)).symm
    (append_nil file).symm

/-- The beginning of one more record changes nothing before it is complete. -/
theorem Represents.leaves_take {file payload : Bytes} {next : Recovered}
    (h : Represents file contents) (hfits : RecordFits payload)
    (happly : applyRecord contents payload = .ok next) (written : ℕ) :
    ∃ after, (after = contents ∨ after = next) ∧
      Leaves (file ++ (recordFrame payload).take written) after := by
  by_cases hshort : written < (recordFrame payload).length
  · refine ⟨contents, .inl rfl, ?_⟩
    refine .records file _ payload h hfits (List.take_prefix _ _) ?_ rfl
    intro heq
    have := congrArg List.length heq
    rw [length_take] at this
    omega
  · refine ⟨next, .inr rfl, ?_⟩
    rw [take_of_length_le (not_lt.1 hshort)]
    exact (h.append hfits happly).leaves

/-- What a step can do to the contents. -/
inductive Recovered.Next : Recovered → Recovered → Prop where
  | stay (contents : Recovered) : Next contents contents
  | push (contents : Recovered) (message : OutboxMessage) (h : contents.nextId + 1 ≤ u64Max) :
      Next contents (contents.push message h)
  | removeAll (contents : Recovered) (ids : List ℕ) : Next contents (contents.removeAll ids)

/-! ## Simulation -/

section Simulation

variable {file : Bytes} {journal : Journal} {fate : AppendFate}

theorem stands_commitRecord {α : Type} (reply : α) {next : Journal} {payload : Bytes}
    (hfile : Represents file journal.toRecovered) (hfits : RecordFits payload)
    (happly : applyRecord journal.toRecovered payload = .ok next.toRecovered)
    (hfate : fate.RollsBack) :
    ∃ after, (after = journal.toRecovered ∨ after = next.toRecovered) ∧
      Stands (commitRecord file journal next payload reply fate).2 after := by
  have hsize := validateRecordSize_ok.2 hfits
  cases fate with
  | done =>
    refine ⟨next.toRecovered, .inr rfl, ?_⟩
    simp only [commitRecord, appendRecord, hsize]
    exact ⟨rfl, hfile.append hfits happly⟩
  | seekFailed error =>
    refine ⟨journal.toRecovered, .inl rfl, ?_⟩
    simp only [commitRecord, appendRecord, hsize]
    exact ⟨rfl, hfile⟩
  | failed written truncated error =>
    refine ⟨journal.toRecovered, .inl rfl, ?_⟩
    have hback : (if truncated then file else file ++ (recordFrame payload).take written) = file := by
      rcases hfate with htruncated | hwr
      · rw [if_pos htruncated]
      · rw [hwr, take_zero, append_nil, ite_self]
    simp only [commitRecord, appendRecord, hsize, hback]
    exact ⟨rfl, hfile⟩
  | crashed written =>
    simp only [commitRecord, appendRecord, hsize]
    exact hfile.leaves_take hfits happly written

theorem stands_enqueue {message : OutboxMessage} (hfile : Represents file journal.toRecovered)
    (hfate : fate.RollsBack) :
    ∃ after, journal.toRecovered.Next after ∧
      Stands (enqueue file journal message fate).2 after := by
  unfold enqueue
  rcases hrec : journal.enqueueRecord message with e | pair
  · exact ⟨_, .stay _, rfl, hfile⟩
  obtain ⟨payload, next⟩ := pair
  obtain ⟨hfits, happly, hid, hpush⟩ := Journal.enqueueRecord_ok hrec
  obtain ⟨after, haft, hstands⟩ :=
    stands_commitRecord journal.nextId hfile hfits happly hfate
  refine ⟨after, ?_, hstands⟩
  rcases haft with rfl | rfl
  · exact .stay _
  · rw [hpush]; exact .push _ message hid

theorem stands_acknowledge {ids : List ℕ} (hfile : Represents file journal.toRecovered)
    (hfate : fate.RollsBack) :
    ∃ after, journal.toRecovered.Next after ∧
      Stands (acknowledge file journal ids fate).2 after := by
  unfold acknowledge
  match hrec : journal.acknowledgeRecord ids with
  | .error e => exact ⟨_, .stay _, rfl, hfile⟩
  | .ok (none, next) => exact ⟨_, .stay _, rfl, hfile⟩
  | .ok (some payload, next) =>
    obtain ⟨hfits, hremove, happly⟩ := (Journal.acknowledgeRecord_ok hrec).2 payload rfl
    obtain ⟨after, haft, hstands⟩ :=
      stands_commitRecord (journal.existing ids).length hfile hfits happly hfate
    refine ⟨after, ?_, hstands⟩
    rcases haft with rfl | rfl
    · exact .stay _
    · rw [hremove]; exact .removeAll _ _

theorem stands_compact {fate : CompactFate} (hfile : Represents file journal.toRecovered) :
    Stands (compact file journal fate).2 journal.toRecovered := by
  obtain ⟨hjournal, hcs⟩ := compact_cases file journal fate
  have haft : Represents (compact file journal fate).2.file journal.toRecovered := by
    rcases hcs with heq | ⟨records, hrecs, heq⟩
    · rw [heq]; exact hfile
    · rw [heq]; exact represents_compacted hrecs
  unfold Stands
  split
  · next after h => exact ⟨hjournal after h, haft⟩
  · exact haft.leaves

/-- The beginning of a header is completed only when nothing of it is there. -/
theorem recover_take_header {n : ℕ} (hn : n < fileHeaderLen) :
    recover (fileHeader.take n) =
      if n = 0 then .ok (Recovered.empty, fileHeader)
      else .error (corrupt "outbox journal has an incomplete file header") := by
  have hlen : (fileHeader.take n).length = n := by
    rw [length_take, length_fileHeader]
    omega
  unfold recover
  rw [hlen]
  split_ifs
  · rfl
  · rfl

/-- Recovery of what a process left finds the contents, or refuses an incomplete header. -/
theorem recover_leaves (h : Leaves file contents) :
    (∃ e, recover file = .error e) ∨
      ∃ after, recover file = .ok (contents, after) ∧ Represents after contents := by
  cases h with
  | header n hn hfile hconts =>
    rw [hfile, recover_take_header hn, hconts]
    split_ifs
    · exact .inr ⟨fileHeader, rfl, represents_header⟩
    · exact .inl ⟨_, rfl⟩
  | records base tail payload hbase hfits htail hne hfile =>
    rw [hfile]
    exact .inr ⟨base, recover_torn hbase hfits htail hne, hbase⟩

theorem leaves_interruptedOpen (h : Leaves file contents) (written : ℕ) (truncated : Bool) :
    Leaves (interruptedOpen file written truncated) contents := by
  unfold interruptedOpen
  rcases recover_leaves h with ⟨e, he⟩ | ⟨after, haft, hrep⟩
  · rw [he]; exact h
  rw [haft]
  dsimp only
  split_ifs with hemp htruncated
  · -- an empty file is a new journal, of which the header may now be there
    have hnil : file = [] := eq_nil_of_length_eq_zero hemp
    have hconts : contents = Recovered.empty := by
      rw [hnil] at haft
      cases haft
      rfl
    by_cases hshort : written < fileHeaderLen
    · exact .header written hshort rfl hconts
    · rw [take_of_length_le (by rw [length_fileHeader]; omega), hconts]
      exact represents_header.leaves
  · exact hrep.leaves
  · exact h

variable {s : System}

theorem stands_openJournal (h : Stands s contents) (path : String) (capacity : ℕ)
    (fate : OpenFate) : Stands (openJournal path s capacity fate).2 contents := by
  unfold openJournal
  split_ifs with hzero hmax hopen
  · exact h
  · exact h
  · exact h
  · have hleaves : Leaves s.file contents := by
      have hnone : s.journal = none := by simpa using hopen
      simpa only [Stands, hnone] using h
    cases fate with
    | done =>
      rcases recover_leaves hleaves with ⟨e, he⟩ | ⟨after, haft, hrep⟩
      · simp only [he]; exact h
      · simp only [haft]; exact ⟨rfl, hrep⟩
    | failed | crashed => exact leaves_interruptedOpen hleaves _ _

theorem stands_close (h : Stands s contents) : Stands ⟨s.file, none⟩ contents := by
  show Leaves s.file contents
  unfold Stands at h
  split at h
  · exact h.2.leaves
  · exact h

theorem step_simulates (h : Stands s contents) {op : Op} (hop : op.RollsBack) (path : String) :
    ∃ after, contents.Next after ∧ Stands (step path s op) after := by
  have hopen : ∀ journal, s.journal = some journal →
      journal.toRecovered = contents ∧ Represents s.file journal.toRecovered := by
    intro journal hj
    simp only [Stands, hj] at h
    exact ⟨h.1, h.1 ▸ h.2⟩
  unfold step
  split
  · next message fate journal hj =>
    obtain ⟨rfl, hfile⟩ := hopen journal hj
    exact stands_enqueue hfile hop
  · next ids fate journal hj =>
    obtain ⟨rfl, hfile⟩ := hopen journal hj
    exact stands_acknowledge hfile hop
  · next fate journal hj =>
    obtain ⟨rfl, hfile⟩ := hopen journal hj
    exact ⟨_, .stay _, stands_compact hfile⟩
  · exact ⟨contents, .stay _, stands_close h⟩
  · exact ⟨contents, .stay _, stands_openJournal h _ _ _⟩
  · exact ⟨contents, .stay _, h⟩

/-- A property of the contents that their steps keep holds in every state of a run. -/
theorem everyState_stands {P : Recovered → Prop}
    (hP : ∀ contents after, contents.Next after → P contents → P after) (hs : Stands s contents)
    (hconts : P contents) {ops : List Op} (hops : ∀ op ∈ ops, op.RollsBack) (path : String) :
    EveryState (step path) (fun s => ∃ contents, P contents ∧ Stands s contents) s ops := by
  refine (everyStep_of_forall hops s).invariant ?_ ⟨contents, hconts, hs⟩
  rintro s op ⟨contents, hconts, hs⟩ hop
  obtain ⟨after, hnext, haft⟩ := step_simulates hs hop path
  exact ⟨after, hP contents after hnext hconts, haft⟩

end Simulation

end AetherEdge.Outbox
