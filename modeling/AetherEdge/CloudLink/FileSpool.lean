import AetherEdge.CloudLink.JournalReplay

/-!
# The file spool

Model of `FileCloudLinkSpool` (`libs/aether-store-local/src/file_cloudlink_spool.rs`) as a
transition system over the contents of the journal file and the state in memory. What the
file system does is part of each operation: an append or a compaction succeeds, fails at some
point, or is cut short by the death of the process. Positioning, reading and truncating an
open file are taken not to fail.

* `FileSpool`, `mutate`, `compactLocked`, `openJournal`, `fileStep`: the system;
* `mutate_cases`: everything one mutating call can do to it.
-/

namespace AetherEdge.CloudLink

open OrderedMap Framing Transition
open Std (ExtTreeMap)

/-! ## What the file system can do -/

/-- The fate of one append. `written` bytes of the frame reached the file; when that is all of
    them, it is the sync that failed. -/
inductive AppendFate where
  | done
  | failed (written : ℕ) (source : String)
  | crashed (written : ℕ)

/-- The fate of one compaction: it fails before the rename, or in the directory sync after it,
    or the process dies before or after the rename. -/
inductive CompactFate where
  | done
  | failed (error : CloudLinkSpoolError)
  | syncFailed (source : String)
  | crashed (renamed : Bool)

/-- A call returns, or the process dies in it. -/
inductive Outcome (α : Type) where
  | returned (result : Except CloudLinkSpoolError α)
  | crashed

/-! ## The system -/

/-- The journal file and the `FileState` of the process that has it open. When none has, `state` and
    `mutationsSinceCompaction` are those of the last one. -/
structure FileSpool where
  file : Bytes
  state : CloudLinkSpoolState
  mutationsSinceCompaction : ℕ
  isOpen : Bool

/-- The system after an attempt to open the journal. -/
def FileSpool.afterOpen (spool : FileSpool) : Outcome FileSpool × Bytes → FileSpool
  | (.returned (.ok opened), _) => opened
  | (_, file) => { spool with file := file, isOpen := false }

section Operations

variable (codec : JournalCodec) (path : String)

/-- `append_entry` (lines 349-359) with `write_entry`. -/
def appendEntry (file : Bytes) (entry : JournalEntry) (fate : AppendFate) : Outcome Unit × Bytes :=
  match entryPayload codec entry with
  | .error e => (.returned (.error e), file)
  | .ok payload =>
    let frame := journalFrame payload
    match fate with
    | .done => (.returned (.ok ()), file ++ frame)
    | .failed written source =>
      let error :=
        if written < frame.length then
          spoolError .storage s!"cannot write CloudLink spool journal mutation: {source}"
        else storageError path "sync journal mutation" source
      (.returned (.error error), file ++ frame.take written)
    | .crashed written => (.crashed, file ++ frame.take written)

/-- `compact_locked` (lines 303-327). Nothing before the rename touches the journal itself. -/
def compactLocked (spool : FileSpool) (fate : CompactFate) : Outcome Unit × FileSpool :=
  match compactedJournal codec path spool.state with
  | .error e => (.returned (.error e), spool)
  | .ok file =>
    let compacted := { spool with file := file, mutationsSinceCompaction := 0 }
    match fate with
    | .done => (.returned (.ok ()), compacted)
    | .failed error => (.returned (.error error), spool)
    | .syncFailed source =>
      (.returned (.error (storageError path "sync parent directory" source)), compacted)
    | .crashed true => (.crashed, { compacted with isOpen := false })
    | .crashed false => (.crashed, { spool with isOpen := false })

/-- The compaction a call makes first when enough mutations have gathered. -/
def compactIfDue (spool : FileSpool) (fate : CompactFate) : Outcome Unit × FileSpool :=
  if spool.mutationsSinceCompaction ≥ compactAfterMutations then compactLocked codec path spool fate
  else (.returned (.ok ()), spool)

/-- `mutate` (lines 164-183). -/
def mutate (spool : FileSpool) (request : SpoolRequest) (compaction : CompactFate)
    (append : AppendFate) : Outcome SpoolReply × FileSpool :=
  match compactIfDue codec path spool compaction with
  | (.crashed, spool) => (.crashed, spool)
  | (.returned (.error e), spool) => (.returned (.error e), spool)
  | (.returned (.ok ()), spool) =>
    match perform spool.state request with
    | (.error e, _) => (.returned (.error e), spool)
    | (.ok (reply, entry), next) =>
      if next ≠ spool.state then
        match appendEntry codec path spool.file entry append with
        | (.crashed, file) => (.crashed, { spool with file := file, isOpen := false })
        | (.returned (.error e), file) => (.returned (.error e), { spool with file := file })
        | (.returned (.ok ()), file) =>
          (.returned (.ok reply),
            { spool with
              file := file
              state := next
              mutationsSinceCompaction := saturatingAdd spool.mutationsSinceCompaction 1 })
      else (.returned (.ok reply), spool)

/-- `write_compacted_journal` (lines 267-289) on the empty file of a new spool. Its only entry is
    the checkpoint, so an encoding error leaves just the header. -/
def createJournal (state : CloudLinkSpoolState) (fate : AppendFate) :
    Outcome (CloudLinkSpoolState × ℕ) × Bytes :=
  match compactedJournal codec path state with
  | .error e => (.returned (.error e), journalMagic)
  | .ok created =>
    match fate with
    | .done => (.returned (.ok (state, 0)), created)
    | .failed written source =>
      let error :=
        if written < journalMagic.length then storageError path "write header" source
        else if written < created.length then
          spoolError .storage s!"cannot write CloudLink spool journal mutation: {source}"
        else storageError path "sync compacted journal" source
      (.returned (.error error), created.take written)
    | .crashed written => (.crashed, created.take written)

/-- The first half of `open` (lines 88-139): a new journal in an empty file, or recovery. -/
def createOrRecover (file : Bytes) (streamId : String) (capacity : ℕ) (fate : AppendFate) :
    Outcome (CloudLinkSpoolState × ℕ) × Bytes :=
  if file.length = 0 then
    match CloudLinkSpoolState.new streamId capacity with
    | .error e => (.returned (.error e), file)
    | .ok state => createJournal codec path state fate
  else
    match recover codec path file with
    | (result, file) => (.returned result, file)

/-- The second half of `open` (lines 88-139): the capacity entry and the compaction that may be due.
    The returned bytes are the journal it leaves. -/
def finishOpen (file : Bytes) (state : CloudLinkSpoolState) (mutations : ℕ) (changed : Bool)
    (append : AppendFate) (compaction : CompactFate) : Outcome FileSpool × Bytes :=
  let appended :=
    if changed then appendEntry codec path file (.capacity state.capacity) append
    else (.returned (.ok ()), file)
  match appended with
  | (.crashed, file) => (.crashed, file)
  | (.returned (.error e), file) => (.returned (.error e), file)
  | (.returned (.ok ()), file) =>
    let spool : FileSpool :=
      { file := file
        state := state
        mutationsSinceCompaction := if changed then saturatingAdd mutations 1 else mutations
        isOpen := true }
    match compactIfDue codec path spool compaction with
    | (.crashed, spool) => (.crashed, spool.file)
    | (.returned (.error e), spool) => (.returned (.error e), spool.file)
    | (.returned (.ok ()), spool) => (.returned (.ok spool), spool.file)

/-- `FileCloudLinkSpool::open` (lines 88-139). `append` is the fate of what it writes to the
    journal: the new journal, or the capacity entry. -/
def openJournal (file : Bytes) (streamId : String) (capacity : ℕ) (append : AppendFate)
    (compaction : CompactFate) : Outcome FileSpool × Bytes :=
  match createOrRecover codec path file streamId capacity append with
  | (.crashed, file) => (.crashed, file)
  | (.returned (.error e), file) => (.returned (.error e), file)
  | (.returned (.ok (state, mutations)), file) =>
    match state.validateOpen streamId capacity with
    | (.error e, _) => (.returned (.error e), file)
    | (.ok changed, state) => finishOpen codec path file state mutations changed append compaction

/-- An operation on the file spool together with what the file system does in it. `close` ends
    the process between calls; `reopen` starts a new one. -/
inductive FileOp where
  | mutate (request : SpoolRequest) (compaction : CompactFate) (append : AppendFate)
  | compact (fate : CompactFate)
  | close
  | reopen (streamId : String) (capacity : ℕ) (append : AppendFate) (compaction : CompactFate)

/-- The system after an operation. A call on a spool that is not open cannot be made and
    changes nothing. -/
def fileStep (spool : FileSpool) : FileOp → FileSpool
  | .mutate request compaction append =>
    if spool.isOpen then (mutate codec path spool request compaction append).2 else spool
  | .compact fate => if spool.isOpen then (compactLocked codec path spool fate).2 else spool
  | .close => { spool with isOpen := false }
  | .reopen streamId capacity append compaction =>
    spool.afterOpen (openJournal codec path spool.file streamId capacity append compaction)

end Operations

/-! ## What an operation can do -/

section Cases

variable (codec : JournalCodec) (path : String)

/-- The system after the frame of an entry was appended with the given fate. -/
def FileSpool.afterAppend (spool : FileSpool) (frame : Bytes) (next : CloudLinkSpoolState) :
    AppendFate → FileSpool
  | .done =>
    { spool with
      file := spool.file ++ frame
      state := next
      mutationsSinceCompaction := saturatingAdd spool.mutationsSinceCompaction 1 }
  | .failed written _ => { spool with file := spool.file ++ frame.take written }
  | .crashed written => { spool with file := spool.file ++ frame.take written, isOpen := false }

/-- `compacted` is what a compaction of `spool` can leave. -/
def AfterCompaction (codec : JournalCodec) (path : String) (spool compacted : FileSpool) : Prop :=
  compacted.state = spool.state ∧ (compacted.isOpen = true → spool.isOpen = true) ∧
    (compacted.file = spool.file ∧
        compacted.mutationsSinceCompaction = spool.mutationsSinceCompaction ∨
      compactedJournal codec path spool.state = .ok compacted.file ∧
        compacted.mutationsSinceCompaction = 0)

theorem compactLocked_cases (spool : FileSpool) (fate : CompactFate) :
    AfterCompaction codec path spool (compactLocked codec path spool fate).2 := by
  unfold compactLocked
  split
  · exact ⟨rfl, id, .inl ⟨rfl, rfl⟩⟩
  next file hfile =>
  cases fate with
  | done | syncFailed => exact ⟨rfl, id, .inr ⟨hfile, rfl⟩⟩
  | failed error => exact ⟨rfl, id, .inl ⟨rfl, rfl⟩⟩
  | crashed renamed =>
    cases renamed with
    | true => exact ⟨rfl, (fun h => by cases h), .inr ⟨hfile, rfl⟩⟩
    | false => exact ⟨rfl, (fun h => by cases h), .inl ⟨rfl, rfl⟩⟩

theorem compactIfDue_cases (spool : FileSpool) (fate : CompactFate) :
    AfterCompaction codec path spool (compactIfDue codec path spool fate).2 := by
  unfold compactIfDue
  split_ifs
  · exact compactLocked_cases codec path spool fate
  · exact ⟨rfl, id, .inl ⟨rfl, rfl⟩⟩

theorem compactIfDue_isOpen {spool compacted : FileSpool} {fate : CompactFate}
    {result : Except CloudLinkSpoolError Unit}
    (h : compactIfDue codec path spool fate = (.returned result, compacted)) :
    compacted.isOpen = spool.isOpen := by
  unfold compactIfDue compactLocked at h
  split_ifs at h
  · split at h
    · cases h; rfl
    · cases fate with
      | done | failed | syncFailed => cases h; rfl
      | crashed renamed => cases renamed <;> cases h
  · cases h; rfl

theorem appendEntry_cases (file : Bytes) (entry : JournalEntry) (fate : AppendFate) :
    (∃ e, appendEntry codec path file entry fate = (.returned (.error e), file)) ∨
    ∃ payload, entryPayload codec entry = .ok payload ∧
      (fate = .done ∧ appendEntry codec path file entry fate =
          (.returned (.ok ()), file ++ journalFrame payload) ∨
       (∃ written source e, fate = .failed written source ∧
          appendEntry codec path file entry fate =
            (.returned (.error e), file ++ (journalFrame payload).take written)) ∨
       (∃ written, fate = .crashed written ∧ appendEntry codec path file entry fate =
          (.crashed, file ++ (journalFrame payload).take written))) := by
  unfold appendEntry
  rcases entryPayload codec entry with e | payload
  · exact .inl ⟨e, rfl⟩
  refine .inr ⟨payload, rfl, ?_⟩
  cases fate with
  | done => exact .inl ⟨rfl, rfl⟩
  | failed written source => exact .inr (.inl ⟨written, source, _, rfl, rfl⟩)
  | crashed written => exact .inr (.inr ⟨written, rfl, rfl⟩)

/-- A request reaches the append of `payload` in the state `mid`, where it would lead to the
    spool state `next`. -/
def ReachesAppend (spool : FileSpool) (request : SpoolRequest) (compaction : CompactFate)
    (mid : FileSpool) (next : CloudLinkSpoolState) (payload : Bytes) : Prop :=
  compactIfDue codec path spool compaction = (.returned (.ok ()), mid) ∧ next ≠ mid.state ∧
    ∃ reply entry, perform mid.state request = (.ok (reply, entry), next) ∧
      entryPayload codec entry = .ok payload

variable {codec path} in
theorem mutate_of_reachesAppend {spool : FileSpool} {request : SpoolRequest}
    {compaction : CompactFate} {mid : FileSpool} {next : CloudLinkSpoolState} {payload : Bytes}
    (h : ReachesAppend codec path spool request compaction mid next payload)
    (append : AppendFate) : (mutate codec path spool request compaction append).2 =
      mid.afterAppend (journalFrame payload) next append := by
  obtain ⟨hcomp, hne, reply, entry, hperf, hp⟩ := h
  unfold mutate appendEntry
  simp only [hcomp, hperf, if_pos hne, hp]
  cases append <;> rfl

/-- Everything `mutate` can do: after a compaction that may have been due, nothing, or the
    append of the entry of an operation that changed the state. -/
theorem mutate_cases (spool : FileSpool) (request : SpoolRequest) (compaction : CompactFate)
    (append : AppendFate) :
    (∃ mid, AfterCompaction codec path spool mid ∧
      (mutate codec path spool request compaction append).2 = mid) ∨
    (∃ mid next payload, ReachesAppend codec path spool request compaction mid next payload ∧
      AfterCompaction codec path spool mid ∧
      (mutate codec path spool request compaction append).2 =
        mid.afterAppend (journalFrame payload) next append) := by
  have hmid := compactIfDue_cases codec path spool compaction
  cases hcomp : compactIfDue codec path spool compaction with
  | mk outcome mid =>
    rw [hcomp] at hmid
    match outcome, hcomp with
    | .crashed, hcomp => exact .inl ⟨mid, hmid, by simp only [mutate, hcomp]⟩
    | .returned (.error e), hcomp => exact .inl ⟨mid, hmid, by simp only [mutate, hcomp]⟩
    | .returned (.ok ()), hcomp =>
      match hperf : perform mid.state request with
      | (.error e, _) => exact .inl ⟨mid, hmid, by simp only [mutate, hcomp, hperf]⟩
      | (.ok (reply, entry), next) =>
        by_cases hne : next ≠ mid.state
        · cases hp : entryPayload codec entry with
          | error e =>
            refine .inl ⟨mid, hmid, ?_⟩
            simp only [mutate, hcomp, hperf, if_pos hne, appendEntry, hp]
          | ok payload =>
            have hreach : ReachesAppend codec path spool request compaction mid next payload :=
              ⟨hcomp, hne, reply, entry, hperf, hp⟩
            exact .inr ⟨mid, next, payload, hreach, hmid, mutate_of_reachesAppend hreach append⟩
        · refine .inl ⟨mid, hmid, ?_⟩
          simp only [mutate, hcomp, hperf, if_neg hne]

end Cases

end AetherEdge.CloudLink
