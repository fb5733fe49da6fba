import AetherEdge.CloudLink.FileSpoolRecovery

/-!
# Failed appends

`append_entry` leaves in the file whatever part of a frame was written when it fails, and does
not cut it off. Recovery still gives the state in memory as long as the part is less than the
frame and nothing is appended behind it before a compaction or a restart removes it.

* `recovers_memory_throughout`: that condition is enough along every run;
* `failed_append_diverges`: without it a failed mutation reappears after a restart, or the
  journal cannot be recovered any more and a later successful mutation is lost.
-/

namespace AetherEdge.CloudLink

open OrderedMap Framing Transition
open Std (ExtTreeMap)

/-! ## The condition -/

/-- The append is completed or leaves less than the whole frame. -/
def AppendFate.Partial (frame : Bytes) : AppendFate → Prop
  | .done => True
  | .failed written _ | .crashed written => written < frame.length

/-- Recovery would cut nothing off the file. -/
def NoTornTail (codec : JournalCodec) (path : String) (file : Bytes) : Prop :=
  (recover codec path file).2 = file

/-- What the operation appends goes behind complete frames, and an append that fails does not
    leave a whole frame. -/
def FileOp.AppendsCleanly (codec : JournalCodec) (path : String) (spool : FileSpool) :
    FileOp → Prop
  | .mutate request compaction append => ∀ mid next payload,
      ReachesAppend codec path spool request compaction mid next payload →
        NoTornTail codec path mid.file ∧ append.Partial (journalFrame payload)
  | .compact _ | .close | .reopen _ _ _ _ => True

/-- Reopening succeeds and recovers exactly the state in memory. Between processes it may be
    that state with the capacity of a failed attempt to open the spool. -/
def RecoversMemory (codec : JournalCodec) (path : String) (spool : FileSpool) : Prop :=
  ∃ held mutations file, recover codec path spool.file = (.ok (held, mutations), file) ∧
    (spool.isOpen = true → held = spool.state ∧ mutations = spool.mutationsSinceCompaction) ∧
    withCapacity held spool.state.capacity = spool.state

section Runs

variable {codec : JournalCodec} {path : String}

theorem Stored.tail_eq_nil {file tail : Bytes} {state : CloudLinkSpoolState} {mutations : ℕ}
    (h : Stored codec path file state mutations tail) (hclean : NoTornTail codec path file) :
    tail = [] := by
  obtain ⟨committed, hrec, hfile, -⟩ := h.recover
  rw [NoTornTail, hrec] at hclean
  subst hclean
  exact List.self_eq_append_right.1 hfile

/-- An append behind complete frames that leaves all of its frame or a proper part of it. -/
theorem durable_afterAppend (hcod : codec.RoundTrips) {spool mid : FileSpool}
    {request : SpoolRequest} {compaction : CompactFate} {next : CloudLinkSpoolState}
    {payload : Bytes} (h : ReachesAppend codec path spool request compaction mid next payload)
    (hmid : Stored codec path mid.file mid.state mid.mutationsSinceCompaction [])
    {append : AppendFate} (happ : append.Partial (journalFrame payload)) :
    ∃ tail, Durable codec path (mid.afterAppend (journalFrame payload) next append) tail := by
  obtain ⟨hinv, -, -, entry, hp, hent, happly⟩ := h.replays hmid.inv
  have htorn : ∀ written, written < (journalFrame payload).length →
      Stored codec path (mid.file ++ (journalFrame payload).take written) mid.state
        mid.mutationsSinceCompaction ((journalFrame payload).take written) := by
    intro written hw
    exact ⟨mid.file, rfl, hmid.committed, hmid.inv, torn_take (entryPayload_ok hp).2 hw⟩
  cases append with
  | done => exact ⟨[], (h.stored_done hcod hmid).durable⟩
  | failed written source => exact ⟨_, (htorn written happ).durable⟩
  | crashed written => exact ⟨_, (htorn written happ).durable⟩

theorem durable_step_of_clean (hcod : codec.RoundTrips) {spool : FileSpool}
    (h : ∃ tail, Durable codec path spool tail) {op : FileOp}
    (hop : op.AppendsCleanly codec path spool) :
    ∃ tail, Durable codec path (fileStep codec path spool op) tail := by
  obtain ⟨tail, h⟩ := h
  cases op with
  | mutate request compaction append =>
    simp only [fileStep]
    split_ifs with hopen
    · rcases mutate_cases codec path spool request compaction append with
        ⟨mid, haft, heq⟩ | ⟨mid, next, payload, hreach, haft, heq⟩
      · obtain ⟨tail', -, hmid⟩ := durable_afterCompaction hcod h hopen haft
        rw [heq]
        exact ⟨tail', hmid⟩
      · obtain ⟨hclean, happ⟩ := hop mid next payload hreach
        obtain ⟨tail', -, hmid⟩ := (h.stored hopen).afterCompaction hcod haft
        obtain rfl := hmid.tail_eq_nil hclean
        rw [heq]
        exact durable_afterAppend hcod hreach hmid happ
    · exact ⟨tail, h⟩
  | compact fate =>
    simp only [fileStep]
    split_ifs with hopen
    · obtain ⟨tail', -, hmid⟩ := durable_afterCompaction hcod h hopen
        (compactLocked_cases codec path spool fate)
      exact ⟨tail', hmid⟩
    · exact ⟨tail, h⟩
  | close =>
    obtain ⟨held, mutations, hs, hcap, -⟩ := h
    exact ⟨tail, held, mutations, hs, hcap, fun hopen => by cases hopen⟩
  | reopen streamId capacity append compaction =>
    obtain ⟨tail', -, hd⟩ := durable_reopen hcod h streamId capacity append compaction
    exact ⟨tail', hd⟩

theorem recoversMemory_of_durable {spool : FileSpool} {tail : Bytes}
    (h : Durable codec path spool tail) : RecoversMemory codec path spool := by
  obtain ⟨held, mutations, hs, hcap, hopen⟩ := h
  obtain ⟨committed, hrec, -, -⟩ := hs.recover
  exact ⟨held, mutations, committed, hrec, hopen, hcap⟩

end Runs

/-! ## A spool with one batch -/

/-- The spool right after it was created. -/
def sampleSpool : FileSpool := ⟨sampleJournal, .initial "telemetry" 4, 0, true⟩

/-- Its state after the first batch. -/
def sampleNext : CloudLinkSpoolState :=
  (CloudLinkSpoolState.initial "telemetry" 4).added (alternating 0)

/-- The frame of the sample's enqueued entry. -/
def sampleFrame : Bytes := journalFrame (strBytes enqueuedJson)

/-- An append behind the new journal that is completed or fails early enough. -/
theorem appendsCleanly_sample {append : AppendFate} (h : append.Partial sampleFrame) :
    (FileOp.mutate (.enqueue (alternating 0)) .done append).AppendsCleanly sampleCodec
      "spool.journal" sampleSpool := by
  rintro mid next payload ⟨hcomp, -, reply, entry, hperf, hp⟩
  cases hcomp
  cases hperf
  have hpayload : entryPayload sampleCodec (.enqueued ((CloudLinkSpoolState.initial "telemetry"
      4).recordFor (alternating 0)) 2 none) = .ok (strBytes enqueuedJson) := by decide +kernel
  cases hpayload.symm.trans hp
  refine ⟨?_, h⟩
  unfold NoTornTail
  decide +kernel

/-! ## Runs -/

/-- **Recovery after failed appends.** In every run from a newly created journal in which a
    failed append leaves less than its frame and nothing is appended behind a torn frame,
    reopening recovers exactly the state in memory in every state reached. -/
theorem recovers_memory_throughout {codec : JournalCodec} {path : String}
    (hcodec : codec.RoundTrips) {streamId : String} {capacity : ℕ}
    {compaction : CompactFate} {spool : FileSpool} {file : Bytes}
    (hopen : openJournal codec path [] streamId capacity .done compaction =
      (.returned (.ok spool), file)) (ops : List FileOp)
    (hops : EveryStep (fileStep codec path) (fun s op => op.AppendsCleanly codec path s) spool ops) :
    EveryState (fileStep codec path) (RecoversMemory codec path) spool ops := by
  have hinit : ∃ tail, Durable codec path spool tail := by
    obtain ⟨state, -, -, heq, hs⟩ := openJournal_empty hcodec hopen
    rw [heq]
    exact ⟨[], hs.durable⟩
  have hstep : ∀ s op, (∃ tail, Durable codec path s tail) → op.AppendsCleanly codec path s →
      ∃ tail, Durable codec path (fileStep codec path s op) tail := fun s op h hop =>
    durable_step_of_clean hcodec h hop
  refine (hops.invariant hstep hinit).imp fun s h => ?_
  obtain ⟨tail, h⟩ := h
  exact recoversMemory_of_durable h

/-- The theorem at a run in which an append fails after two bytes, the journal is compacted and
    the batch is enqueued again. -/
theorem recovers_memory_after_compaction :
    EveryState (fileStep sampleCodec "spool.journal")
      (RecoversMemory sampleCodec "spool.journal") sampleSpool
      [.mutate (.enqueue (alternating 0)) .done (.failed 2 "no space left on device"),
        .compact .done, .mutate (.enqueue (alternating 0)) .done .done] := by
  have hnew : CloudLinkSpoolState.new "telemetry" 4 = .ok (.initial "telemetry" 4) := by decide
  refine recovers_memory_throughout sampleCodec_roundTrips
    (openJournal_new hnew compactedJournal_sample .done) _ ?_
  have hcompacted : fileStep sampleCodec "spool.journal" (fileStep sampleCodec "spool.journal"
      sampleSpool (.mutate (.enqueue (alternating 0)) .done (.failed 2 "no space left on device")))
      (.compact .done) = sampleSpool := by decide +kernel
  have hstart : sampleSpool = ⟨sampleJournal, .initial "telemetry" 4, 0, true⟩ := rfl
  have hpartial : 2 < sampleFrame.length := by decide +kernel
  rw [← hstart, everyStep_cons, everyStep_cons, everyStep_cons, hcompacted]
  exact ⟨appendsCleanly_sample hpartial, trivial, appendsCleanly_sample trivial,
    everyStep_nil.2 trivial⟩

/-! ## Two runs that break the condition -/

/-- The spool after an `enqueue` whose frame was written before the sync failed. -/
def phantomSpool : FileSpool :=
  fileStep sampleCodec "spool.journal" sampleSpool
    (.mutate (.enqueue (alternating 0)) .done (.failed sampleFrame.length "fsync failed"))

/-- The spool after an `enqueue` that failed within the length field, and a second attempt. -/
def corruptSpool : FileSpool :=
  run (fileStep sampleCodec "spool.journal") sampleSpool
    [.mutate (.enqueue (alternating 0)) .done (.failed 2 "no space left on device"),
      .mutate (.enqueue (alternating 0)) .done .done]

/-- A batch whose frame was written before the sync failed is not in memory but comes back with
    the next start. A batch enqueued after an append that failed within the length field is in
    memory, but the journal can no longer be recovered. -/
theorem failed_append_diverges :
    (phantomSpool.state = .initial "telemetry" 4 ∧
      recover sampleCodec "spool.journal" phantomSpool.file =
        (.ok (sampleNext, 1), phantomSpool.file) ∧
      ¬RecoversMemory sampleCodec "spool.journal" phantomSpool) ∧
    (corruptSpool.state = sampleNext ∧
      recover sampleCodec "spool.journal" corruptSpool.file =
        (.error (corrupt "spool.journal" "journal mutation exceeds safety bound"),
          corruptSpool.file) ∧
      ¬RecoversMemory sampleCodec "spool.journal" corruptSpool) := by
  have hphantom : recover sampleCodec "spool.journal" phantomSpool.file =
      (.ok (sampleNext, 1), phantomSpool.file) := by decide +kernel
  have hcorrupt : recover sampleCodec "spool.journal" corruptSpool.file =
      (.error (corrupt "spool.journal" "journal mutation exceeds safety bound"),
        corruptSpool.file) := by decide +kernel
  refine ⟨⟨by decide +kernel, hphantom, ?_⟩, by decide +kernel, hcorrupt, ?_⟩
  · rintro ⟨held, mutations, file, hrec, hopen, -⟩
    rw [hphantom] at hrec
    cases hrec
    exact absurd (hopen (by decide +kernel)).1 (by decide +kernel)
  · rintro ⟨held, mutations, file, hrec, -⟩
    rw [hcorrupt] at hrec
    cases hrec

end AetherEdge.CloudLink
