import AetherEdge.Outbox.FileOutbox

/-!
# The outbox survives its restarts

What the file says and what the process believes are the same at every moment the outbox is
open, and an acknowledged entry is gone for good. Both rest on the rollback of failed appends,
which the code attempts but does not check.

* `outbox_recovers`: runs in which every failed append is rolled back;
* `unrolled_append_returns_acknowledged`: one rollback that fails is enough for a later,
  successful acknowledgement to be undone by a restart.
-/

namespace AetherEdge.Outbox

open OrderedMap Framing Transition
open Std (ExtTreeMap)

/-- A path where no outbox has been opened yet. -/
def System.fresh : System := ⟨[], none⟩

/-- The file of an open outbox is a journal of complete records, and recovering it gives the next
    identifier and the pending entries in memory. -/
def RecoversLive (s : System) : Prop :=
  ∀ journal, s.journal = some journal →
    (∃ records : List Bytes, (∀ bytes ∈ records, RecordFits bytes) ∧
      s.file = fileHeader ++ recordFormat.log records) ∧
    recover s.file = .ok (journal.toRecovered, s.file)

/-- No `peek` returns an entry with this identifier. -/
def NeverPeeked (id : ℕ) (s : System) : Prop :=
  ∀ journal limit entries, s.journal = some journal → journal.peek limit = .ok entries →
    ∀ entry ∈ entries, entry.id ≠ id

/-! ## Recovery -/

theorem stands_fresh : Stands System.fresh Recovered.empty :=
  .header 0 (by decide) rfl rfl

theorem everyState_exists_stands {ops : List Op} (hops : ∀ op ∈ ops, op.RollsBack)
    (path : String) :
    EveryState (step path) (fun s => ∃ contents, Stands s contents) System.fresh ops := by
  have hrun := everyState_stands (P := fun _ => True) (fun _ _ _ _ => trivial) stands_fresh
    trivial hops path
  exact hrun.imp fun s ⟨contents, _, hs⟩ => ⟨contents, hs⟩

variable {contents : Recovered}

theorem Stands.recoversLive {s : System} (h : Stands s contents) : RecoversLive s := by
  intro journal hj
  simp only [Stands, hj] at h
  obtain ⟨rfl, hrep⟩ := h
  refine ⟨?_, recover_represents hrep⟩
  obtain ⟨records, hfits, hfile, -⟩ := hrep
  exact ⟨records, hfits, hfile⟩

/-- A journal whose final record is incomplete recovers like the journal without it, also when
    that one cannot be recovered. -/
theorem recover_incomplete {records : List Bytes} (hall : ∀ bytes ∈ records, RecordFits bytes)
    {payload tail : Bytes} (hfits : RecordFits payload) (htail : tail <+: recordFrame payload)
    (hne : tail ≠ recordFrame payload) :
    recover (fileHeader ++ recordFormat.log records ++ tail) =
      recover (fileHeader ++ recordFormat.log records) := by
  cases hfold : records.foldlM applyRecord Recovered.empty with
  | ok contents =>
    have hrep : Represents (fileHeader ++ recordFormat.log records) contents :=
      ⟨records, hall, rfl, hfold⟩
    rw [recover_torn hrep hfits htail hne, recover_represents hrep]
  | error e =>
    have hfl := Format.scan_fails (F := recordFormat) hall hfold fileHeaderLen
    have hwhole := hfl []
    rw [List.append_nil] at hwhole
    rw [List.append_assoc, recover_header, recover_header, hfl tail, hwhole]

/-! ## Acknowledged entries -/

/-- The identifier was given out and its entry is gone. -/
def Recovered.Retired (contents : Recovered) (id : ℕ) : Prop :=
  id < contents.nextId ∧ id ∉ contents.entries

theorem Recovered.Retired.next {after : Recovered} {id : ℕ} (h : contents.Next after)
    (hid : contents.Retired id) : after.Retired id := by
  obtain ⟨hlt, hgone⟩ := hid
  cases h with
  | stay => exact ⟨hlt, hgone⟩
  | push message hmax =>
    refine ⟨Nat.lt_succ_of_lt hlt, ?_⟩
    show id ∉ contents.entries.insert contents.nextId _
    rw [ExtTreeMap.mem_insert, Nat.compare_eq_eq]
    rintro (heq | hmem)
    · omega
    · exact hgone hmem
  | removeAll ids =>
    refine ⟨by rwa [Recovered.removeAll_nextId], ?_⟩
    rw [Recovered.removeAll_entries, mem_iff_getElem?]
    rintro ⟨entry, hget⟩
    rw [getElem?_eraseAll] at hget
    split_ifs at hget
    exact hgone (mem_of_getElem? hget)

theorem Stands.neverPeeked {s : System} {id : ℕ} (h : Stands s contents)
    (hid : contents.Retired id) : NeverPeeked id s := by
  intro journal limit entries hj hpeek entry hmem heq
  simp only [Stands, hj] at h
  obtain ⟨rfl, -⟩ := h
  simp only [Journal.peek, bind_eq_ok, exists_unit] at hpeek
  obtain ⟨-, hents⟩ := hpeek
  cases hents
  obtain ⟨key, hkey⟩ := mem_values.1 (List.mem_of_mem_take hmem)
  have hid' : entry.id = key := journal.keyed key entry hkey
  rw [heq] at hid'
  exact hid.2 (hid' ▸ mem_of_getElem? hkey)

variable {journal : Journal}

/-- A request that reports success has appended its record. -/
theorem commitRecord_returned {α : Type} {file : Bytes} {next : Journal} {payload : Bytes}
    {reply result : α} {fate : AppendFate} (hfits : RecordFits payload)
    (hrp : (commitRecord file journal next payload reply fate).1 = .returned (.ok result)) :
    (commitRecord file journal next payload reply fate).2 =
      ⟨file ++ recordFrame payload, some next⟩ := by
  have hsize := validateRecordSize_ok.2 hfits
  cases fate with
  | done => simp only [commitRecord, appendRecord, hsize]
  | seekFailed | failed | crashed => simp [commitRecord, appendRecord, hsize] at hrp

/-- An acknowledgement that reports success has removed the entries it names. -/
theorem stands_acknowledged {file : Bytes} {ids : List ℕ} {fate : AppendFate} {count : ℕ}
    (hfile : Represents file journal.toRecovered)
    (hrp : (acknowledge file journal ids fate).1 = .returned (.ok count)) :
    Stands (acknowledge file journal ids fate).2 (journal.removeAll (journal.existing ids)) := by
  unfold acknowledge at hrp ⊢
  match hrec : journal.acknowledgeRecord ids with
  | .error e => simp [hrec] at hrp
  | .ok (none, next) =>
    have hnone : journal.existing ids = [] := (Journal.acknowledgeRecord_ok hrec).1 rfl
    simp only [hnone]
    exact ⟨rfl, hfile⟩
  | .ok (some payload, next) =>
    obtain ⟨hfits, hremove, happly⟩ := (Journal.acknowledgeRecord_ok hrec).2 payload rfl
    simp only [hrec] at hrp ⊢
    rw [commitRecord_returned hfits hrp, ← hremove]
    exact ⟨rfl, hfile.append hfits happly⟩

theorem Journal.retired_existing {ids : List ℕ} {id : ℕ} (hid : id ∈ ids)
    (hpend : id ∈ journal.entries) : (journal.removeAll (journal.existing ids)).Retired id := by
  refine ⟨by rw [Recovered.removeAll_nextId]; exact journal.below id hpend, ?_⟩
  rw [Recovered.removeAll_entries, mem_iff_getElem?]
  rintro ⟨entry, hget⟩
  rw [getElem?_eraseAll, if_pos (Journal.mem_existing.2 ⟨hid, hpend⟩)] at hget
  cases hget

/-! ## Runs -/

/-- When every failed append is rolled back: in every state of the run, recovering the file of
    the open outbox gives what it has in memory; a journal that ends in an incomplete record
    recovers to what it held before that record; and an entry that an `acknowledge` reported as
    removed is in no later `peek`, whatever is enqueued, compacted or reopened in between. -/
theorem outbox_recovers (path : String) (ops : List Op) (hops : ∀ op ∈ ops, op.RollsBack) :
    EveryState (step path) RecoversLive System.fresh ops ∧
    (∀ (records : List Bytes) (payload tail : Bytes), (∀ bytes ∈ records, RecordFits bytes) →
      RecordFits payload → tail <+: recordFrame payload → tail ≠ recordFrame payload →
      recover (fileHeader ++ recordFormat.log records ++ tail) =
        recover (fileHeader ++ recordFormat.log records)) ∧
    (∀ (before after : List Op) (ids : List ℕ) (fate : AppendFate) (journal : Journal) (count : ℕ),
      ops = before ++ .acknowledge ids fate :: after →
      (run (step path) System.fresh before).journal = some journal →
      (acknowledge (run (step path) System.fresh before).file journal ids fate).1 =
        .returned (.ok count) →
      ∀ id ∈ ids, id ∈ journal.entries →
        EveryState (step path) (NeverPeeked id)
          (run (step path) System.fresh (before ++ [.acknowledge ids fate])) after) := by
  refine ⟨?_, fun records payload tail hall => recover_incomplete hall, ?_⟩
  · exact (everyState_exists_stands hops path).imp fun s ⟨contents, hs⟩ => hs.recoversLive
  · rintro before after ids fate journal count rfl hj hreply id hid hpending
    have hbefore : ∀ op ∈ before, op.RollsBack := fun op h => hops op (by simp [h])
    have hafter : ∀ op ∈ after, op.RollsBack := fun op h => hops op (by simp [h])
    obtain ⟨contents, hstands⟩ := (everyState_exists_stands hbefore path).last
    -- the acknowledgement retires the identifier, and every later step keeps it retired
    have hfile : Represents (run (step path) System.fresh before).file journal.toRecovered := by
      simp only [Stands, hj] at hstands
      exact hstands.1 ▸ hstands.2
    have hacked := stands_acknowledged hfile hreply
    have hrun := everyState_stands (fun _ _ hnext hr => Recovered.Retired.next hnext hr) hacked
      (Journal.retired_existing hid hpending) hafter path
    rw [run_append, run_cons, run_nil]
    have hstep : step path (run (step path) System.fresh before) (.acknowledge ids fate) =
        (acknowledge (run (step path) System.fresh before).file journal ids fate).2 := by
      simp only [step, hj]
    rw [hstep]
    refine hrun.imp fun s hs => ?_
    obtain ⟨_, hretired, hs⟩ := hs
    exact hs.neverPeeked hretired

/-- A message for the runs below. -/
def sampleMessage : OutboxMessage := ⟨"", [], 0⟩

/-- Two messages of which the first is acknowledged; a failed append that is rolled back, a
    compaction and a restart with less room follow. -/
def sampleRun : List Op :=
  [.reopen 2 .done, .enqueue sampleMessage .done, .enqueue sampleMessage .done,
    .acknowledge [1] .done, .enqueue sampleMessage (.failed 20 true ⟨.other, "disk full"⟩),
    .compact .done, .close, .reopen 1 .done, .peek 2]

theorem outbox_recovers_sample :
    (∀ op ∈ sampleRun, op.RollsBack) ∧
    EveryState (step "outbox") RecoversLive System.fresh sampleRun ∧
    EveryState (step "outbox") (NeverPeeked 1)
      (run (step "outbox") System.fresh (sampleRun.take 4)) (sampleRun.drop 4) := by
  have hops : ∀ op ∈ sampleRun, op.RollsBack := by
    simp [sampleRun, Op.RollsBack, AppendFate.RollsBack]
  have h := outbox_recovers "outbox" sampleRun hops
  refine ⟨hops, h.1, ?_⟩
  exact h.2.2 (sampleRun.take 3) (sampleRun.drop 4) [1] .done _ 1 rfl rfl rfl 1
    List.mem_cons_self (by decide)

/-! ## A rollback that fails -/

/-- The header of the second record stays in the file when neither the rest of it nor the
    truncation behind it goes through. The acknowledgement then lands in what recovery takes for
    the payload of that record. -/
def unrolledRun : List Op :=
  [.reopen 2 .done, .enqueue sampleMessage .done,
    .enqueue sampleMessage (.failed recordHeaderLen false ⟨.other, "input/output error"⟩)]

/-- One message. -/
def firstPending : Recovered := Recovered.empty.push sampleMessage (by decide)

/-- Its file. -/
def firstFile : Bytes := fileHeader ++ recordFrame (enqueuePayload ⟨1, sampleMessage, 0⟩)

/-- The file after the failed append and the acknowledgement. -/
def unrolledFile : Bytes :=
  firstFile ++ (recordFrame (enqueuePayload ⟨2, sampleMessage, 0⟩)).take recordHeaderLen ++
    recordFrame (acknowledgePayload [1])

deriving instance DecidableEq for Recovered, Journal, System

/-- Recovery drops the acknowledgement together with the incomplete record. -/
theorem recover_unrolledFile : recover unrolledFile = .ok (firstPending, firstFile) := by
  decide +kernel

theorem unrolled_append_returns_acknowledged :
    ∃ journal reopened : Journal,
      (run (step "outbox") System.fresh unrolledRun).journal = some journal ∧
      1 ∈ journal.entries ∧
      (acknowledge (run (step "outbox") System.fresh unrolledRun).file journal [1] .done).1 =
        .returned (.ok 1) ∧
      ¬RecoversLive (run (step "outbox") System.fresh (unrolledRun ++ [.acknowledge [1] .done])) ∧
      (run (step "outbox") System.fresh
        (unrolledRun ++ [.acknowledge [1] .done] ++ [.close, .reopen 2 .done])).journal =
          some reopened ∧
      reopened.peek 1 = .ok [⟨1, sampleMessage, 0⟩] := by
  refine ⟨⟨firstPending, 2, none⟩, ⟨firstPending, 2, none⟩, rfl, by decide, rfl, ?_,
    by decide +kernel, rfl⟩
  intro hlive
  have hrecover : recover unrolledFile = .ok (firstPending.removeAll [1], unrolledFile) :=
    (hlive _ rfl).2
  rw [recover_unrolledFile] at hrecover
  exact absurd hrecover (by decide +kernel)

end AetherEdge.Outbox
