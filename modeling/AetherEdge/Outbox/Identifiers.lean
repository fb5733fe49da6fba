import AetherEdge.Outbox.Recovery

/-!
# The identifiers of the outbox

An enqueue returns the next identifier of the journal. In memory, in the records and in the
checkpoint of a compacted file that number only grows, so that an identifier is never given out
twice. As in the recovery of the entries, everything rests on the rollback of failed appends.

* `enqueue_ids_increase`: runs in which every failed append is rolled back, with any crashes,
  restarts, acknowledgements and compactions;
* `unrolled_append_reissues_id`: after one rollback that fails, a restart forgets an identifier
  that was given out.
-/

namespace AetherEdge.Outbox

open Transition

/-- The step returns the id. -/
def Issues (s : System) (op : Op) (id : ℕ) : Prop :=
  ∃ message fate journal, op = .enqueue message fate ∧ s.journal = some journal ∧
    (enqueue s.file journal message fate).1 = .returned (.ok id)

/-- The system stands for contents whose next identifier is above `id`. -/
def PastId (id : ℕ) (s : System) : Prop :=
  ∃ contents : Recovered, id < contents.nextId ∧ Stands s contents

variable {contents : Recovered}

theorem Recovered.Next.nextId_le {after : Recovered} (h : contents.Next after) :
    contents.nextId ≤ after.nextId := by
  cases h with
  | stay => exact Nat.le_refl _
  | push message hmax => exact Nat.le_succ _
  | removeAll ids => rw [Recovered.removeAll_nextId]

theorem PastId.step {id : ℕ} {s : System} (h : PastId id s) {op : Op} (hop : op.RollsBack)
    (path : String) : PastId id (step path s op) := by
  obtain ⟨contents, hlt, hs⟩ := h
  obtain ⟨after, hnext, haft⟩ := step_simulates hs hop path
  exact ⟨after, Nat.lt_of_lt_of_le hlt hnext.nextId_le, haft⟩

theorem commitRecord_reply {α : Type} {file : Bytes} {journal next : Journal} {payload : Bytes}
    {reply result : α} {fate : AppendFate}
    (h : (commitRecord file journal next payload reply fate).1 = .returned (.ok result)) :
    result = reply := by
  unfold commitRecord at h
  split at h
  · cases h
    rfl
  · cases h
  · cases h

/-- The identifier an enqueue returns is the next one, and it is used up. -/
theorem Issues.spec {s : System} {op : Op} {id : ℕ} (h : Issues s op id) (hs : Stands s contents)
    (path : String) : id = contents.nextId ∧ PastId id (step path s op) := by
  obtain ⟨message, fate, journal, rfl, hj, hrp⟩ := h
  simp only [Stands, hj] at hs
  obtain ⟨rfl, hfile⟩ := hs
  have hstep : Outbox.step path s (.enqueue message fate) =
      (enqueue s.file journal message fate).2 := by
    simp only [Outbox.step, hj]
  rw [hstep]
  unfold enqueue at hrp ⊢
  rcases hrec : journal.enqueueRecord message with e | pair
  · rw [hrec] at hrp
    cases hrp
  obtain ⟨payload, next⟩ := pair
  obtain ⟨hfits, happly, hid, hpush⟩ := Journal.enqueueRecord_ok hrec
  simp only [hrec] at hrp ⊢
  obtain rfl := commitRecord_reply hrp
  refine ⟨rfl, next.toRecovered, ?_, ?_⟩
  · rw [hpush]
    exact Nat.lt_succ_self _
  · rw [commitRecord_returned hfits hrp]
    exact ⟨rfl, hfile.append hfits happly⟩

/-- When every failed append is rolled back, an enqueue returns a greater identifier than every
    enqueue before it, whatever crashes, restarts, acknowledgements and compactions come between
    them. -/
theorem enqueue_ids_increase (path : String) {ops : List Op} (hops : ∀ op ∈ ops, op.RollsBack)
    {i j : ℕ} (hij : i < j) {earlier later : Op} (hi : ops[i]? = some earlier)
    (hj : ops[j]? = some later) {id next : ℕ}
    (hearlier : Issues (run (step path) System.fresh (ops.take i)) earlier id)
    (hlater : Issues (run (step path) System.fresh (ops.take j)) later next) :
    id < next := by
  have hj' : j < ops.length := (List.getElem?_eq_some_iff.1 hj).1
  obtain ⟨contents, hs⟩ := everyState_exists_stands hops path i (by omega)
  have hissued : PastId id (run (step path) System.fresh (ops.take (i + 1))) := by
    rw [run_take_succ hi]
    exact (hearlier.spec hs path).2
  -- the identifier stays used up until the later enqueue
  obtain ⟨contents', hlt, hs'⟩ : PastId id (run (step path) System.fresh (ops.take j)) := by
    refine (everyStep_of_forall hops System.fresh).between hij (Nat.le_of_lt hj') hissued ?_
    intro k op _ _ _ hpast hop
    exact hpast.step hop path
  rw [(hlater.spec hs' path).1]
  exact hlt

/-- One entry is acknowledged and the empty queue compacted before a restart. -/
def emptiedRun : List Op :=
  [.reopen 2 .done, .enqueue sampleMessage .done, .acknowledge [1] .done, .compact .done,
    .close, .reopen 2 .done, .enqueue sampleMessage .done]

/-- The journal of an empty queue: the checkpoint alone has the next identifier. -/
def emptiedFile : Bytes := fileHeader ++ recordFormat.log [encodeCheckpoint 2]

theorem run_emptiedRun :
    run (step "outbox") System.fresh (emptiedRun.take 6) =
      ⟨emptiedFile, some ⟨firstPending.removeAll [1], 2, none⟩⟩ := by
  decide +kernel

/-- After the restart the next message gets the identifier 2. -/
theorem enqueue_ids_increase_emptied :
    Issues (run (step "outbox") System.fresh (emptiedRun.take 6)) (.enqueue sampleMessage .done) 2 ∧
      1 < 2 := by
  have hops : ∀ op ∈ emptiedRun, op.RollsBack := by
    simp [emptiedRun, Op.RollsBack, AppendFate.RollsBack]
  have hearlier : Issues (run (step "outbox") System.fresh (emptiedRun.take 1))
      (.enqueue sampleMessage .done) 1 := ⟨_, _, _, rfl, rfl, rfl⟩
  have hlater : Issues (run (step "outbox") System.fresh (emptiedRun.take 6))
      (.enqueue sampleMessage .done) 2 := by
    rw [run_emptiedRun]
    exact ⟨_, _, _, rfl, rfl, rfl⟩
  exact ⟨hlater, enqueue_ids_increase "outbox" hops (by decide) rfl rfl hearlier hlater⟩

/-! ## A rollback that fails -/

/-- A message whose record is longer than the one of `sampleMessage`. -/
def longMessage : OutboxMessage := ⟨"", List.replicate 16 0, 0⟩

/-- The header of the record of a long message stays in the file. The record of the next message
    lands in what recovery takes for the payload of the first. -/
def forgottenRun : List Op :=
  [.reopen 2 .done,
    .enqueue longMessage (.failed recordHeaderLen false ⟨.other, "input/output error"⟩),
    .enqueue sampleMessage .done, .close, .reopen 2 .done, .enqueue sampleMessage .done]

/-- The file of that run. -/
def forgottenFile : Bytes :=
  fileHeader ++ (recordFrame (enqueuePayload ⟨1, longMessage, 0⟩)).take recordHeaderLen ++
    recordFrame (enqueuePayload ⟨1, sampleMessage, 0⟩)

theorem run_forgottenRun :
    run (step "outbox") System.fresh (forgottenRun.take 5) =
      ⟨fileHeader, some ⟨Recovered.empty, 2, none⟩⟩ := by
  have hclosed : run (step "outbox") System.fresh (forgottenRun.take 4) = ⟨forgottenFile, none⟩ :=
    rfl
  rw [run_take_succ (a := .reopen 2 .done) rfl, hclosed]
  decide +kernel

/-- Both enqueues of the run that succeed return the identifier 1. -/
theorem unrolled_append_reissues_id :
    Issues (run (step "outbox") System.fresh (forgottenRun.take 2)) (.enqueue sampleMessage .done) 1 ∧
      Issues (run (step "outbox") System.fresh (forgottenRun.take 5))
        (.enqueue sampleMessage .done) 1 := by
  refine ⟨⟨_, _, _, rfl, rfl, rfl⟩, ?_⟩
  rw [run_forgottenRun]
  exact ⟨_, _, _, rfl, rfl, rfl⟩

end AetherEdge.Outbox
