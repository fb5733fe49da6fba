import AetherEdge.Common.Transition

/-!
# The buffer of the history service

The collector appends points to a buffer that the flush task takes, writes in chunks and refills
with what failed; `join_flush` aborts the collector and waits for the flush after the shutdown
(`services/history/src/scheduler.rs`). That flush returns at once when storage is not active, and
the collector may append behind it; the points are then in the buffer as the service ends. Those
the collector holds while it waits for the lock are in no list, and are lost if it is aborted there.

* `Conserved.step`: no step loses sight of a point, lets the buffer grow too long or changes its
  order;
* `flushed_throughout`: where the points are, and when the final flush leaves the buffer empty.
-/

namespace AetherEdge.History

open List Transition

variable {α : Type} (ceiling : ℕ)

/-- `flush_task` (lines 194-213); in `flush_buffer` with the points not yet written and those that
    failed. -/
inductive FlushTask (α : Type) where
  | waiting
  | writing (final : Bool) (batchSize : ℕ) (rest failed : List α)
  | ended

/-- The service, and what it has collected, written, dropped and lost. -/
structure State (α : Type) where
  buffer : List α := []
  /-- what `collector_task` (lines 104-179) has collected and not yet appended -/
  inHand : List α := []
  /-- `collector_task` is over -/
  stopped : Bool := false
  /-- `join_flush` has called `abort` on it -/
  joining : Bool := false
  task : FlushTask α := .waiting
  shutdown : Bool := false
  collected : List α := []
  storage : List α := []
  dropped : List α := []
  /-- what was in the hand of the collector when it was aborted -/
  aborted : List α := []
  /-- a write of the final flush failed -/
  finalFailed : Bool := false

/-- A step of one of the tasks, from one of its await points to the next. -/
inductive Action (α : Type) where
  /-- `collect_patterns`, up to the lock of the buffer -/
  | collect (points : List α)
  /-- the collector has the lock -/
  | append
  /-- the collector sees the shutdown or its abort -/
  | stop
  | cancel
  /-- `join_flush` begins -/
  | join
  /-- the begin of `flush_buffer`, after a tick or as the final flush -/
  | flush (final : Bool) (batchSize : ℕ) (active : Bool)
  /-- the next chunk, or the end of the flush when there is none -/
  | write (succeeds : Bool)

namespace State

/-- A new buffer, after `enforce_buffer_cap` (lines 63-69). -/
def put (s : State α) (buffer : List α) : State α :=
  { s with
    buffer := buffer.drop (buffer.length - ceiling)
    dropped := s.dropped ++ buffer.take (buffer.length - ceiling) }

/-- `flush_buffer` returns. -/
def returned (s : State α) (final : Bool) : State α :=
  { s with task := if final then .ended else .waiting }

/-- `flush_buffer` up to its first write (lines 215-231). -/
def flush (s : State α) (final : Bool) (batchSize : ℕ) (active : Bool) : State α :=
  if active ∧ s.buffer ≠ [] then
    { s with buffer := [], task := .writing final batchSize s.buffer [] }
  else s.returned final

/-- A turn of the loop of `flush_buffer`, or what stands behind it (lines 232-259). -/
def write (s : State α) (final : Bool) (batchSize : ℕ) (rest failed : List α) (succeeds : Bool) :
    State α :=
  if rest = [] then
    if failed = [] then s.returned final else (s.returned final).put ceiling (failed ++ s.buffer)
  else if succeeds then
    { s with
      storage := s.storage ++ rest.take batchSize
      task := .writing final batchSize (rest.drop batchSize) failed }
  else
    { s with
      task := .writing final batchSize (rest.drop batchSize) (failed ++ rest.take batchSize)
      finalFailed := s.finalFailed || final }

end State

/-- A step of the service. -/
def step (s : State α) : Action α → State α
  | .collect points =>
    if s.stopped ∨ s.inHand ≠ [] then s
    else { s with collected := s.collected ++ points, inHand := points }
  | .append => { s with inHand := [] }.put ceiling (s.buffer ++ s.inHand)
  | .stop =>
    -- an abort takes effect at any await, the cancellation only at the `select!`
    if s.joining then { s with stopped := true, inHand := [], aborted := s.inHand ++ s.aborted }
    else if s.shutdown ∧ s.inHand = [] then { s with stopped := true }
    else s
  | .cancel => { s with shutdown := true }
  | .join => { s with joining := true }
  | .flush final batchSize active =>
    match s.task with
    | .waiting => if final ∧ ¬s.shutdown then s else s.flush final batchSize active
    | _ => s
  | .write succeeds =>
    match s.task with
    | .writing final batchSize rest failed => s.write ceiling final batchSize rest failed succeeds
    | _ => s

/-- What `join_flush` (lines 32-50) reports: whether the flush task has ended, in time. -/
def joinFlush (s : State α) (inTime : Bool) : Bool :=
  match s.task with
  | .ended => s.joining && inTime
  | _ => false

/-- `MAX_BUFFERED_POINTS` (line 59). -/
def maxBufferedPoints : ℕ := 200000

/-! ## Conservation -/

/-- The points `flush_buffer` has taken and not written. -/
def FlushTask.batch : FlushTask α → List α
  | .writing _ _ rest failed => failed ++ rest
  | _ => []

/-- The points collected are written, dropped or still held, and these are in order. -/
structure Placed (collected storage dropped held : List α) : Prop where
  places : collected ~ storage ++ (dropped ++ held)
  order : held <+ collected

section Placed

variable {collected storage dropped front part back : List α}

theorem Placed.drop (h : Placed collected storage dropped (front ++ (part ++ back))) :
    Placed collected storage (dropped ++ part) (front ++ back) where
  places := by
    refine h.places.trans (Perm.append_left _ ?_)
    rw [append_assoc]
    exact (perm_append_comm_assoc front part back).append_left _
  order := ((sublist_append_right part back).append_left front).trans h.order

theorem Placed.write (h : Placed collected storage dropped (front ++ (part ++ back))) :
    Placed collected (storage ++ part) dropped (front ++ back) where
  places := by
    refine h.drop.places.trans ?_
    rw [append_assoc, append_assoc]
    exact (perm_append_comm_assoc dropped part _).append_left _
  order := h.drop.order

end Placed

/-- Behind the points on their way to storage, the ones not yet appended. -/
def State.behind (s : State α) : List α :=
  s.inHand ++ s.aborted

/-- Every point collected is in exactly one of storage, the points dropped, the batch, the buffer,
    the hand of the collector and what was lost with it. -/
structure Conserved (s : State α) : Prop where
  placed : Placed s.collected s.storage s.dropped (s.task.batch ++ (s.buffer ++ s.behind))
  bounded : s.buffer.length ≤ ceiling
  running : s.stopped = false → s.aborted = []

section

variable {s : State α} {ceiling}

theorem conserved_put {buffer : List α} (hrunning : s.stopped = false → s.aborted = [])
    (h : Placed s.collected s.storage s.dropped (s.task.batch ++ (buffer ++ s.behind))) :
    Conserved ceiling (s.put ceiling buffer) where
  placed := by
    rw [← take_append_drop (buffer.length - ceiling) buffer, append_assoc] at h
    exact h.drop
  bounded := by
    rw [State.put, length_drop]
    omega
  running := hrunning

theorem batch_returned (s : State α) (final : Bool) : (s.returned final).task.batch = [] := by
  cases final <;> rfl

theorem Conserved.returned (h : Conserved ceiling s) (hbatch : s.task.batch = []) (final : Bool) :
    Conserved ceiling (s.returned final) where
  placed := by
    rw [batch_returned, ← hbatch]
    exact h.placed
  bounded := h.bounded
  running := h.running

theorem Conserved.write (h : Conserved ceiling s) {final : Bool} {batchSize : ℕ}
    {rest failed : List α} (htask : s.task = .writing final batchSize rest failed)
    (succeeds : Bool) : Conserved ceiling (s.write ceiling final batchSize rest failed succeeds) := by
  have hplaced := h.placed
  rw [htask] at hplaced
  change Placed _ _ _ ((failed ++ rest) ++ (s.buffer ++ s.behind)) at hplaced
  have hrest := take_append_drop batchSize rest
  unfold State.write
  split_ifs with hend hfailed
  · refine h.returned ?_ final
    rw [htask, hend, hfailed]
    rfl
  · rw [hend, append_nil, ← append_assoc] at hplaced
    refine conserved_put h.running ?_
    rw [batch_returned]
    exact hplaced
  · rw [← hrest, append_assoc, append_assoc] at hplaced
    refine ⟨?_, h.bounded, h.running⟩
    show Placed _ _ _ ((failed ++ rest.drop batchSize) ++ (s.buffer ++ s.behind))
    rw [append_assoc]
    exact hplaced.write
  · refine ⟨?_, h.bounded, h.running⟩
    show Placed _ _ _
      (((failed ++ rest.take batchSize) ++ rest.drop batchSize) ++ (s.buffer ++ s.behind))
    rwa [append_assoc failed, hrest]

theorem Conserved.collect (h : Conserved ceiling s) (points : List α) :
    Conserved ceiling (step ceiling s (.collect points)) := by
  dsimp only [History.step]
  split_ifs with hbusy
  · exact h
  · obtain ⟨hstopped, hhand⟩ := not_or.mp hbusy
    have hnone := h.running (Bool.not_eq_true _ ▸ hstopped)
    have hplaced := h.placed
    rw [State.behind, not_not.mp hhand, hnone, append_nil, append_nil] at hplaced
    refine ⟨?_, h.bounded, h.running⟩
    show Placed (s.collected ++ points) _ _ (s.task.batch ++ (s.buffer ++ (points ++ s.aborted)))
    rw [hnone, append_nil, ← append_assoc]
    refine ⟨?_, hplaced.order.append_right points⟩
    have hplaces := hplaced.places.append_right points
    rwa [append_assoc, append_assoc] at hplaces

theorem Conserved.append (h : Conserved ceiling s) : Conserved ceiling (step ceiling s .append) := by
  refine conserved_put (s := { s with inHand := [] }) h.running ?_
  have hplaced := h.placed
  rwa [State.behind, ← append_assoc s.buffer] at hplaced

theorem Conserved.stop (h : Conserved ceiling s) : Conserved ceiling (step ceiling s .stop) := by
  dsimp only [History.step]
  split_ifs
  · exact ⟨h.placed, h.bounded, nofun⟩
  · exact ⟨h.placed, h.bounded, nofun⟩
  · exact h

theorem Conserved.flush (h : Conserved ceiling s) (htask : s.task = .waiting) (final : Bool)
    (batchSize : ℕ) (active : Bool) : Conserved ceiling (s.flush final batchSize active) := by
  have hbatch : s.task.batch = [] := by rw [htask]; rfl
  unfold State.flush
  split_ifs
  · refine ⟨?_, Nat.zero_le _, h.running⟩
    have hplaced := h.placed
    rwa [hbatch] at hplaced
  · exact h.returned hbatch final

theorem Conserved.step (h : Conserved ceiling s) (action : Action α) :
    Conserved ceiling (step ceiling s action) := by
  cases action with
  | collect points => exact h.collect points
  | append => exact h.append
  | stop => exact h.stop
  | cancel => exact ⟨h.placed, h.bounded, h.running⟩
  | join => exact ⟨h.placed, h.bounded, h.running⟩
  | flush final batchSize active =>
    rw [History.step]
    cases htask : s.task with
    | waiting =>
      dsimp only
      split_ifs
      · exact h
      · exact h.flush htask final batchSize active
    | _ => exact h
  | write succeeds =>
    rw [History.step]
    cases htask : s.task with
    | writing final batchSize rest failed => exact h.write htask succeeds
    | _ => exact h

/-! ## The final flush -/

/-- What failed in the final flush, once it has begun. -/
def FlushTask.finalFailures : FlushTask α → Option (List α)
  | .waiting => none
  | .writing final _ _ failed => if final then some failed else none
  | .ended => some []

/-- The final flush finds storage active or nothing to write, nothing is appended after it has
    begun, and the collector is not aborted with points in hand. -/
def Orderly (s : State α) : Action α → Prop
  | .append => s.task.finalFailures = none ∨ s.inHand = []
  | .stop => s.inHand = []
  | .flush final _ active => final = true → active = true ∨ s.buffer = []
  | _ => True

/-- As long as no write of the final flush has failed, it leaves nothing behind. -/
def Flushed (s : State α) : Prop :=
  ∀ failed, s.task.finalFailures = some failed → s.finalFailed = false → failed = [] ∧ s.buffer = []

/-- What holds in every state of an orderly run. -/
structure Kept (ceiling : ℕ) (s : State α) : Prop where
  conserved : Conserved ceiling s
  flushed : Flushed s
  unaborted : s.aborted = []

theorem flushed_returned {final : Bool} (h : final = true → s.finalFailed = false → s.buffer = []) :
    Flushed (s.returned final) := by
  intro failed hfinal hclean
  cases final with
  | false => cases hfinal
  | true =>
    cases hfinal
    exact ⟨rfl, h rfl hclean⟩

theorem Flushed.write (h : Flushed s) {final : Bool} {batchSize : ℕ} {rest failed : List α}
    (htask : s.task = .writing final batchSize rest failed) (succeeds : Bool) :
    Flushed (s.write ceiling final batchSize rest failed succeeds) := by
  unfold Flushed at h
  rw [htask] at h
  unfold State.write
  cases final with
  | false => split_ifs <;> exact nofun
  | true =>
    have hempty := h failed rfl
    split_ifs with hend hfailed
    · exact flushed_returned fun _ hclean => (hempty hclean).2
    · exact fun _ _ hclean => absurd (hempty hclean).1 hfailed
    · exact h
    · intro _ _ hclean
      rw [Bool.or_true] at hclean
      cases hclean

theorem Flushed.append (h : Flushed s) (horderly : Orderly s .append) :
    Flushed (step ceiling s .append) := by
  intro failed hfinal hclean
  obtain ⟨hnil, hbuffer⟩ := h failed hfinal hclean
  rcases horderly with hnone | hhand
  · cases hnone.symm.trans hfinal
  · refine ⟨hnil, ?_⟩
    show (s.buffer ++ s.inHand).drop _ = []
    rw [hbuffer, hhand, append_nil, drop_nil]

theorem Flushed.step (h : Flushed s) {action : Action α} (horderly : Orderly s action) :
    Flushed (step ceiling s action) := by
  cases action with
  | collect points =>
    dsimp only [History.step]
    split_ifs <;> exact h
  | append => exact h.append horderly
  | stop =>
    dsimp only [History.step]
    split_ifs <;> exact h
  | cancel => exact h
  | join => exact h
  | flush final batchSize active =>
    rw [History.step]
    cases htask : s.task with
    | waiting =>
      dsimp only [State.flush]
      split_ifs with hearly hact
      · exact h
      · intro failed hfinal _
        cases final with
        | false => cases hfinal
        | true => exact ⟨(Option.some.inj hfinal).symm, rfl⟩
      · refine flushed_returned fun hfinal _ => ?_
        rcases horderly hfinal with hactive | hbuffer
        · exact by_contra fun hne => hact ⟨hactive, hne⟩
        · exact hbuffer
    | _ => exact h
  | write succeeds =>
    rw [History.step]
    cases htask : s.task with
    | writing final batchSize rest failed => exact h.write htask succeeds
    | _ => exact h

theorem aborted_step (hnone : s.aborted = []) {action : Action α} (horderly : Orderly s action) :
    (step ceiling s action).aborted = [] := by
  cases action with
  | stop =>
    have hhand : s.inHand = [] := horderly
    dsimp only [History.step]
    split_ifs
    · show s.inHand ++ s.aborted = []
      rw [hhand, hnone, append_nil]
    · exact hnone
    · exact hnone
  | collect points =>
    dsimp only [History.step]
    split_ifs <;> exact hnone
  | flush final batchSize active =>
    dsimp only [History.step, State.flush]
    split
    · split_ifs <;> exact hnone
    · exact hnone
  | write succeeds =>
    dsimp only [History.step, State.write]
    split
    · split_ifs <;> exact hnone
    · exact hnone
  | append | cancel | join => exact hnone

theorem Kept.step (h : Kept ceiling s) {action : Action α} (horderly : Orderly s action) :
    Kept ceiling (step ceiling s action) where
  conserved := h.conserved.step action
  flushed := h.flushed.step horderly
  unaborted := aborted_step h.unaborted horderly

theorem Kept.places (h : Kept ceiling s) (hhand : s.inHand = []) :
    s.collected ~ s.storage ++ (s.dropped ++ (s.task.batch ++ s.buffer)) := by
  have hplaces := h.conserved.placed.places
  rwa [State.behind, hhand, h.unaborted, append_nil, append_nil] at hplaces

theorem Kept.empty (h : Kept ceiling s) {inTime : Bool} (hjoined : joinFlush s inTime = true)
    (hfailed : s.finalFailed = false) : s.buffer = [] := by
  unfold joinFlush at hjoined
  split at hjoined
  · rename_i htask
    refine (h.flushed [] ?_ hfailed).2
    rw [htask]
    rfl
  · cases hjoined

end

/-- Over every run the points stay in sight; over an orderly one none is lost with the collector,
    those not in its hand are in the four lists, and a successful `join_flush` finds the buffer
    empty. -/
theorem flushed_throughout (actions : List (Action α)) :
    EveryState (step ceiling) (Conserved ceiling) ({} : State α) actions ∧
      (EveryStep (step ceiling) Orderly ({} : State α) actions →
        EveryState (step ceiling)
          (fun s => s.aborted = [] ∧
            (s.inHand = [] →
              s.collected ~ s.storage ++ (s.dropped ++ (s.task.batch ++ s.buffer))) ∧
            ∀ inTime, joinFlush s inTime = true → s.finalFailed = false → s.buffer = [])
          ({} : State α) actions) := by
  have hstart : Conserved ceiling ({} : State α) := ⟨⟨.nil, .slnil⟩, Nat.zero_le _, fun _ => rfl⟩
  refine ⟨everyState_of_step (fun _ action h => h.step action) hstart actions, fun horderly => ?_⟩
  have hkept : Kept ceiling ({} : State α) := ⟨hstart, nofun, rfl⟩
  refine (horderly.invariant (fun _ _ h hstep => h.step hstep) hkept).imp fun s h => ?_
  exact ⟨h.unaborted, h.places, fun _ => h.empty⟩

/-- The second point is appended while the first is written, and the final flush writes it. -/
def orderlyRun : List (Action ℕ) :=
  [.collect [1], .append, .flush false 2 true, .collect [2], .append, .write true, .write true,
    .cancel, .stop, .flush true 2 true, .join, .write true, .write true]

theorem orderlyRun_flushed :
    let s := run (step maxBufferedPoints) {} orderlyRun
    joinFlush s true = true ∧ s.storage = [1, 2] ∧ s.aborted = [] ∧ s.buffer = [] := by
  have horderly : EveryStep (step maxBufferedPoints) Orderly {} orderlyRun := by
    simp only [orderlyRun, everyStep_cons]
    exact ⟨trivial, .inl rfl, nofun, trivial, .inl rfl, trivial, trivial, trivial, rfl,
      fun _ => .inl rfl, trivial, trivial, trivial, nofun⟩
  have h := (flushed_throughout maxBufferedPoints orderlyRun).2 horderly
  obtain ⟨haborted, -, hempty⟩ := h.last
  exact ⟨by decide, by decide, haborted, hempty true (by decide) (by decide)⟩

/-- Storage is switched off and a point is left in the buffer. -/
theorem unflushed_when_inactive :
    let s := run (step maxBufferedPoints) ({} : State Unit)
      [.collect [()], .append, .cancel, .stop, .flush true 1 false, .join]
    joinFlush s true = true ∧ s.finalFailed = false ∧ s.buffer ≠ [] := by
  decide

end AetherEdge.History
