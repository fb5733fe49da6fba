import AetherEdge.Dataplane.Segment

/-!
# Reopening a segment after a crash

A writer that dies between the two increments of `set` leaves the counter of the slot odd.
`open_existing` checks the header and no slot, so that the next writer starts from that counter:
its `set` makes the counter even while it stores and odd when it has finished.

* `reopened_consistent_iff`: readers of the reopened segment see whole records, and see them
  after every `set`, exactly when the crash was outside the two increments;
* `reopened_slot_torn`: a torn record and an unreadable slot.
-/

namespace AetherEdge.Dataplane

open Transition Seqlock

/-- A slot of the file after its writer has died and the next one has mapped the file. -/
def SlotState.reopened (s : SlotState) (mapping : Segment) (slot : ℕ) : SlotState :=
  { step pointSlot s (.crash 0) with cell := mapping.slots slot }

/-- A reader accepts the record of a finished `set`. -/
def Untorn (s : SlotState) (op : Op SlotRead FieldStore) : Prop :=
  ∀ got, accepted s op = some got → writesDuring s < 2 ^ 31 → got ∈ s.finished

/-- Once more than `before` of them have finished and none is going on, a reader gets the record
    of the last `set`. -/
def Readable (before : ℕ) (s : SlotState) : Prop :=
  s.writers 0 = .idle → before < s.finished.length →
    PointSlot.tryLoadConsistent s.cell = s.finished.head?

/-- After a crash outside the two increments the next writer goes on as if nothing had
    happened. -/
theorem consistent_of_quiet {s : SlotState} (h : Orderly pointSlot s)
    (halone : ∀ w ≠ 0, s.writers w = .idle) (hquiet : s.Quiet)
    {later : List (Op SlotRead FieldStore)} (hlat : ∀ op ∈ later, ByWriter 0 op) :
    EveryStep (step pointSlot) Untorn (step pointSlot s (.crash 0)) later ∧
      ∀ before, EveryState (step pointSlot) (Readable before) (step pointSlot s (.crash 0)) later := by
  have hcrash := h.crash 0 (hquiet 0)
  have hidle : ∀ w ≠ 0, (step pointSlot s (.crash 0)).writers w = .idle := by
    intro w hw
    show Function.update s.writers 0 .idle w = .idle
    rw [Function.update_of_ne hw]
    exact halone w hw
  have horderly := orderly_of_byWriter hcrash hidle hlat
  constructor
  · refine horderly.everyStep fun s op h got hacc hbd => ?_
    exact List.mem_of_head? (h.1.accepted hacc hbd)
  · intro before
    refine horderly.imp fun s h hwtr _ => ?_
    have hquiet : s.Quiet := by
      intro w record left hwriting
      by_cases hw : w = 0
      · rw [hw, hwtr] at hwriting
        cases hwriting
      · rw [h.2 w hw] at hwriting
        cases hwriting
    rw [PointSlot.tryLoadConsistent_eq_read, h.1.read_eq hquiet]

/-- After a crash between the two increments a finished `set` leaves the counter odd. -/
theorem read_eq_none_of_odd {s : SlotState} (hidle : s.writers 0 = .idle)
    (hodd : s.cell.seq % 2 = 1) (record : SlotRead) :
    PointSlot.tryLoadConsistent (run (step pointSlot) s (pointSlot.write 0 record)).cell = none := by
  rw [run_write hidle, PointSlot.tryLoadConsistent_eq_read, Protocol.read, if_neg]
  show ¬pointSlot.bump (pointSlot.bump s.cell.seq) % 2 = 0
  have hbump := bump_mod_two pointSlot s.cell.seq
  rw [bump_mod_two]
  omega

/-- Readers of a reopened segment see only whole records, and after every finished `set` its
    record, exactly when the writer did not die between the two increments of a `set`. -/
theorem reopened_consistent_iff {ops : List (Op SlotRead FieldStore)}
    (hops : ∀ op ∈ ops, ByWriter 0 op) {path : String} {file mapping : Segment}
    {slotCount slot : ℕ} {layoutHash : UInt64}
    (hslot : file.slots slot = (run (step pointSlot) SlotState.created ops).cell)
    (hopen : Segment.openExisting path file slotCount layoutHash = .ok mapping) :
    let s : SlotState := run (step pointSlot) SlotState.created ops
    (∀ later : List (Op SlotRead FieldStore), (∀ op ∈ later, ByWriter 0 op) →
      EveryStep (step pointSlot) Untorn (s.reopened mapping slot) later ∧
      EveryState (step pointSlot) (Readable s.finished.length) (s.reopened mapping slot) later) ↔
    s.Quiet := by
  intro s
  obtain ⟨h, halone⟩ : Orderly pointSlot s ∧ ∀ w ≠ 0, s.writers w = .idle :=
    (orderly_of_byWriter orderly_created (fun _ _ => rfl) hops).last
  have hreopened : s.reopened mapping slot = step pointSlot s (.crash 0) := by
    obtain ⟨-, -, -, -, rfl⟩ := Segment.openExisting_eq_ok_iff.1 hopen
    unfold SlotState.reopened
    rw [hslot]
    rfl
  rw [hreopened]
  constructor
  · intro hconsistent
    by_contra hbusy
    -- the next `set` finishes, and is not there
    have hbywriter : ∀ op ∈ pointSlot.write 0 (plainRecord F64.one 7), ByWriter 0 op := by
      intro op hop
      rcases List.mem_cons.1 hop with rfl | hop
      · rfl
      · rw [List.eq_of_mem_replicate hop]
        rfl
    have hodd : s.cell.seq % 2 = 1 := by
      have := mt h.parity.1 hbusy
      omega
    have hidle : (step pointSlot s (.crash 0)).writers 0 = .idle := by
      show Function.update s.writers 0 .idle 0 = .idle
      rw [Function.update_self]
    have hreadable := (hconsistent _ hbywriter).2.last
    have hnone := read_eq_none_of_odd hidle hodd (plainRecord F64.one 7)
    rw [run_write hidle] at hreadable hnone
    rw [Readable, hnone] at hreadable
    cases hreadable hidle (Nat.lt_succ_self _)
  · intro hquiet later hlater
    exact ⟨(consistent_of_quiet h halone hquiet hlater).1,
      (consistent_of_quiet h halone hquiet hlater).2 _⟩

/-- A segment of one slot. -/
def singleSlot (slot : PointSlot) : Segment where
  len := calculateFileSize 1
  header :=
    { magic := aetherShmMagic
      version := shmLayoutVersion
      slotCount := 1
      writerHeartbeat := 0
      layoutHash := 0
      writerGeneration := 2
      publicationEpoch := 1 }
  slots _ := slot

theorem openExisting_singleSlot (slot : PointSlot) :
    Segment.openExisting "live.shm" (singleSlot slot) 1 0 = .ok (singleSlot slot) :=
  Segment.openExisting_eq_ok_iff.2
    ⟨⟨rfl, rfl, rfl, (by decide : (1 : UInt64) ≠ 0)⟩, rfl, rfl, (by decide : stable 2 = true), rfl⟩

/-- The writer dies when it has called `set`, before the first increment. -/
theorem reopened_before_set :
    let s : SlotState :=
      run (step pointSlot) SlotState.created [.call 0 (plainRecord F64.one 7)]
    ∀ later : List (Op SlotRead FieldStore), (∀ op ∈ later, ByWriter 0 op) →
      EveryStep (step pointSlot) Untorn (s.reopened (singleSlot s.cell) 0) later ∧
      EveryState (step pointSlot) (Readable s.finished.length)
        (s.reopened (singleSlot s.cell) 0) later := by
  refine (reopened_consistent_iff ?_ rfl (openExisting_singleSlot _)).2 ?_
  · intro op hop
    rw [List.mem_singleton.1 hop]
    rfl
  · intro writer record left
    by_cases hw : writer = 0
    · subst hw
      exact fun h => by cases h
    · show Function.update _ 0 _ writer ≠ _
      rw [Function.update_of_ne hw]
      exact fun h => by cases h

/-- A `set` that stores its value and dies. -/
def abandonedSet : List (Op SlotRead FieldStore) :=
  [.call 0 (plainRecord F64.one 7), .advance 0, .advance 0]

/-- The next `set` up to the store of its value, and a reader. -/
def attemptDuringNextSet : List (Op SlotRead FieldStore) :=
  [Op.call 0 (plainRecord F64.hundred 9), Op.advance 0, Op.advance 0] ++ List.replicate 5 Op.load

/-- The reader accepts the new value with the old raw value, which no `set` has written
    together; and when the `set` has finished the slot cannot be read. -/
theorem reopened_slot_torn :
    let s : SlotState := run (step pointSlot) SlotState.created abandonedSet
    let during := run (step pointSlot) (s.reopened (singleSlot s.cell) 0) attemptDuringNextSet
    let finished := run (step pointSlot) during (List.replicate 4 (.advance 0))
    Segment.openExisting "live.shm" (singleSlot s.cell) 1 0 = .ok (singleSlot s.cell) ∧
      accepted during .load = some ⟨F64.hundred, slotUnwritten, 0, 0⟩ ∧
      during.finished = [⟨slotUnwritten, slotUnwritten, 0, 0⟩] ∧
      finished.finished.head? = some (plainRecord F64.hundred 9) ∧
      PointSlot.tryLoadConsistent finished.cell = none := by
  refine ⟨openExisting_singleSlot _, ?_⟩
  decide +kernel

end AetherEdge.Dataplane
