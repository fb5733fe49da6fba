import AetherEdge.Common.Float64
import AetherEdge.Common.Seqlock

/-!
# Point slots

Model of `PointSlot` (`crates/aether-dataplane/src/core/slot.rs`): a sequence lock over four
fields. `set` and `try_load_consistent` are the write and the attempt of `pointSlot`; `set`,
`initUnwritten` and `tryLoadConsistent` on a slot are what they do when nothing interferes.

* `accepted_is_last_set`: what a reader accepts next to one writer is the record of the last
  finished `set`, or that of a new slot;
* `init_during_attempt_mixes`: `init_unwritten` does not take part in the protocol.
-/

namespace AetherEdge.Dataplane

open Transition Seqlock

/-- `SlotRead`: the fields of a slot besides its counter. A value is kept as
    its bits. -/
structure SlotRead where
  value : F64
  raw : F64
  timestampMs : UInt64
  qualityCode : UInt32
  deriving DecidableEq, Repr

/-- Lines 35-46. -/
abbrev PointSlot := Cell SlotRead

/-- A store of `set`. -/
inductive FieldStore where
  | value (new : F64)
  | raw (new : F64)
  | timestamp (new : UInt64)
  | qualityCode (new : UInt32)
  deriving DecidableEq, Repr

/-- What a store leaves. -/
def FieldStore.apply (data : SlotRead) : FieldStore → SlotRead
  | .value new => { data with value := new }
  | .raw new => { data with raw := new }
  | .timestamp new => { data with timestampMs := new }
  | .qualityCode new => { data with qualityCode := new }

/-- The stores of `set` (lines 184-210) and the loads of `try_load_consistent`, in their order,
    under a 32-bit counter. -/
def pointSlot : Protocol SlotRead FieldStore where
  bits := 32
  bits_pos := by decide
  store := FieldStore.apply
  stores record := [.value record.value, .raw record.raw, .timestamp record.timestampMs,
    .qualityCode record.qualityCode]
  stores_eq _ _ := rfl
  blank := ⟨F64.zero, F64.zero, 0, 0⟩
  loads := [fun data got => { got with value := data.value },
    fun data got => { got with raw := data.raw },
    fun data got => { got with timestampMs := data.timestampMs },
    fun data got => { got with qualityCode := data.qualityCode }]
  loads_eq _ _ := rfl

/-- `SLOT_UNWRITTEN_BITS` (line 60). -/
def slotUnwritten : F64 := F64.nan

/-- The stores of `init_unwritten` (lines 90-94). -/
def initStores : List FieldStore := [.value slotUnwritten, .raw slotUnwritten]

namespace PointSlot

/-- A slot of a file that `set_len` has just extended. -/
def zeroed : PointSlot := ⟨0, ⟨F64.zero, F64.zero, 0, 0⟩⟩

/-- `init_unwritten` (lines 90-94). -/
def initUnwritten (slot : PointSlot) : PointSlot :=
  { slot with data := initStores.foldl FieldStore.apply slot.data }

/-- A slot as `SlotWriter::create` (`writer.rs:111-174`) leaves it. -/
def unwritten : PointSlot := zeroed.initUnwritten

/-- `set` (lines 184-210). -/
def set (slot : PointSlot) (record : SlotRead) : PointSlot :=
  ⟨pointSlot.bump (pointSlot.bump slot.seq), record⟩

/-- `try_load_consistent` (lines 123-151). -/
def tryLoadConsistent (slot : PointSlot) : Option SlotRead :=
  let seq1 := slot.seq
  if seq1 % 2 ≠ 0 then none
  else
    let value := slot.data.value
    let raw := slot.data.raw
    let timestampMs := slot.data.timestampMs
    let qualityCode := slot.data.qualityCode
    let seq2 := slot.seq
    if seq1 = seq2 then some ⟨value, raw, timestampMs, qualityCode⟩ else none

theorem tryLoadConsistent_eq_read (slot : PointSlot) :
    slot.tryLoadConsistent = pointSlot.read slot := by
  unfold tryLoadConsistent Protocol.read
  by_cases heven : slot.seq % 2 = 0
  · rw [if_neg (not_not_intro heven), if_pos heven, if_pos rfl]
    rfl
  · rw [if_pos heven, if_neg heven]

theorem eq_data_of_tryLoadConsistent {slot : PointSlot} {record : SlotRead}
    (h : slot.tryLoadConsistent = some record) : record = slot.data := by
  unfold tryLoadConsistent at h
  dsimp only at h
  split_ifs at h
  exact (Option.some.inj h).symm

theorem tryLoadConsistent_unwritten :
    PointSlot.tryLoadConsistent unwritten = some PointSlot.unwritten.data := rfl

theorem tryLoadConsistent_set_unwritten (record : SlotRead) :
    PointSlot.tryLoadConsistent (PointSlot.set unwritten record) = some record := by
  have heven : pointSlot.bump (pointSlot.bump 0) % 2 = 0 := by decide
  rw [tryLoadConsistent_eq_read, Protocol.read]
  exact if_pos heven

end PointSlot

/-! ## Interleavings -/

/-- A slot, its writers and a reader. -/
abbrev SlotState := State SlotRead FieldStore

/-- A new slot. Its record counts as written by `init_unwritten`. -/
def SlotState.created : SlotState where
  cell := PointSlot.unwritten
  writers _ := .idle
  reader := .idle none
  finished := [PointSlot.unwritten.data]

theorem orderly_created : Orderly pointSlot SlotState.created where
  bound := by decide
  parity := by
    refine ⟨fun _ writer record left h => ?_, fun _ => rfl⟩
    cases h
  unique _ _ _ _ _ _ h := by cases h
  stored _ _ _ h := by cases h
  settled _ := rfl
  reading _ _ _ _ h := by cases h

/-- Next to a single writer, whatever a reader accepts is the whole record of the last `set` that
    has finished, or of the new slot, as long as fewer than `2 ^ 31` of them finish during its
    attempt. -/
theorem accepted_is_last_set {ops : List (Op SlotRead FieldStore)}
    (hops : ∀ op ∈ ops, ByWriter 0 op) :
    EveryStep (step pointSlot)
      (fun s op => ∀ got, accepted s op = some got → writesDuring s < 2 ^ 31 →
        s.finished.head? = some got)
      SlotState.created ops := by
  have horderly := orderly_of_byWriter orderly_created (fun _ _ => rfl) hops
  refine horderly.everyStep fun s op h got haccepted hbound => ?_
  exact h.1.accepted haccepted hbound

/-- A record whose value and raw value are the same. -/
def plainRecord (value : F64) (timestampMs : UInt64) : SlotRead := ⟨value, value, timestampMs, 0⟩

/-- A `set` during an attempt, between the loads of the value and of the raw value. -/
theorem accepted_is_last_set_sample :
    EveryStep (step pointSlot)
      (fun s op => ∀ got, accepted s op = some got → writesDuring s < 2 ^ 31 →
        s.finished.head? = some got)
      SlotState.created
      (List.replicate 2 Op.load ++ pointSlot.write 0 (plainRecord F64.one 7) ++
        List.replicate 4 Op.load) := by
  refine accepted_is_last_set fun op hop => ?_
  simp only [Protocol.write, List.mem_append, List.mem_cons, List.mem_replicate] at hop
  rcases hop with (⟨-, rfl⟩ | rfl | ⟨-, rfl⟩) | ⟨-, rfl⟩
  · trivial
  · rfl
  · rfl
  · trivial

/-- The slot holds the record of a finished `set` when `init_unwritten` runs between the loads of
    the value and of the raw value. -/
def initDuringAttempt : List (Op SlotRead FieldStore) :=
  pointSlot.write 0 (plainRecord F64.one 7) ++ List.replicate 2 Op.load ++
    initStores.map Op.poke ++ List.replicate 3 Op.load

/-- The reader accepts the value of the `set` with the raw value of `init_unwritten`. -/
theorem init_during_attempt_mixes :
    let s := run (step pointSlot) SlotState.created initDuringAttempt
    accepted s .load = some ⟨F64.one, slotUnwritten, 7, 0⟩ ∧ writesDuring s = 0 ∧
      s.finished = [plainRecord F64.one 7, ⟨slotUnwritten, slotUnwritten, 0, 0⟩] := by
  decide +kernel

end AetherEdge.Dataplane
