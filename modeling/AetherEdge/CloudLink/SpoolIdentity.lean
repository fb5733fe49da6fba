import AetherEdge.CloudLink.SpoolInvariant

/-!
# Identities of spooled records

A `Ledger` remembers which content was ever seen at which epoch and position. One operation of
the spool gives out at most the next position of the current epoch (`step_positions`), so a
ledger that holds everything seen so far stays a function of epoch and position and its
positions stay an initial interval in every epoch.

* `Ledger.Tracks.step`: an operation keeps the ledger ahead of the state;
* `Ledger.Ok.observe`: looking at a state keeps the ledger sound;
* `enqueue_retained`: a retained batch that is enqueued again gets its own record back.
-/

namespace AetherEdge.CloudLink

open OrderedMap Transition CloudLinkSpoolState
open Std (ExtTreeMap)

/-! ## One operation -/

/-- What one operation can do to epoch, positions and contents: it gives out at most the next
    position and keeps the contents below it, or it starts the next epoch with nothing. -/
def Advances (state next : CloudLinkSpoolState) : Prop :=
  (next.streamEpoch = state.streamEpoch ∧
    (next.nextPosition = state.nextPosition ∨
      next.nextPosition = state.nextPosition + 1 ∧ state.nextPosition ∈ next.records) ∧
    ∀ (p : ℕ) r, p ≠ state.nextPosition → next.records[p]? = some r →
      ∃ r', state.records[p]? = some r' ∧ r'.content = r.content) ∨
  (next.streamEpoch = state.streamEpoch + 1 ∧ next.nextPosition = 1 ∧ next.records = ∅)

theorem Advances.refl (state : CloudLinkSpoolState) : Advances state state :=
  .inl ⟨rfl, .inl rfl, fun _ r _ hr => ⟨r, hr, rfl⟩⟩

theorem advances_writeRecord {state : CloudLinkSpoolState} {q : ℕ} {x x' : CloudLinkRecord}
    (hx : state.records[q]? = some x) (hcnt : x'.content = x.content) :
    Advances state (state.writeRecord q x') := by
  refine .inl ⟨rfl, .inl rfl, fun p r _ hr => ?_⟩
  have hget : (state.writeRecord q x').records[p]? =
      if q = p then some x' else state.records[p]? := getElem?_insert_nat _ _ _ _
  rw [hget] at hr
  split_ifs at hr with hq
  · subst hq
    cases hr
    exact ⟨x, hx, hcnt.symm⟩
  · exact ⟨r, hr, rfl⟩

theorem step_positions (state : CloudLinkSpoolState) {op : SpoolOp} (hop : ¬op.Exhausts state) :
    Advances state (step state op) := by
  have h := step_cases state op
  generalize step state op = next at h ⊢
  cases h with
  | same => exact .refl state
  | dropped hex => exact absurd hex hop
  | added =>
    refine .inl ⟨rfl, .inr ⟨rfl, (mem_added state _).2 (.inl rfl)⟩, fun p r hp hr => ?_⟩
    rw [getElem?_added, if_neg (Ne.symm hp)] at hr
    exact ⟨r, hr, rfl⟩
  | evicted =>
    refine .inl ⟨?_, .inr ⟨?_, ?_⟩, fun p r hp hr => ?_⟩
    · simp
    · simp
    · rw [recordLoss_records]
      exact (mem_added _ _).2 (.inl rfl)
    · rw [recordLoss_records, getElem?_added,
        drop_nextPosition, if_neg (Ne.symm hp), getElem?_drop] at hr
      split_ifs at hr
      exact ⟨r, hr, rfl⟩
  | marked hok hx hid hcnt => exact advances_writeRecord hx hcnt
  | acknowledged =>
    refine .inl ⟨rfl, .inl rfl, fun p r _ hr => ?_⟩
    rw [getElem?_applyAck] at hr
    split_ifs at hr
    exact ⟨r, hr, rfl⟩
  | rotated hok hemp => exact .inr ⟨rfl, rfl, hemp⟩
  | resized => exact .inl ⟨rfl, .inl rfl, fun _ r _ hr => ⟨r, hr, rfl⟩⟩

theorem findBatch_retained {state : CloudLinkSpoolState} (inv : SpoolInv state) {p : ℕ}
    {r : CloudLinkRecord} (hr : state.records[p]? = some r) :
    state.findBatch r.batchId = some r := by
  rcases hf : state.findBatch r.batchId with _ | r'
  · exact absurd rfl (findBatch_eq_none.1 hf p r hr)
  obtain ⟨hb, q, hq⟩ := findBatch_eq_some hf
  have hpq := inv.unique q p r' r hq hr hb
  rw [hpq, hr] at hq
  exact hq.symm

/-- Enqueueing a retained batch again, with the same content, returns its record. -/
theorem enqueue_retained {state : CloudLinkSpoolState} (inv : SpoolInv state) {p : ℕ}
    {r : CloudLinkRecord} (hr : state.records[p]? = some r) {input : CloudLinkEnqueue}
    (hv : validateEnqueue input = .ok ()) (hbt : input.batchId = r.batchId)
    (hdig : input.digest = r.digest) (hkind : input.messageKind = r.messageKind)
    (hpay : input.payload = r.payload) : state.enqueue input = (.ok r, state) := by
  have hf : state.findBatch input.batchId = some r := by
    rw [hbt]; exact findBatch_retained inv hr
  have hsame : r.digest = input.digest ∧ r.messageKind = input.messageKind ∧
      r.payload = input.payload := ⟨hdig.symm, hkind.symm, hpay.symm⟩
  simp only [enqueue, hv, hf, if_pos hsame]

/-! ## Ledgers -/

/-- The contents seen at each epoch and position. -/
abbrev Ledger := ℕ → ℕ → CloudLinkEnqueue → Prop

namespace Ledger

/-- Everything retained in `state` has been seen. -/
def Holds (ledger : Ledger) (state : CloudLinkSpoolState) : Prop :=
  ∀ (p : ℕ) r, state.records[p]? = some r → ledger state.streamEpoch p r.content

/-- One content for each epoch and position, and in each epoch an initial interval of the
    positions from one. -/
structure Ok (ledger : Ledger) : Prop where
  unique : ∀ epoch p c c', ledger epoch p c → ledger epoch p c' → c = c'
  pos : ∀ epoch p c, ledger epoch p c → 1 ≤ p
  consecutive : ∀ epoch p c, ledger epoch p c → ∀ q, 1 ≤ q → q < p → ∃ c', ledger epoch q c'

/-- The ledger agrees with `state` and knows nothing the state has still to give out; what the
    state has given out in its epoch is in the ledger or still retained. -/
structure Tracks (ledger : Ledger) (state : CloudLinkSpoolState) : Prop where
  below : ∀ epoch p c, ledger epoch p c →
    epoch < state.streamEpoch ∨ epoch = state.streamEpoch ∧ p < state.nextPosition
  agree : ∀ (p : ℕ) r c, state.records[p]? = some r → ledger state.streamEpoch p c → c = r.content
  cover : ∀ p, 1 ≤ p → p < state.nextPosition →
    (∃ c, ledger state.streamEpoch p c) ∨ p ∈ state.records

/-- The ledger after `state` has been looked at. -/
def observe (ledger : Ledger) (state : CloudLinkSpoolState) : Ledger := fun epoch p c =>
  ledger epoch p c ∨
    epoch = state.streamEpoch ∧ ∃ r, state.records[p]? = some r ∧ r.content = c

variable {ledger : Ledger} {state : CloudLinkSpoolState}

theorem Tracks.step (h : ledger.Tracks state) (hhld : ledger.Holds state)
    {op : SpoolOp} (hop : ¬op.Exhausts state) : ledger.Tracks (CloudLink.step state op) := by
  rcases step_positions state hop with ⟨hep, hnext, hback⟩ | ⟨hep, hnext, hemp⟩
  · refine ⟨fun epoch p c hc => ?_, fun p r c hr hc => ?_, fun p h1 hp => ?_⟩
    · rw [hep]
      rcases h.below epoch p c hc with hlt | ⟨heq, hlt⟩
      · exact .inl hlt
      · refine .inr ⟨heq, ?_⟩
        rcases hnext with hn | ⟨hn, -⟩ <;> omega
    · rw [hep] at hc
      have hp : p ≠ state.nextPosition := by
        rcases h.below _ p c hc with hlt | ⟨-, hlt⟩ <;> omega
      obtain ⟨r', hr', hcnt⟩ := hback p r hp hr
      rw [h.agree p r' c hr' hc, hcnt]
    · rw [hep]
      have hold : p < state.nextPosition → ∃ c, ledger state.streamEpoch p c := by
        intro hlt
        rcases h.cover p h1 hlt with hc | hmem
        · exact hc
        · obtain ⟨r, hr⟩ := mem_iff_getElem?.1 hmem
          exact ⟨r.content, hhld p r hr⟩
      rcases hnext with hn | ⟨hn, hmem⟩
      · exact .inl (hold (by omega))
      rcases Nat.lt_or_ge p state.nextPosition with hlt | hge
      · exact .inl (hold hlt)
      · obtain rfl : p = state.nextPosition := by omega
        exact .inr hmem
  · have hnone : ∀ p c, ¬ledger (state.streamEpoch + 1) p c := by
      intro p c hc
      rcases h.below _ p c hc with hlt | ⟨heq, -⟩ <;> omega
    refine ⟨fun epoch p c hc => ?_, fun p r c hr hc => ?_, fun p h1 hp => ?_⟩
    · rw [hep]
      rcases h.below epoch p c hc with hlt | ⟨heq, -⟩
      · exact .inl (by omega)
      · exact .inl (by omega)
    · rw [hep] at hc
      exact absurd hc (hnone p c)
    · omega

theorem Tracks.observe (h : ledger.Tracks state) (inv : SpoolInv state) :
    (ledger.observe state).Tracks state := by
  refine ⟨fun epoch p c hc => ?_, fun p r c hr hc => ?_, fun p h1 hp => ?_⟩
  · rcases hc with hc | ⟨heq, r, hr, -⟩
    · exact h.below epoch p c hc
    · exact .inr ⟨heq, ((inv.contiguous p).1 (mem_of_getElem? hr)).2⟩
  · rcases hc with hc | ⟨-, r', hr', hcnt⟩
    · exact h.agree p r c hr hc
    · rw [hr] at hr'
      cases hr'
      exact hcnt.symm
  · rcases h.cover p h1 hp with ⟨c, hc⟩ | hmem
    · exact .inl ⟨c, .inl hc⟩
    · exact .inr hmem

theorem Ok.observe (hok : ledger.Ok) (h : ledger.Tracks state) (inv : SpoolInv state) :
    (ledger.observe state).Ok := by
  refine ⟨fun epoch p c c' hc hc' => ?_, fun epoch p c hc => ?_, fun epoch p c hc q h1 hq => ?_⟩
  · rcases hc with hc | ⟨rfl, r, hr, rfl⟩
    · rcases hc' with hc' | ⟨rfl, r', hr', rfl⟩
      · exact hok.unique epoch p c c' hc hc'
      · exact h.agree p r' c hr' hc
    rcases hc' with hc' | ⟨-, r', hr', rfl⟩
    · exact (h.agree p r c' hr hc').symm
    · rw [hr] at hr'
      cases hr'
      rfl
  · rcases hc with hc | ⟨rfl, r, hr, -⟩
    · exact hok.pos epoch p c hc
    · have := (inv.contiguous p).1 (mem_of_getElem? hr)
      have := inv.acked_lt
      omega
  · rcases hc with hc | ⟨rfl, r, hr, -⟩
    · obtain ⟨c', hc'⟩ := hok.consecutive epoch p c hc q h1 hq
      exact ⟨c', .inl hc'⟩
    have hp := ((inv.contiguous p).1 (mem_of_getElem? hr)).2
    rcases h.cover q h1 (by omega) with ⟨c', hc'⟩ | hmem
    · exact ⟨c', .inl hc'⟩
    · obtain ⟨r', hr'⟩ := mem_iff_getElem?.1 hmem
      exact ⟨r'.content, .inr ⟨rfl, r', hr', rfl⟩⟩

/-- A change of capacity does not touch epoch, positions or records. -/
theorem Tracks.withCapacity (h : ledger.Tracks state) (capacity : ℕ) :
    ledger.Tracks { state with capacity := capacity } :=
  ⟨h.below, h.agree, h.cover⟩

end Ledger

end AetherEdge.CloudLink
