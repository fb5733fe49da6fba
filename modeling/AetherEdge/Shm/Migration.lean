import AetherEdge.Shm.Volume

/-!
# Staging a new file

What the two planes have in common before a new file is renamed into place
(`libs/aether-shm-bridge/src/runtime.rs`, `health.rs`): the file is created, the live state of
the generation in use is copied into it, key by key, and it takes over the heartbeat.

* `migrate_spec`: what is copied;
* `migrate_of_readable`: the copy fails only at a key whose sample cannot be read;
* `Created`: the header of a file that has only been filled.
-/

namespace AetherEdge.Shm

open Dataplane Volume List

variable {κ : Type}

/-- `update_heartbeat` (`writer.rs:472-476`). -/
def updateHeartbeat (file : Segment) (timestampMs : UInt64) : Segment :=
  { file with header := { file.header with writerHeartbeat := timestampMs } }

/-- A copy into the new file. -/
def receive (staging : Segment) (slot : ℕ) : Option SlotRead → Segment
  | none => staging
  | some sample => staging.setDirect slot sample

/-- The loop of a migration: the sample of each key, to its slot. -/
def migrate (sampleOf : κ → PortResult (Option SlotRead)) :
    List (ℕ × κ) → Segment → PortResult Segment
  | [], staging => .ok staging
  | (target, key) :: rest, staging => do
    let sample ← sampleOf key
    migrate sampleOf rest (receive staging target sample)

@[simp] theorem receive_header (staging : Segment) (slot : ℕ) (sample : Option SlotRead) :
    (receive staging slot sample).header = staging.header := by
  cases sample with
  | none => rfl
  | some sample => rfl

@[simp] theorem receive_len (staging : Segment) (slot : ℕ) (sample : Option SlotRead) :
    (receive staging slot sample).len = staging.len := by
  cases sample with
  | none => rfl
  | some sample => rfl

theorem receive_slots (staging : Segment) (slot : ℕ) (sample : Option SlotRead) :
    (receive staging slot sample).slots slot =
      sample.elim (staging.slots slot) (staging.slots slot).set := by
  cases sample with
  | none => rfl
  | some sample => exact Function.update_self ..

theorem receive_slots_of_ne {slot slot' : ℕ} (h : slot' ≠ slot) (staging : Segment)
    (sample : Option SlotRead) :
    (receive staging slot sample).slots slot' = staging.slots slot' := by
  cases sample with
  | none => rfl
  | some sample => exact Function.update_of_ne h ..

variable {sampleOf : κ → PortResult (Option SlotRead)}

/-- The migration copies the sample of each key to its own slot, and nothing else. -/
theorem migrate_spec {pairs : List (ℕ × κ)} (hpairs : (pairs.map Prod.fst).Nodup)
    {staging result : Segment} (h : migrate sampleOf pairs staging = .ok result) :
    result.header = staging.header ∧ result.len = staging.len ∧
      (∀ slot, slot ∉ pairs.map Prod.fst → result.slots slot = staging.slots slot) ∧
      ∀ slot key, (slot, key) ∈ pairs → ∃ sample, sampleOf key = .ok sample ∧
        result.slots slot = (receive staging slot sample).slots slot := by
  induction pairs generalizing staging with
  | nil =>
    cases h
    exact ⟨rfl, rfl, fun _ _ => rfl, fun _ _ hmem => by cases hmem⟩
  | cons pair rest ih =>
    obtain ⟨target, key⟩ := pair
    obtain ⟨sample, hsmp, h⟩ := bind_eq_ok.1 h
    rw [map_cons, nodup_cons] at hpairs
    obtain ⟨hhdr, hlen, hoth, hcop⟩ := ih hpairs.2 h
    refine ⟨by rw [hhdr, receive_header], by rw [hlen, receive_len], ?_, ?_⟩
    · intro slot hslot
      rw [map_cons, mem_cons, not_or] at hslot
      rw [hoth slot hslot.2, receive_slots_of_ne hslot.1]
    · intro slot key' hmem
      rcases mem_cons.1 hmem with heq | hrest
      · obtain ⟨rfl, rfl⟩ := Prod.mk.inj heq
        exact ⟨sample, hsmp, hoth slot hpairs.1⟩
      obtain ⟨sample', hsmp', hslot⟩ := hcop slot key' hrest
      have hne : slot ≠ target := by
        rintro rfl
        exact hpairs.1 (mem_map.2 ⟨_, hrest, rfl⟩)
      refine ⟨sample', hsmp', ?_⟩
      rw [hslot, receive_slots, receive_slots, receive_slots_of_ne hne]

/-- The migration fails only at a sample that cannot be read. -/
theorem migrate_of_readable {pairs : List (ℕ × κ)}
    (h : ∀ slot key, (slot, key) ∈ pairs → ∃ sample, sampleOf key = .ok sample)
    (staging : Segment) : ∃ result, migrate sampleOf pairs staging = .ok result := by
  induction pairs generalizing staging with
  | nil => exact ⟨staging, rfl⟩
  | cons pair rest ih =>
    obtain ⟨target, key⟩ := pair
    obtain ⟨sample, hsmp⟩ := h target key mem_cons_self
    obtain ⟨result, hres⟩ :=
      ih (fun slot key hmem => h slot key (mem_cons_of_mem _ hmem))
        (receive staging target sample)
    exact ⟨result, bind_eq_ok.2 ⟨sample, hsmp, hres⟩⟩

/-! ## The header of a new file -/

/-- The file has the size and the header of a new one, up to the heartbeat. -/
structure Created (slotCount : ℕ) (layoutHash publicationEpoch generation : UInt64)
    (file : Segment) : Prop where
  len : file.len = calculateFileSize slotCount
  header : ∃ heartbeat, file.header =
    { (Segment.fresh slotCount layoutHash publicationEpoch generation).header with
      writerHeartbeat := heartbeat }

section Created

variable {count : ℕ} {hash epoch generation : UInt64} {file : Segment}

theorem created_fresh : Created count hash epoch generation
    (Segment.fresh count hash epoch generation) := ⟨rfl, 0, rfl⟩

variable (h : Created count hash epoch generation file)

include h

theorem Created.of_eq {result : Segment} (hhdr : result.header = file.header)
    (hlen : result.len = file.len) : Created count hash epoch generation result :=
  ⟨hlen.trans h.len, by rw [hhdr]; exact h.header⟩

theorem Created.updateHeartbeat (timestampMs : UInt64) :
    Created count hash epoch generation
      (updateHeartbeat file timestampMs) := by
  obtain ⟨heartbeat, hhdr⟩ := h.header
  refine ⟨h.len, timestampMs, ?_⟩
  rw [Shm.updateHeartbeat, hhdr]

theorem Created.publicationEpoch : file.header.publicationEpoch = epoch := by
  obtain ⟨heartbeat, hhdr⟩ := h.header
  rw [hhdr]
  rfl

theorem Created.layoutHash : file.header.layoutHash = hash := by
  obtain ⟨heartbeat, hhdr⟩ := h.header
  rw [hhdr]
  rfl

theorem Created.writerGeneration : file.header.writerGeneration = generation := by
  obtain ⟨heartbeat, hhdr⟩ := h.header
  rw [hhdr]
  rfl

theorem Created.slotCount (hcnt : count < 2 ^ 32) : file.header.slotCount.toNat = count := by
  obtain ⟨heartbeat, hhdr⟩ := h.header
  rw [hhdr]
  exact UInt32.toNat_ofNat_of_lt' hcnt

theorem Created.wellFormed (hcnt : count < 2 ^ 32) (hep : epoch ≠ 0) : file.WellFormed := by
  have hslots := h.slotCount hcnt
  obtain ⟨heartbeat, hhdr⟩ := h.header
  refine ⟨by rw [hhdr]; rfl, by rw [hhdr]; rfl, ?_, ?_⟩
  · rw [hslots]
    exact h.len
  · rw [h.publicationEpoch]
    exact hep

end Created

end AetherEdge.Shm
