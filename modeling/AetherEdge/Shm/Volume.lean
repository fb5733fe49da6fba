import AetherEdge.Dataplane.Segment

/-!
# The files behind a canonical path

A plane of the shared memory is the file that its canonical path names. A replacement is staged
under another name and renamed over the path; mappings of the file that was there go on showing
it. A `Volume` has the contents of every file that has been at the path, by inode, and the inode
that is there now. A staged file is no part of it before the rename.

The functions are those of `SlotWriter` that look at the path
(`crates/aether-dataplane/src/core/writer.rs`), with `commit_generation_swap_locked`
(`core/config.rs`). An error that the operating system may return at a call is an argument.
-/

namespace AetherEdge.Shm

open Dataplane

/-- Files by inode, and the path. -/
structure Volume where
  inodes : ℕ → Segment
  /-- the inode of the next file -/
  next : ℕ
  canonical : Option ℕ
  canonical_lt : ∀ inode, canonical = some inode → inode < next

/-- `SlotWriter`: the inode that it maps. -/
structure SlotWriter where
  inode : ℕ
  slotCount : ℕ
  deriving DecidableEq, Repr

namespace Volume

/-- A call of the operating system that fails if it is told to. -/
def attempt (context : String) : Option IoError → Except DataplaneError Unit
  | none => .ok ()
  | some source => .error (.io context source)

@[simp] theorem attempt_none (context : String) : attempt context none = .ok () := rfl

/-- A write to a file. -/
def modify (volume : Volume) (inode : ℕ) (change : Segment → Segment) : Volume :=
  { volume with inodes := Function.update volume.inodes inode (change (volume.inodes inode)) }

/-- A new generation in the header. -/
def setGeneration (volume : Volume) (inode : ℕ) (generation : UInt64) : Volume :=
  volume.modify inode fun file =>
    { file with header := { file.header with writerGeneration := generation } }

/-- The rename in `commit_generation_swap_locked` (`config.rs:183-197`). -/
def rename (volume : Volume) (staging : Segment) : Volume where
  inodes := Function.update volume.inodes volume.next staging
  next := volume.next + 1
  canonical := some volume.next
  canonical_lt inode h := by
    rw [← Option.some.inj h]
    exact Nat.lt_succ_self _

variable (path : String) (volume : Volume)

/-- `validate_authoritative_path` (`writer.rs:360-375`). -/
def validateAuthoritativePath (writer : SlotWriter) (fault : Option IoError) :
    Except DataplaneError Unit := do
  attempt s!"stat authoritative SHM path {debugStr path}" fault
  match volume.canonical with
  | none => .error (.io s!"stat authoritative SHM path {debugStr path}"
      ⟨.other, "No such file or directory (os error 2)"⟩)
  | some inode =>
    if inode = writer.inode then .ok ()
    else .error (.invalidLayout
      s!"mapped SHM file at {debugStr path} is no longer the authoritative path target")

/-- `begin_generation_swap` (`writer.rs:382-417`), under the exclusive lease. -/
def beginGenerationSwap (writer : SlotWriter) (fault : Option IoError) :
    Except DataplaneError Volume := do
  validateAuthoritativePath path volume writer fault
  let generation := (volume.inodes writer.inode).header.writerGeneration
  if stable generation = false then
    .error (.invalidLayout
      s!"writer generation {generation} is not stable before canonical replacement")
  else .ok (volume.setGeneration writer.inode (invalidated generation))

/-- `SlotWriter::open_existing` on the canonical path. -/
def openExisting (expectedSlotCount : ℕ) (expectedLayoutHash : UInt64) (fault : Option IoError) :
    Except DataplaneError SlotWriter := do
  attempt s!"open existing SHM file {debugStr path}" fault
  match volume.canonical with
  | none => .error (.io s!"open existing SHM file {debugStr path}"
      ⟨.other, "No such file or directory (os error 2)"⟩)
  | some inode => do
    let _ ← Segment.openExisting path (volume.inodes inode) expectedSlotCount expectedLayoutHash
    .ok ⟨inode, expectedSlotCount⟩

/-- `open_canonical_for_replacement` (`writer.rs:261-287`). -/
def openCanonicalForReplacement (fault : Option IoError) :
    Except DataplaneError (Option SlotWriter) := do
  attempt s!"open SHM file {debugStr path}" fault
  match volume.canonical with
  | none => .ok none
  | some inode => do
    let mapping ← Segment.openReader path (volume.inodes inode)
    if stable mapping.header.writerGeneration = false then .ok none
    else
      let writer ← openExisting path volume mapping.header.slotCount.toNat
        mapping.header.layoutHash none
      .ok (some writer)

variable {path volume}

@[simp] theorem modify_self (inode : ℕ) (change : Segment → Segment) :
    (volume.modify inode change).inodes inode = change (volume.inodes inode) :=
  Function.update_self ..

theorem modify_of_ne {inode inode' : ℕ} (h : inode' ≠ inode) (change : Segment → Segment) :
    (volume.modify inode change).inodes inode' = volume.inodes inode' :=
  Function.update_of_ne h ..

theorem setGeneration_restore (inode : ℕ) (generation : UInt64) :
    (volume.setGeneration inode generation).setGeneration inode
      (volume.inodes inode).header.writerGeneration = volume := by
  unfold setGeneration modify
  simp only [Function.update_self, Function.update_idem]
  rw [Function.update_eq_self]

@[simp] theorem rename_new (staging : Segment) :
    (volume.rename staging).inodes volume.next = staging := Function.update_self ..

theorem rename_of_ne {inode : ℕ} (h : inode ≠ volume.next) (staging : Segment) :
    (volume.rename staging).inodes inode = volume.inodes inode := Function.update_of_ne h ..

theorem canonical_ne_next : volume.canonical ≠ some volume.next :=
  fun h => Nat.lt_irrefl _ (volume.canonical_lt _ h)

variable {fault : Option IoError} {writer : SlotWriter}

theorem validateAuthoritativePath_eq_ok_iff :
    validateAuthoritativePath path volume writer fault = .ok () ↔
      fault = none ∧ volume.canonical = some writer.inode := by
  unfold validateAuthoritativePath
  cases fault with
  | some source => simp [attempt, bind, Except.bind]
  | none =>
    rw [attempt_none, ok_bind]
    cases hcan : volume.canonical with
    | none => simp
    | some inode =>
      by_cases heq : inode = writer.inode
      · simp [heq]
      · simp [heq]

/-- A swap begins on the stable file at the path, and makes it unstable. -/
theorem beginGenerationSwap_eq_ok_iff {result : Volume} :
    beginGenerationSwap path volume writer fault = .ok result ↔
      fault = none ∧ volume.canonical = some writer.inode ∧
        stable (volume.inodes writer.inode).header.writerGeneration = true ∧
        result = volume.setGeneration writer.inode
          (invalidated (volume.inodes writer.inode).header.writerGeneration) := by
  unfold beginGenerationSwap
  rw [bind_eq_ok, exists_unit, validateAuthoritativePath_eq_ok_iff, and_assoc]
  refine and_congr_right fun _ => and_congr_right fun _ => ?_
  by_cases hstab : stable (volume.inodes writer.inode).header.writerGeneration = false
  · rw [if_pos hstab]
    constructor
    · intro h; cases h
    · intro h
      rw [hstab] at h
      cases h.1
  · rw [if_neg hstab]
    constructor
    · intro h
      exact ⟨Bool.eq_true_of_not_eq_false hstab, (Except.ok.inj h).symm⟩
    · rintro ⟨-, rfl⟩
      rfl

theorem openExisting_eq_ok_iff {slotCount : ℕ} {layoutHash : UInt64} :
    openExisting path volume slotCount layoutHash fault = .ok writer ↔
      fault = none ∧ ∃ inode, volume.canonical = some inode ∧
        (volume.inodes inode).WellFormed ∧
        (volume.inodes inode).header.slotCount.toNat = slotCount ∧
        (volume.inodes inode).header.layoutHash = layoutHash ∧
        stable (volume.inodes inode).header.writerGeneration = true ∧
        writer = ⟨inode, slotCount⟩ := by
  unfold openExisting
  cases fault with
  | some source => simp [attempt, bind, Except.bind]
  | none =>
    rw [attempt_none, ok_bind]
    rcases hcan : volume.canonical with _ | inode
    · simp
    simp only [bind_eq_ok, Segment.openExisting_eq_ok_iff, Option.some.injEq, true_and,
      Except.ok.injEq, exists_eq_left']
    constructor
    · rintro ⟨mapping, ⟨hwf, hcnt, hhash, hstab, -⟩, hwtr⟩
      exact ⟨hwf, hcnt, hhash, hstab, hwtr.symm⟩
    · rintro ⟨hwf, hcnt, hhash, hstab, hwtr⟩
      exact ⟨_, ⟨hwf, hcnt, hhash, hstab, rfl⟩, hwtr.symm⟩

/-! ## Replacing the canonical file -/

/-- `GenerationInvalidation`: the file that has been made unstable, and its
    generation before. -/
structure GenerationInvalidation where
  inode : ℕ
  originalGeneration : UInt64

/-- The calls of a publication that the operating system may fail. -/
structure PublishFaults where
  lock : Option IoError := none
  create : Option IoError := none
  flush : Option IoError := none
  discover : Option IoError := none
  stat : Option IoError := none
  rename : Option IoError := none
  reopen : Option IoError := none
  confirm : Option IoError := none

variable (mapError : DataplaneError → PortError)

/-- An error at the port. -/
def port {α : Type} : Except DataplaneError α → PortResult α
  | .ok a => .ok a
  | .error error => .error (mapError error)

variable (path volume) in
/-- The writer of the previous file: the one in use, or one for the file at the path. -/
def previousWriter (previous : Option SlotWriter) (faults : PublishFaults) :
    PortResult (Option SlotWriter) :=
  match previous with
  | some writer => .ok (some writer)
  | none => port mapError (openCanonicalForReplacement path volume faults.discover)

variable (path volume) in
/-- The swap in `publish_health_writer` (`health.rs:385-445`). -/
def invalidatePrevious (previous : Option SlotWriter) (faults : PublishFaults) :
    PortResult (Option GenerationInvalidation × Volume) := do
  let writer ← previousWriter path volume mapError previous faults
  match writer with
  | none => .ok (none, volume)
  | some writer => do
    let swapped ← port mapError (beginGenerationSwap path volume writer faults.stat)
    .ok (some ⟨writer.inode, (volume.inodes writer.inode).header.writerGeneration⟩, swapped)

variable (volume) in
/-- The drop of an invalidation that has not been committed. -/
def rollBack : Option GenerationInvalidation → Volume
  | none => volume
  | some invalidation => volume.setGeneration invalidation.inode invalidation.originalGeneration

variable (path volume) in
/-- Invalidation, rename and commit. -/
def replaceCanonical (previous : Option SlotWriter) (staging : Segment) (faults : PublishFaults) :
    PortResult Unit × Volume :=
  match invalidatePrevious path volume mapError previous faults with
  | .error error => (.error error, volume)
  | .ok (invalidation, swapped) =>
    match faults.rename with
    | some source =>
      (.error (mapError (.io s!"rename SHM generation to {debugStr path}" source)),
        swapped.rollBack invalidation)
    | none => (.ok (), swapped.rename staging)

variable {mapError}

/-- The volume whose canonical file may be renamed over: nothing else has changed, and its
    canonical file is unstable. -/
structure Invalidated (volume swapped : Volume) : Prop where
  next : swapped.next = volume.next
  canonical : swapped.canonical = volume.canonical
  file : ∀ inode, swapped.inodes inode = volume.inodes inode ∨
    volume.canonical = some inode ∧ swapped.inodes inode =
      { volume.inodes inode with header :=
        { (volume.inodes inode).header with
          writerGeneration := invalidated (volume.inodes inode).header.writerGeneration } }
  unstable : ∀ inode, volume.canonical = some inode →
    stable (swapped.inodes inode).header.writerGeneration = false

theorem port_eq_ok_iff {α : Type} {x : Except DataplaneError α} {a : α} :
    port mapError x = .ok a ↔ x = .ok a := by
  cases x with
  | error | ok => simp [port]

theorem Invalidated.setGeneration {inode : ℕ} (h : volume.canonical = some inode) :
    Invalidated volume (volume.setGeneration inode
      (invalidated (volume.inodes inode).header.writerGeneration)) where
  next := rfl
  canonical := rfl
  file inode' := by
    by_cases hne : inode' = inode
    · subst hne
      exact .inr ⟨h, modify_self _ _⟩
    · exact .inl (modify_of_ne hne _)
  unstable inode' h' := by
    obtain rfl := Option.some.inj (h.symm.trans h')
    rw [Volume.setGeneration, modify_self]
    exact not_stable_invalidated _

variable {previous : Option SlotWriter}

/-- What an invalidation leaves, that dropping it undoes it, and that it is one of the file at the
    path. -/
theorem invalidatePrevious_eq_ok {faults : PublishFaults}
    {invalidation : Option GenerationInvalidation} {swapped : Volume}
    (h : invalidatePrevious path volume mapError previous faults = .ok (invalidation, swapped)) :
    Invalidated volume swapped ∧ swapped.rollBack invalidation = volume ∧
      (∀ writer, previous = some writer → volume.canonical = some writer.inode) ∧
      ∀ i, invalidation = some i → volume.canonical = some i.inode := by
  unfold invalidatePrevious at h
  obtain ⟨found, hfnd, h⟩ := bind_eq_ok.1 h
  cases found with
  | none =>
    obtain ⟨rfl, rfl⟩ := Prod.mk.inj (Except.ok.inj h)
    refine ⟨⟨rfl, rfl, fun _ => .inl rfl, fun inode hcan => ?_⟩, rfl, ?_, nofun⟩
    · -- nothing was found at the path, or an unstable file
      cases previous with
      | some writer => cases hfnd
      | none =>
        simp only [previousWriter, openCanonicalForReplacement, port_eq_ok_iff, bind_eq_ok, exists_unit, hcan] at hfnd
        obtain ⟨-, mapping, hmap, hfnd⟩ := hfnd
        obtain ⟨-, rfl⟩ := Segment.openReader_eq_ok_iff.1 hmap
        by_contra hstab
        rw [if_neg hstab, bind_eq_ok] at hfnd
        obtain ⟨writer, -, hfnd⟩ := hfnd
        cases hfnd
    · rintro writer rfl
      cases hfnd
  | some writer =>
    obtain ⟨swapped', hswap, h⟩ := bind_eq_ok.1 h
    obtain ⟨rfl, rfl⟩ := Prod.mk.inj (Except.ok.inj h)
    obtain ⟨-, hcan, -, rfl⟩ := beginGenerationSwap_eq_ok_iff.1 (port_eq_ok_iff.1 hswap)
    refine ⟨.setGeneration hcan, setGeneration_restore _ _, ?_, ?_⟩
    · rintro writer' rfl
      obtain rfl := Option.some.inj (Except.ok.inj hfnd)
      exact hcan
    · rintro i hi
      cases hi
      exact hcan

/-- A segment at the path is opened for its replacement if it is stable. -/
theorem openCanonicalForReplacement_of_wellFormed
    (h : ∀ inode, volume.canonical = some inode → (volume.inodes inode).WellFormed) :
    ∃ found, openCanonicalForReplacement path volume none = .ok found ∧
      ∀ writer, found = some writer → volume.canonical = some writer.inode ∧
        stable (volume.inodes writer.inode).header.writerGeneration = true := by
  unfold openCanonicalForReplacement
  rw [attempt_none, ok_bind]
  rcases hcan : volume.canonical with _ | inode
  · exact ⟨none, rfl, fun _ hnone => by cases hnone⟩
  have hwf := h inode hcan
  dsimp only
  rw [Segment.openReader_eq_ok_iff.2 ⟨hwf, rfl⟩, ok_bind]
  by_cases hstab : stable (volume.inodes inode).header.writerGeneration = true
  · have hopen : openExisting path volume (volume.inodes inode).header.slotCount.toNat
        (volume.inodes inode).header.layoutHash none = .ok ⟨inode, _⟩ :=
      openExisting_eq_ok_iff.2 ⟨rfl, inode, hcan, hwf, rfl, rfl, hstab, rfl⟩
    rw [if_neg (by simp [hstab]), hopen, ok_bind]
    refine ⟨_, rfl, ?_⟩
    rintro writer hwtr
    cases hwtr
    exact ⟨rfl, hstab⟩
  · rw [if_pos (Bool.eq_false_of_not_eq_true hstab)]
    exact ⟨none, rfl, fun _ hnone => by cases hnone⟩

theorem invalidatePrevious_of_found {faults : PublishFaults} {found : Option SlotWriter}
    (hfnd : previousWriter path volume mapError previous faults = .ok found)
    (hstat : faults.stat = none)
    (h : ∀ writer, found = some writer → volume.canonical = some writer.inode ∧ stable
      (volume.inodes writer.inode).header.writerGeneration = true) :
    ∃ result, invalidatePrevious path volume mapError previous faults = .ok result := by
  unfold invalidatePrevious
  rw [hfnd, ok_bind]
  rcases found with _ | writer
  · exact ⟨_, rfl⟩
  obtain ⟨hcan, hstab⟩ := h writer rfl
  have hswap : port mapError (beginGenerationSwap path volume writer faults.stat) = .ok _ :=
    port_eq_ok_iff.2 (beginGenerationSwap_eq_ok_iff.2 ⟨hstat, hcan, hstab, rfl⟩)
  dsimp only
  rw [hswap, ok_bind]
  exact ⟨_, rfl⟩

/-- A replacement fails and leaves everything as it was, or renames the new file over one that
    is unstable. -/
theorem replaceCanonical_cases (mapError : DataplaneError → PortError) (path : String)
    (volume : Volume) (previous : Option SlotWriter) (staging : Segment) (faults : PublishFaults) :
    (∃ error, replaceCanonical path volume mapError previous staging faults =
      (.error error, volume)) ∨
    ∃ swapped, Invalidated volume swapped ∧
      (∀ writer, previous = some writer → volume.canonical = some writer.inode) ∧
      replaceCanonical path volume mapError previous staging faults =
        (.ok (), swapped.rename staging) := by
  unfold replaceCanonical
  rcases hinval : invalidatePrevious path volume mapError previous faults with error | result
  · exact .inl ⟨error, rfl⟩
  obtain ⟨invalidation, swapped⟩ := result
  obtain ⟨hinvalidated, hroll, hprev, -⟩ := invalidatePrevious_eq_ok hinval
  cases faults.rename with
  | some source => exact .inl ⟨_, congrArg _ hroll⟩
  | none => exact .inr ⟨swapped, hinvalidated, hprev, rfl⟩

end Volume

/-- `validate_topology_publication_epoch` (`topology_commit.rs:22-30`). -/
def validateTopologyPublicationEpoch (publicationEpoch : UInt64) : PortResult Unit :=
  if publicationEpoch = 0 ∨ publicationEpoch = 0xffffffffffffffff then
    .error ⟨.invalidData,
      "coordinated SHM topology publication requires a non-zero, non-reserved epoch"⟩
  else .ok ()

theorem validateTopologyPublicationEpoch_eq_ok_iff {publicationEpoch : UInt64} :
    validateTopologyPublicationEpoch publicationEpoch = .ok () ↔
      publicationEpoch ≠ 0 ∧ publicationEpoch ≠ 0xffffffffffffffff := by
  unfold validateTopologyPublicationEpoch
  by_cases h : publicationEpoch = 0 ∨ publicationEpoch = 0xffffffffffffffff
  · rw [if_pos h]
    constructor
    · intro h'; cases h'
    · rintro ⟨hzero, hmax⟩
      rcases h with h | h
      · exact absurd h hzero
      · exact absurd h hmax
  · rw [if_neg h]
    exact ⟨fun _ => not_or.1 h, fun _ => rfl⟩

end AetherEdge.Shm
