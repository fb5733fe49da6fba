import AetherEdge.Shm.Health
import AetherEdge.Shm.Rebuild

/-!
# Replacing the file of a plane, step by step

A publication stages the new file, makes the file at the path unstable, renames the new one over
it and opens it again (`publish_generation` of `runtime.rs`, `publish_health_writer` of `health.rs`).
Here these are separate steps, between which the process may die: the exclusive lease is then free
again, and nothing is rolled back. Processes with a generation of the file at the path store into it
while nobody replaces it.

`Publisher` is what the two planes have in common, and `pointPublisher` and `healthPublisher` are
the planes.

* `run_publish`: without interruption the steps are the publication;
* `rebuild_by_steps`, `rebuildHealth_by_steps`: and so they are the `rebuild` of each plane;
* `swapStep_cases`: what a step does to the files.
-/

namespace AetherEdge.Shm

open Transition Dataplane Volume Option

/-- The functions of a plane. -/
structure Publisher where
  Generation : Type
  Request : Type
  /-- what has a slot -/
  Key : Type
  path : String
  mapError : DataplaneError → PortError
  writer : Generation → SlotWriter
  layoutHash : Generation → UInt64
  slotFor : Generation → Key → Option ℕ
  epoch : Request → UInt64
  faults : Request → PublishFaults
  /-- the new file, from the files that are there and the generation in use -/
  stage : Volume → Option Generation → Request → PortResult Segment
  /-- the generation of the file at the path -/
  compose : Volume → Request → PortResult Generation
  staged : ∀ {volume current request staging}, stage volume current request = .ok staging →
    staging.WellFormed ∧ staging.header.publicationEpoch = epoch request ∧
      stable staging.header.writerGeneration = true
  composed : ∀ {volume request generation}, compose volume request = .ok generation →
    volume.canonical = some (writer generation).inode ∧
      (volume.inodes (writer generation).inode).header.layoutHash = layoutHash generation

/-- How far a publication is. -/
inductive SwapPhase where
  | staged
  | invalidated (invalidation : Option GenerationInvalidation)
  | renamed

/-- A publication under way, under the exclusive lease. -/
structure Replacing (P : Publisher) where
  process : ℕ
  /-- the generation that the process had in use -/
  previous : Option P.Generation
  request : P.Request
  staging : Segment
  phase : SwapPhase

/-- The files of a plane, the generation in use in each process, and the publication under way. -/
structure Plane (P : Publisher) where
  volume : Volume
  handles : ℕ → Option P.Generation
  replacing : Option (Replacing P)

/-- A plane without files. -/
def Plane.initial (P : Publisher) : Plane P where
  volume := ⟨fun _ => Segment.fresh 0 0 0 0, 0, none, fun _ h => by cases h⟩
  handles _ := none
  replacing := none

/-- An access of a `set`. -/
inductive SlotAccess where
  | bump
  | store (field : FieldStore)
  deriving DecidableEq

/-- A slot after an access. -/
def SlotAccess.apply (slot : PointSlot) : SlotAccess → PointSlot
  | .bump => ⟨pointSlot.bump slot.seq, slot.data⟩
  | .store field => ⟨slot.seq, field.apply slot.data⟩

/-- An access to a slot of a file. -/
def accessSlot (file : Segment) (slot : ℕ) (access : SlotAccess) : Segment :=
  { file with slots := Function.update file.slots slot (access.apply (file.slots slot)) }

theorem accessSlot_self (file : Segment) (slot : ℕ) (access : SlotAccess) :
    (accessSlot file slot access).slots slot = access.apply (file.slots slot) :=
  Function.update_self ..

theorem accessSlot_of_ne {slot slot' : ℕ} (h : slot' ≠ slot) (file : Segment)
    (access : SlotAccess) :
    (accessSlot file slot access).slots slot' = file.slots slot' :=
  Function.update_of_ne h ..

/-- The steps of a plane. -/
inductive SwapOp (P : Publisher) where
  /-- a new handle has no generation in use, whatever else the process has -/
  | stage (process : ℕ) (fresh : Bool) (request : P.Request)
  | advance
  | access (process : ℕ) (key : P.Key) (access : SlotAccess)
  | heartbeat (process : ℕ) (timestampMs : UInt64)
  /-- a process that has not put the file in place opens it, under no lease
      (`open_generation`) -/
  | attach (process : ℕ) (request : P.Request)

namespace Plane

variable {P : Publisher}

/-- The beginning of a publication. -/
def stage (plane : Plane P) (process : ℕ) (fresh : Bool) (request : P.Request) : Plane P :=
  match plane.replacing with
  | some _ => plane
  | none =>
    let previous := if fresh then none else plane.handles process
    match P.stage plane.volume previous request with
    | .error _ => plane
    | .ok staging =>
      { plane with replacing := some ⟨process, previous, request, staging, .staged⟩ }

/-- The next step of a publication. -/
def advanceTo (plane : Plane P) (r : Replacing P) : Plane P :=
  match r.phase with
  | .staged =>
    match invalidatePrevious P.path plane.volume P.mapError (r.previous.map P.writer)
        (P.faults r.request) with
    | .error _ => { plane with replacing := none }
    | .ok (invalidation, swapped) =>
      { plane with
        volume := swapped
        replacing := some { r with phase := .invalidated invalidation } }
  | .invalidated invalidation =>
    match (P.faults r.request).rename with
    | some _ => { plane with volume := plane.volume.rollBack invalidation, replacing := none }
    | none =>
      { plane with
        volume := plane.volume.rename r.staging
        replacing := some { r with phase := .renamed } }
  | .renamed =>
    match P.compose plane.volume r.request with
    | .error _ => { plane with replacing := none }
    | .ok generation =>
      { plane with
        handles := Function.update plane.handles r.process (some generation)
        replacing := none }

/-- The next step of a publication. -/
def advance (plane : Plane P) : Plane P :=
  match plane.replacing with
  | none => plane
  | some r => plane.advanceTo r

/-- The generation that a process may store into: its file is at the path, and nobody replaces
    it. -/
def authorized (plane : Plane P) (process : ℕ) : Option P.Generation := do
  let generation ← plane.handles process
  if plane.replacing.isNone ∧ plane.volume.canonical = some (P.writer generation).inode then
    some generation
  else none

/-- An access of `set_online` (`health.rs:305-314`). -/
def store (plane : Plane P) (process : ℕ) (key : P.Key) (access : SlotAccess) : Plane P :=
  match plane.authorized process with
  | none => plane
  | some generation =>
    match P.slotFor generation key with
    | none => plane
    | some slot =>
      { plane with
        volume := plane.volume.modify (P.writer generation).inode (accessSlot · slot access) }

/-- `try_update_heartbeat` (`health.rs:181-193`). -/
def heartbeat (plane : Plane P) (process : ℕ) (timestampMs : UInt64) : Plane P :=
  match plane.authorized process with
  | none => plane
  | some generation =>
    { plane with
      volume := plane.volume.modify (P.writer generation).inode (updateHeartbeat · timestampMs) }

/-- A process opens the files. -/
def attach (plane : Plane P) (process : ℕ) (request : P.Request) : Plane P :=
  match P.compose plane.volume request with
  | .error _ => plane
  | .ok generation =>
    { plane with handles := Function.update plane.handles process (some generation) }

/-- A process dies. -/
def crash (plane : Plane P) (process : ℕ) : Plane P where
  volume := plane.volume
  handles := Function.update plane.handles process none
  replacing := plane.replacing.filter (·.process ≠ process)

end Plane

/-- The transition function. -/
def swapStep {P : Publisher} (plane : Plane P) : SwapOp P → Plane P
  | .stage process fresh request => plane.stage process fresh request
  | .advance => plane.advance
  | .access process key access => plane.store process key access
  | .heartbeat process timestampMs => plane.heartbeat process timestampMs
  | .attach process request => plane.attach process request

/-! ## Publications without interruption -/

section Publish

variable {P : Publisher}

variable (P) in
/-- The shape of `publish_generation` and of `publish_health_writer`. -/
def publish (volume : Volume) (previous : Option P.Generation) (request : P.Request) :
    PortResult P.Generation × Volume :=
  match P.stage volume previous request with
  | .error error => (.error error, volume)
  | .ok staging =>
    match replaceCanonical P.path volume P.mapError (previous.map P.writer) staging (P.faults request) with
    | (.error error, volume) => (.error error, volume)
    | (.ok (), volume) => (P.compose volume request, volume)

/-- The handles once a publication has returned. -/
def Plane.settle (plane : Plane P) (process : ℕ) (result : PortResult P.Generation × Volume) :
    Plane P where
  volume := result.2
  handles := match result.1 with
    | .error _ => plane.handles
    | .ok generation => Function.update plane.handles process (some generation)
  replacing := none

theorem run_publish {plane : Plane P} (h : plane.replacing = none) (process : ℕ) (fresh : Bool)
    (request : P.Request) :
    run swapStep plane [.stage process fresh request, .advance, .advance, .advance] =
      plane.settle process
        (publish P plane.volume (if fresh then none else plane.handles process) request) := by
  obtain ⟨volume, handles, replacing⟩ := plane
  obtain rfl : replacing = none := h
  simp only [run_cons, run_nil, swapStep, Plane.stage, publish]
  rcases P.stage volume (if fresh then none else handles process) request with error | staging
  · rfl
  simp only [Plane.advance, Plane.advanceTo, replaceCanonical]
  cases invalidatePrevious P.path volume P.mapError
    ((if fresh then none else handles process).map P.writer) (P.faults request) with
  | error error => rfl
  | ok result =>
    obtain ⟨invalidation, swapped⟩ := result
    dsimp only
    cases (P.faults request).rename with
    | some source => rfl
    | none =>
      dsimp only [Plane.settle]
      cases P.compose (swapped.rename staging) request with
      | error | ok => rfl

end Publish

/-! ## What a step does -/

section Steps

variable {P : Publisher}

/-- What a step does to the files. -/
inductive Swapped (plane : Plane P) : Plane P → Prop where
  /-- the files stay as they are -/
  | quiet {plane' : Plane P} (hvolume : plane'.volume = plane.volume)
      (hreplacing : ∀ r, plane'.replacing = some r → plane.replacing = some r ∨
        r.phase = .staged ∧ P.stage plane.volume r.previous r.request = .ok r.staging)
      (hhandles : ∀ process generation, plane'.handles process = some generation →
        plane.handles process = some generation ∨
          ∃ request, P.compose plane.volume request = .ok generation) :
      Swapped plane plane'
  /-- a slot of the file at the path is accessed -/
  | stored {process : ℕ} {generation : P.Generation} {key : P.Key} {slot : ℕ} {access : SlotAccess}
      (hauthorized : plane.authorized process = some generation)
      (hslot : P.slotFor generation key = some slot) :
      Swapped plane
        { plane with
          volume := plane.volume.modify (P.writer generation).inode (accessSlot · slot access) }
  | beaten {process : ℕ} {generation : P.Generation} {timestampMs : UInt64}
      (hauthorized : plane.authorized process = some generation) :
      Swapped plane
        { plane with
          volume := plane.volume.modify (P.writer generation).inode
            (updateHeartbeat · timestampMs) }
  | invalidated {r : Replacing P} {invalidation : Option GenerationInvalidation}
      {swapped : Volume} (hreplacing : plane.replacing = some r) (hphase : r.phase = .staged)
      (hswapped : Invalidated plane.volume swapped)
      (hinode : ∀ i, invalidation = some i → plane.volume.canonical = some i.inode) :
      Swapped plane
        { plane with
          volume := swapped
          replacing := some { r with phase := .invalidated invalidation } }
  | restored {r : Replacing P} {invalidation : Option GenerationInvalidation}
      (hreplacing : plane.replacing = some r) (hphase : r.phase = .invalidated invalidation) :
      Swapped plane
        { plane with volume := plane.volume.rollBack invalidation, replacing := none }
  | renamed {r : Replacing P} {invalidation : Option GenerationInvalidation}
      (hreplacing : plane.replacing = some r) (hphase : r.phase = .invalidated invalidation) :
      Swapped plane
        { plane with
          volume := plane.volume.rename r.staging
          replacing := some { r with phase := .renamed } }

variable (plane : Plane P)

theorem Swapped.refl : Swapped plane plane :=
  .quiet rfl (fun _ h => .inl h) (fun _ _ h => .inl h)

variable {generation : P.Generation}

theorem authorized_eq_some_iff {plane : Plane P} {process : ℕ} :
    plane.authorized process = some generation ↔
      plane.handles process = some generation ∧ plane.replacing = none ∧
        plane.volume.canonical = some (P.writer generation).inode := by
  unfold Plane.authorized
  rcases plane.handles process with _ | held
  · simp
  simp only [bind_eq_bind, bind_some, isNone_iff_eq_none]
  split_ifs with h
  · constructor
    · intro heq
      cases heq
      exact ⟨rfl, h⟩
    · exact fun heq => heq.1
  · constructor
    · intro heq; cases heq
    · rintro ⟨heq, hcond⟩
      cases heq
      exact absurd hcond h

variable (process : ℕ)

theorem swapped_stage (fresh : Bool) (request : P.Request) :
    Swapped plane (plane.stage process fresh request) := by
  unfold Plane.stage
  cases hrepl : plane.replacing with
  | some r => exact .refl plane
  | none =>
    dsimp only
    cases hstg : P.stage plane.volume (if fresh then none else plane.handles process) request with
    | error error => exact .refl plane
    | ok staging =>
      refine .quiet rfl (fun r hr => .inr ?_) (fun _ _ h => .inl h)
      cases hr
      exact ⟨rfl, hstg⟩

/-- The handles once a process has got a generation of the file at the path. -/
theorem handles_of_compose {plane : Plane P} {request : P.Request}
    (h : P.compose plane.volume request = .ok generation) (process process' : ℕ)
    (held : P.Generation)
    (hheld : Function.update plane.handles process (some generation) process' = some held) :
    plane.handles process' = some held ∨
      ∃ request, P.compose plane.volume request = .ok held := by
  by_cases hne : process' = process
  · subst hne
    rw [Function.update_self] at hheld
    cases hheld
    exact .inr ⟨request, h⟩
  · rw [Function.update_of_ne hne] at hheld
    exact .inl hheld

theorem swapped_advance : Swapped plane plane.advance := by
  unfold Plane.advance
  rcases hrepl : plane.replacing with _ | r
  · exact .refl plane
  dsimp only
  unfold Plane.advanceTo
  have hdropped : ∀ r', (none : Option (Replacing P)) = some r' →
      plane.replacing = some r' ∨
        r'.phase = .staged ∧ P.stage plane.volume r'.previous r'.request = .ok r'.staging :=
    fun _ h => by cases h
  cases hph : r.phase with
  | staged =>
    dsimp only
    cases hinval : invalidatePrevious P.path plane.volume P.mapError (r.previous.map P.writer)
      (P.faults r.request) with
    | error error => exact .quiet rfl hdropped (fun _ _ h => .inl h)
    | ok result =>
      obtain ⟨invalidation, swapped⟩ := result
      obtain ⟨hswap, -, -, hinode⟩ := invalidatePrevious_eq_ok hinval
      exact .invalidated hrepl hph hswap hinode
  | invalidated invalidation =>
    dsimp only
    cases (P.faults r.request).rename with
    | some source => exact .restored hrepl hph
    | none => exact .renamed hrepl hph
  | renamed =>
    dsimp only
    cases hcomp : P.compose plane.volume r.request with
    | error error => exact .quiet rfl hdropped (fun _ _ h => .inl h)
    | ok generation => exact .quiet rfl hdropped (handles_of_compose hcomp r.process)

theorem swapped_crash : Swapped plane (plane.crash process) := by
  refine .quiet rfl (fun r hr => .inl ?_) fun process' generation hheld => .inl ?_
  · exact (filter_eq_some_iff.1 hr).1
  · by_cases hne : process' = process
    · subst hne
      unfold Plane.crash at hheld
      dsimp only at hheld
      rw [Function.update_self] at hheld
      cases hheld
    · unfold Plane.crash at hheld
      dsimp only at hheld
      rwa [Function.update_of_ne hne] at hheld

theorem swapped_store (key : P.Key) (access : SlotAccess) :
    Swapped plane (plane.store process key access) := by
  unfold Plane.store
  rcases hauth : plane.authorized process with _ | generation
  · exact .refl plane
  dsimp only
  cases hslot : P.slotFor generation key with
  | none => exact .refl plane
  | some slot => exact .stored hauth hslot

theorem swapped_heartbeat (timestampMs : UInt64) :
    Swapped plane (plane.heartbeat process timestampMs) := by
  unfold Plane.heartbeat
  cases hauth : plane.authorized process with
  | none => exact .refl plane
  | some generation => exact .beaten hauth

theorem swapped_attach (request : P.Request) : Swapped plane (plane.attach process request) := by
  unfold Plane.attach
  cases hcomp : P.compose plane.volume request with
  | error error => exact .refl plane
  | ok generation =>
    exact .quiet rfl (fun _ h => .inl h) (handles_of_compose hcomp process)

theorem swapStep_cases (op : SwapOp P) : Swapped plane (swapStep plane op) := by
  cases op with
  | stage process fresh request => exact swapped_stage plane process fresh request
  | advance => exact swapped_advance plane
  | access process key access => exact swapped_store plane process key access
  | heartbeat process timestampMs => exact swapped_heartbeat plane process timestampMs
  | attach process request => exact swapped_attach plane process request

/-- The same geometry and epoch. -/
structure SameLayout (file file' : Segment) : Prop where
  len : file'.len = file.len
  slotCount : file'.header.slotCount = file.header.slotCount
  layoutHash : file'.header.layoutHash = file.header.layoutHash
  publicationEpoch : file'.header.publicationEpoch = file.header.publicationEpoch

/-- The same files are there, with their layouts and epochs. -/
structure Keeps (volume volume' : Volume) : Prop where
  canonical : volume'.canonical = volume.canonical
  next : volume'.next = volume.next
  file : ∀ inode, SameLayout (volume.inodes inode) (volume'.inodes inode)

theorem SameLayout.refl (file : Segment) : SameLayout file file := ⟨rfl, rfl, rfl, rfl⟩

theorem SameLayout.trans {file file' file'' : Segment} (h : SameLayout file file')
    (h' : SameLayout file' file'') : SameLayout file file'' :=
  ⟨h'.len.trans h.len, h'.slotCount.trans h.slotCount, h'.layoutHash.trans h.layoutHash,
    h'.publicationEpoch.trans h.publicationEpoch⟩

theorem Keeps.refl (volume : Volume) : Keeps volume volume := ⟨rfl, rfl, fun _ => .refl _⟩

theorem Keeps.modify {volume : Volume} {change : Segment → Segment}
    (h : ∀ file, SameLayout file (change file)) (inode : ℕ) :
    Keeps volume (volume.modify inode change) where
  canonical := rfl
  next := rfl
  file inode' := by
    by_cases hne : inode' = inode
    · subst hne
      rw [modify_self]
      exact h _
    · rw [modify_of_ne hne]
      exact .refl _

theorem sameLayout_accessSlot (slot : ℕ) (access : SlotAccess) (file : Segment) :
    SameLayout file (accessSlot file slot access) := ⟨rfl, rfl, rfl, rfl⟩

theorem sameLayout_updateHeartbeat (timestampMs : UInt64) (file : Segment) :
    SameLayout file (updateHeartbeat file timestampMs) := ⟨rfl, rfl, rfl, rfl⟩

theorem Keeps.rollBack (volume : Volume) (invalidation : Option GenerationInvalidation) :
    Keeps volume (volume.rollBack invalidation) := by
  rcases invalidation with _ | i
  · exact .refl volume
  have hlay : ∀ file : Segment, SameLayout file
      { file with header := { file.header with writerGeneration := i.originalGeneration } } :=
    fun _ => ⟨rfl, rfl, rfl, rfl⟩
  exact .modify hlay i.inode

theorem Keeps.of_invalidated {volume swapped : Volume} (h : Invalidated volume swapped) :
    Keeps volume swapped where
  canonical := h.canonical
  next := h.next
  file inode := by
    rcases h.file inode with heq | ⟨-, heq⟩
    · rw [heq]
      exact .refl _
    · rw [heq]
      exact ⟨rfl, rfl, rfl, rfl⟩

/-- A step keeps the files, or is the rename of a publication. -/
theorem Swapped.keeps_or_renamed {plane plane' : Plane P} (h : Swapped plane plane') :
    Keeps plane.volume plane'.volume ∨ ∃ r invalidation, plane.replacing = some r ∧
      r.phase = .invalidated invalidation ∧ plane'.volume = plane.volume.rename r.staging := by
  cases h with
  | quiet hvol => exact .inl (hvol ▸ .refl _)
  | stored hauth hslot => exact .inl (.modify (sameLayout_accessSlot _ _) _)
  | beaten hauth => exact .inl (.modify (sameLayout_updateHeartbeat _) _)
  | invalidated hrepl hph hswap => exact .inl (.of_invalidated hswap)
  | restored hrepl hph => exact .inl (.rollBack _ _)
  | renamed hrepl hph => exact .inr ⟨_, _, hrepl, hph, rfl⟩

variable {r : Replacing P}

theorem replacing_advance {plane : Plane P} (hr : plane.advance.replacing = some r) :
    ∃ r', plane.replacing = some r' ∧ r'.process = r.process ∧ r'.request = r.request ∧
      r'.staging = r.staging := by
  unfold Plane.advance at hr
  rcases hrepl : plane.replacing with _ | r'
  · rw [hrepl] at hr
    rw [hr] at hrepl
    cases hrepl
  refine ⟨r', rfl, ?_⟩
  rw [hrepl] at hr
  dsimp only at hr
  unfold Plane.advanceTo at hr
  split at hr
  · split at hr
    · cases hr
    · cases hr
      exact ⟨rfl, rfl, rfl⟩
  · split at hr
    · cases hr
    · cases hr
      exact ⟨rfl, rfl, rfl⟩
  · split at hr
    · cases hr
    · cases hr

theorem replacing_stage {plane : Plane P} {process : ℕ} {fresh : Bool} {request : P.Request}
    (hr : (plane.stage process fresh request).replacing = some r) :
    plane.replacing = some r ∨ r.process = process ∧ r.request = request ∧
      P.stage plane.volume r.previous r.request = .ok r.staging := by
  unfold Plane.stage at hr
  cases hrepl : plane.replacing with
  | some r' =>
    rw [hrepl] at hr
    exact .inl (hrepl.symm.trans hr)
  | none =>
    rw [hrepl] at hr
    dsimp only at hr
    split at hr
    · rw [hr] at hrepl
      cases hrepl
    · next staging hstg =>
      cases hr
      exact .inr ⟨rfl, rfl, hstg⟩

/-- A publication that is under way after a step was under way before it, or the step has staged its
    file. -/
theorem swapStep_replacing {plane : Plane P} {op : SwapOp P}
    (hr : (swapStep plane op).replacing = some r) :
    (∃ r', plane.replacing = some r' ∧ r'.process = r.process ∧ r'.request = r.request ∧
      r'.staging = r.staging) ∨
    ∃ fresh, op = .stage r.process fresh r.request ∧
      P.stage plane.volume r.previous r.request = .ok r.staging := by
  cases op with
  | stage process fresh request =>
    rcases replacing_stage hr with hsame | ⟨rfl, rfl, hstg⟩
    · exact .inl ⟨r, hsame, rfl, rfl, rfl⟩
    · exact .inr ⟨fresh, rfl, hstg⟩
  | advance => exact .inl (replacing_advance hr)
  | access process key access =>
    have hsame : (plane.store process key access).replacing = plane.replacing := by
      unfold Plane.store
      split
      · rfl
      · split
        · rfl
        · rfl
    exact .inl ⟨r, hsame.symm.trans hr, rfl, rfl, rfl⟩
  | heartbeat process timestampMs =>
    have hsame : (plane.heartbeat process timestampMs).replacing = plane.replacing := by
      unfold Plane.heartbeat
      split
      · rfl
      · rfl
    exact .inl ⟨r, hsame.symm.trans hr, rfl, rfl, rfl⟩
  | attach process request =>
    have hsame : (plane.attach process request).replacing = plane.replacing := by
      unfold Plane.attach
      split
      · rfl
      · rfl
    exact .inl ⟨r, hsame.symm.trans hr, rfl, rfl, rfl⟩

end Steps

/-! ## The point plane -/

/-- `SnapshotImage`, with what is read of its header. -/
structure SnapshotImage where
  slotCount : UInt32
  layoutHash : UInt64
  slots : List (Option SlotRead)

/-- `restore_exact_snapshot` (`runtime.rs:368-403`), once the image is loaded. -/
def restoreExactSnapshot (manifest : ChannelPointManifest) (snapshot : SnapshotImage)
    (staging : Segment) : PortResult Segment :=
  if snapshot.slotCount.toNat ≠ manifest.slotCount ∨ snapshot.layoutHash ≠ manifest.layoutHash then
    .error ⟨.conflict, s!"snapshot layout does not match active manifest: snapshot " ++
      s!"slots={snapshot.slotCount} hash=0x{padZeros 16 (lowerHex snapshot.layoutHash.toNat)}, " ++
      s!"manifest slots={manifest.slotCount} hash=0x" ++
      padZeros 16 (lowerHex manifest.layoutHash.toNat)⟩
  else migrate (fun value => .ok value) (snapshot.slots.zipIdx.map Prod.swap) staging

/-- The arguments of `publish_generation`: those of `rebuild`, and for `create` what loading the
    snapshot returned. -/
structure PointRequest where
  request : RebuildRequest
  snapshot : Option (Except DataplaneError SnapshotImage) := none

/-- The new file, filled from a snapshot. -/
def stageSnapshot (plane : PointPlane) (request : RebuildRequest)
    (snapshot : Except DataplaneError SnapshotImage) : PortResult Segment := do
  port mapDataplaneError (attempt (s!"acquire exclusive SHM authority lock " ++
    debugStr (plane.config.path ++ ".authority.lock")) request.faults.lock)
  port mapDataplaneError (attempt s!"create SHM file for {debugStr plane.config.path}" request.faults.create)
  let staging ← port mapDataplaneError (Segment.create request.manifest.slotCount request.manifest.layoutHash
    request.publicationEpoch (newGeneration request.wallNanos request.sequence))
  let image ← port mapDataplaneError snapshot
  let staging ← restoreExactSnapshot request.manifest image staging
  port mapDataplaneError (attempt "flush SHM mmap" request.faults.flush)
  .ok staging

/-- The checks of `create` (`runtime.rs:175-200`) and `rebuild` and the new file. -/
def stagePoint (plane : PointPlane) (point : PointRequest) : PortResult Segment := do
  checkRequest plane point.request
  match point.snapshot with
  | none => stageGeneration plane point.request
  | some snapshot => stageSnapshot plane point.request snapshot

theorem nodup_zipIdx_swap {α : Type} (l : List α) :
    ((l.zipIdx.map Prod.swap).map Prod.fst).Nodup := by
  have hsnd : (l.zipIdx.map Prod.swap).map Prod.fst = l.zipIdx.map Prod.snd := by
    rw [List.map_map]
    rfl
  rw [hsnd, List.zipIdx_map_snd]
  exact List.nodup_range'

theorem created_of_stagePoint {plane : PointPlane} {point : PointRequest} {staging : Segment}
    (h : stagePoint plane point = .ok staging) :
    Created point.request.manifest.slotCount point.request.manifest.layoutHash
      point.request.publicationEpoch
      (newGeneration point.request.wallNanos point.request.sequence) staging ∧
    point.request.publicationEpoch ≠ 0 ∧ point.request.manifest.slotCount < 2 ^ 32 := by
  unfold stagePoint at h
  obtain ⟨-, -, h⟩ := bind_eq_ok.1 h
  rcases hsnap : point.snapshot with _ | snapshot
  · rw [hsnap] at h
    exact created_of_stageGeneration h
  rw [hsnap] at h
  unfold stageSnapshot at h
  simp only [bind_eq_ok, exists_unit, port_eq_ok_iff, Segment.create_eq_ok_iff,
    Except.ok.injEq] at h
  obtain ⟨-, -, file, ⟨hep, hcnt, rfl⟩, image, -, restored, hrestored, -, rfl⟩ := h
  unfold restoreExactSnapshot at hrestored
  split_ifs at hrestored
  obtain ⟨hhdr, hlen, -, -⟩ := migrate_spec (nodup_zipIdx_swap image.slots) hrestored
  exact ⟨created_fresh.of_eq hhdr hlen, hep, hcnt⟩

/-- A file that has been created under a new generation is complete. -/
theorem Created.staged {count : ℕ} {hash epoch wallNanos sequence : UInt64} {file : Segment}
    (h : Created count hash epoch (newGeneration wallNanos sequence) file) (hep : epoch ≠ 0)
    (hcnt : count < 2 ^ 32) :
    file.WellFormed ∧ file.header.publicationEpoch = epoch ∧
      stable file.header.writerGeneration = true := by
  refine ⟨h.wellFormed hcnt hep, h.publicationEpoch, ?_⟩
  rw [h.writerGeneration]
  exact stable_newGeneration _ _

/-- The point plane. -/
def pointPublisher (config : ShmRuntimeConfig) : Publisher where
  Generation := ShmWriterGeneration
  Request := PointRequest
  Key := PhysicalPointAddress
  path := config.path
  mapError := mapDataplaneError
  writer generation := generation.writer
  layoutHash generation := generation.manifest.layoutHash
  slotFor generation address := generation.manifest.slotFor address
  epoch point := point.request.publicationEpoch
  faults point := point.request.faults
  stage volume current point := stagePoint ⟨config, current, volume⟩ point
  compose volume point :=
    composeGeneration config.path volume point.request.manifest point.request.faults
  staged h := by
    obtain ⟨hcreated, hepoch, hcount⟩ := created_of_stagePoint h
    exact hcreated.staged hepoch hcount
  composed h := by
    obtain ⟨inode, hcanonical, hhash, rfl⟩ := composeGeneration_eq_ok h
    exact ⟨hcanonical, hhash⟩

/-- Run without interruption, the steps are `rebuild`. -/
theorem rebuild_by_steps (plane : PointPlane) (request : RebuildRequest) (process : ℕ) :
    let after := (rebuild plane request).2
    run swapStep (⟨plane.volume, fun _ => plane.current, none⟩ : Plane (pointPublisher plane.config))
        [.stage process false ⟨request, none⟩, .advance, .advance, .advance] =
      ⟨after.volume, Function.update (fun _ => plane.current) process after.current, none⟩ := by
  refine (run_publish rfl process false _).trans ?_
  show Plane.settle _ process (publish (pointPublisher plane.config) _ plane.current _) = _
  have hkept := Function.update_eq_self process fun _ => plane.current
  simp only [Plane.settle, rebuild, publish, pointPublisher, stagePoint, publishGeneration]
  rcases checkRequest plane request with error | _
  · exact congrArg (Plane.mk _ · _) hkept.symm
  simp only [ok_bind]
  rcases stageGeneration plane request with error | staging
  · exact congrArg (Plane.mk _ · _) hkept.symm
  dsimp only
  generalize replaceCanonical plane.config.path plane.volume mapDataplaneError (plane.current.map (·.writer))
    staging request.faults = replaced
  obtain ⟨error | _, volume⟩ := replaced
  · exact congrArg (Plane.mk _ · _) hkept.symm
  dsimp only
  generalize composeGeneration plane.config.path volume request.manifest request.faults =
    composed
  cases composed with
  | error => exact congrArg (Plane.mk _ · _) hkept.symm
  | ok => rfl

/-! ## The health plane -/

/-- The health plane. -/
def healthPublisher (path : String) : Publisher where
  Generation := ShmChannelHealthWriter
  Request := HealthRebuildRequest
  Key := UInt32
  path := path
  mapError := mapManagedError
  writer current := current.writer
  layoutHash current := current.manifest.layoutHash
  slotFor current channelId := current.manifest.slotFor channelId
  epoch request := request.publicationEpoch
  faults request := request.faults
  stage volume current request := do
    checkHealthRequest ⟨path, current, volume⟩ request
    stageHealthWriter ⟨path, current, volume⟩ request
  compose volume request := reopenHealthWriter path volume request.manifest request.faults
  staged h := by
    obtain ⟨-, -, h⟩ := bind_eq_ok.1 h
    obtain ⟨hcreated, hepoch, hcount⟩ := created_of_stageHealthWriter h
    exact hcreated.staged hepoch hcount
  composed h := by
    obtain ⟨writer, hwriter, h⟩ := bind_eq_ok.1 h
    obtain ⟨-, inode, hcanonical, -, -, hhash, -, rfl⟩ :=
      openExisting_eq_ok_iff.1 (port_eq_ok_iff.1 hwriter)
    cases h
    exact ⟨hcanonical, hhash⟩

theorem rebuildHealth_by_steps (plane : HealthPlane) (request : HealthRebuildRequest)
    (process : ℕ) :
    let after := (rebuildHealth plane request).2
    run swapStep (⟨plane.volume, fun _ => plane.current, none⟩ : Plane (healthPublisher plane.path))
        [.stage process false request, .advance, .advance, .advance] =
      ⟨after.volume, Function.update (fun _ => plane.current) process after.current, none⟩ := by
  refine (run_publish rfl process false _).trans ?_
  show Plane.settle _ process (publish (healthPublisher plane.path) _ plane.current _) = _
  have hkept := Function.update_eq_self process fun _ => plane.current
  simp only [Plane.settle, rebuildHealth, publish, healthPublisher, publishHealthWriter]
  rcases checkHealthRequest plane request with error | _
  · exact congrArg (Plane.mk _ · _) hkept.symm
  simp only [ok_bind]
  rcases stageHealthWriter plane request with error | staging
  · exact congrArg (Plane.mk _ · _) hkept.symm
  dsimp only
  generalize replaceCanonical plane.path plane.volume mapManagedError (plane.current.map (·.writer)) staging
    request.faults = replaced
  obtain ⟨error | _, volume⟩ := replaced
  · exact congrArg (Plane.mk _ · _) hkept.symm
  dsimp only
  generalize reopenHealthWriter plane.path volume request.manifest request.faults = reopened
  cases reopened with
  | error => exact congrArg (Plane.mk _ · _) hkept.symm
  | ok => rfl

end AetherEdge.Shm
