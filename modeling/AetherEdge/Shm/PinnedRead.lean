import AetherEdge.Shm.PlaneHistory
import AetherEdge.Shm.ReadTopology
import AetherEdge.Shm.TopologyRuns

/-!
# Reads through a pinned generation

Readers run next to publications: the steps of the writers are a sequence, and every access of a
reader falls between two of them. A reader is pinned to a publication that it has validated and may
map the file at the path again at any time.

* `Topology.Pins.moved`: while an epoch is pinned, the file at a path is the pinned one or has a
  larger epoch;
* `ReaderAt.facts`: what a reader maps and is pinned to was at the path at some earlier moment;
* `pinned_reads`: a read that succeeds has read the pinned file, which was at the path from the
  validation to the last access;
* `health_read_during_point_rebuild`: a rebuild of the other plane does not stop a read.
-/

namespace AetherEdge.Shm

open Transition Dataplane Volume TopologyPublicationCommit

namespace Topology

variable {P Q : Publisher}

/-! ## Histories -/

/-- The state after the first `n` steps of the writers. -/
def after (ops : ℕ → TopologyOp P Q) : ℕ → Topology P Q
  | 0 => initial P Q
  | n + 1 => topologyStep (after ops n) (ops n)

theorem sound_after (ops : ℕ → TopologyOp P Q) (n : ℕ) : (after ops n).Sound := by
  induction n with
  | zero => exact sound_initial
  | succ n ih => exact ih.step (ops n)

theorem swapped_topologyStep (s : Topology P Q) (op : TopologyOp P Q) :
    Swapped s.point (topologyStep s op).point ∧ Swapped s.health (topologyStep s op).health := by
  have hmoved := moved_topologyStep s op
  generalize topologyStep s op = s' at hmoved
  cases hmoved with
  | point op' hallows => exact ⟨swapStep_cases _ _, .refl _⟩
  | health op' hallows => exact ⟨.refl _, swapStep_cases _ _⟩
  | crash process => exact ⟨swapped_crash _ _, swapped_crash _ _⟩
  | _ => exact ⟨.refl _, .refl _⟩

/-- The point planes of a run. -/
def pointHistory (ops : ℕ → TopologyOp P Q) : PlaneHistory P where
  plane n := (after ops n).point
  start := rfl
  step n := (swapped_topologyStep (after ops n) (ops n)).1

/-- The health planes of a run. -/
def healthHistory (ops : ℕ → TopologyOp P Q) : PlaneHistory Q where
  plane n := (after ops n).health
  start := rfl
  step n := (swapped_topologyStep (after ops n) (ops n)).2

/-- A file that is not at its path is unstable, whoever dies when, and so is the one at the path
    while it is being replaced. -/
theorem planes_orderly (ops : ℕ → TopologyOp P Q) (n : ℕ) :
    (after ops n).point.Orderly ∧ (after ops n).health.Orderly :=
  ⟨(pointHistory ops).orderly n, (healthHistory ops).orderly n⟩

/-! ## What stays while an epoch is pinned -/

/-- The two files have the epoch, and no other file will get it. -/
structure Pins (s : Topology P Q) (epoch : UInt64) (point health : ℕ) : Prop where
  point : Names s.point.volume epoch point
  health : Names s.health.volume epoch health
  above : ∀ g path allocated, s.guard = some g → g.allocated = some (path, allocated) →
    epoch < allocated

theorem Pins.moved {s s' : Topology P Q} {epoch : UInt64} {point health : ℕ} (hsd : s.Sound)
    (h : s.Pins epoch point health) (hmoved : Moved s s') : s'.Pins epoch point health := by
  cases hmoved with
  | stays => exact h
  | point op hallows => exact ⟨hsd.point.names h.point h.above op, h.health, h.above⟩
  | health op hallows => exact ⟨h.point, hsd.health.names h.health h.above op, h.above⟩
  | crash process =>
    refine ⟨h.point, h.health, fun g path allocated hg => ?_⟩
    exact h.above g path allocated (Option.filter_eq_some_iff.1 hg).1
  | lease guard publications hfree habv =>
    refine ⟨h.point, h.health, fun g path allocated hg ha => ?_⟩
    obtain ⟨-, inode, hcan, hle, -⟩ := h.point
    exact UInt64.lt_of_le_of_lt hle ((habv g path allocated hg ha).1 inode hcan)
  | commit => exact ⟨h.point, h.health, fun _ _ _ hg => by cases hg⟩

theorem pins_after {ops : ℕ → TopologyOp P Q} {m n : ℕ} (hle : m ≤ n) {epoch : UInt64}
    {point health : ℕ} (h : (after ops m).Pins epoch point health) :
    (after ops n).Pins epoch point health := by
  induction n, hle using Nat.le_induction with
  | base => exact h
  | succ n _ ih => exact ih.moved (sound_after ops n) (moved_topologyStep _ (ops n))

/-- A step leaves the witness, or writes that of the two files at the paths. -/
theorem Moved.witness {s s' : Topology P Q} (h : Moved s s') :
    s'.witness = s.witness ∨
    ∃ written point health, s'.witness = some (encode written) ∧
      decode written.encode = .ok written ∧
      s.point.volume.canonical = some point ∧ s.health.volume.canonical = some health ∧
      s.point.volume.epochAt point = written.publicationEpoch ∧
      s.health.volume.epochAt health = written.publicationEpoch := by
  cases h with
  | commit written point health hquiet hdec hpt hhealth hepochP hepochH =>
    exact .inr ⟨written, point, health, rfl, hdec, hpt, hhealth, hepochP, hepochH⟩
  | _ => exact .inl rfl

end Topology

/-! ## Readers next to the writers -/

section Readers

variable {P Q : Publisher}

/-- The generations of a reader of the two planes at a moment: the threads that share it look at the
    paths and validate it in any order. -/
inductive ReaderAt (state : ℕ → Topology P Q) : ℕ → ShmReadTopologyGeneration → Prop where
  | created {n : ℕ} {pointConfig healthConfig : ShmClientConfig}
      {pointManifest : ChannelPointManifest} {healthManifest : ChannelHealthManifest}
      {topology : ShmReadTopologyGeneration} (hpoint : pointConfig.path = P.path)
      (hhealth : healthConfig.path = Q.path)
      (h : ShmReadTopologyGeneration.newLazy pointConfig healthConfig pointManifest
        healthManifest = .ok topology) : ReaderAt state n topology
  | later {m n : ℕ} {topology : ShmReadTopologyGeneration} (h : ReaderAt state m topology)
      (hle : m ≤ n) : ReaderAt state n topology
  | lookedAtPoint {m : ℕ} {topology : ShmReadTopologyGeneration} (h : ReaderAt state m topology)
      {t : ℕ → ℕ} (hmono : Monotone t) (hle : m ≤ t 0) (now : ℕ) (faults : OpenFaults) :
      ReaderAt state (t 3) { topology with
        pointSource := (topology.pointSource.ensureCurrent now
          (fun k => (state (t k)).point.volume) faults).2 }
  | lookedAtHealth {m : ℕ} {topology : ShmReadTopologyGeneration} (h : ReaderAt state m topology)
      {t : ℕ → ℕ} (hmono : Monotone t) (hle : m ≤ t 0) (now : ℕ) (faults : OpenFaults) :
      ReaderAt state (t 3) { topology with
        channelHealth := (topology.channelHealth.ensureCurrent now
          (fun k => (state (t k)).health.volume) faults).2 }
  | validated {n : ℕ} {topology : ShmReadTopologyGeneration} (h : ReaderAt state n topology)
      (now : ℕ) (faults : PinFaults) :
      ReaderAt state n (topology.withValidatedAuthority now (state n).point.volume
        (state n).health.volume (state n).witness faults).2

/-- What a source maps was at the path at some moment, and what it is pinned to has been
    published. -/
structure SourceAt (plane : ℕ → Plane P) (publication : ℕ → UInt64 → UInt64 → Prop)
    (layoutHash : UInt64) (n : ℕ) (source : ReconnectingSlotSource) : Prop where
  path : source.config.path = P.path
  hash : source.config.expectedLayoutHash = layoutHash
  opened : ∀ opened, source.state.opened = some opened →
    ∃ m ≤ n, OpenedAt (plane m).volume layoutHash opened
  pinned : source.expectedPublicationEpoch = publicationValidationPending ∨
    ∃ m ≤ n, publication m source.expectedPublicationEpoch source.expectedWriterGeneration ∧
      stable source.expectedWriterGeneration = true ∧ source.expectedPublicationEpoch ≠ 0

variable {plane : ℕ → Plane P} {publication : ℕ → UInt64 → UInt64 → Prop} {layoutHash : UInt64}
  {m n : ℕ} {source source' : ReconnectingSlotSource}

theorem SourceAt.later (h : SourceAt plane publication layoutHash m source) (hle : m ≤ n) :
    SourceAt plane publication layoutHash n source where
  path := h.path
  hash := h.hash
  opened opened hopened := by
    obtain ⟨k, hk, hat⟩ := h.opened opened hopened
    exact ⟨k, Nat.le_trans hk hle, hat⟩
  pinned := by
    rcases h.pinned with hpend | ⟨k, hk, hpin⟩
    · exact .inl hpend
    · exact .inr ⟨k, Nat.le_trans hk hle, hpin⟩

theorem SourceAt.follows (h : SourceAt plane publication layoutHash n source)
    (hfol : Follows source source' (plane n).volume) :
    SourceAt plane publication layoutHash n source' where
  path := by
    rw [hfol.config]
    exact h.path
  hash := by
    rw [hfol.config]
    exact h.hash
  opened opened hopened := by
    rcases hfol.opened opened hopened with hbef | hat
    · exact h.opened opened hbef
    · exact ⟨n, Nat.le_refl n, h.hash ▸ hat⟩
  pinned := by
    rw [hfol.epoch, hfol.generation]
    exact h.pinned

theorem SourceAt.repinned (h : SourceAt plane publication layoutHash n source)
    (hrepinned : Repinned source source' (plane n).volume (publication n)) :
    SourceAt plane publication layoutHash n source' := by
  obtain ⟨looked, hfol, rfl | ⟨epoch, generation, hpub, hstab, hep, rfl⟩⟩ :=
    hrepinned
  · exact h.follows hfol
  · have hlooked := h.follows hfol
    exact ⟨hlooked.path, hlooked.hash, hlooked.opened,
      .inr ⟨n, Nat.le_refl n, hpub, hstab, hep⟩⟩

/-- The publication at the paths, for a reader of the two planes. -/
def ValidatedAt (s : Topology P Q) (expected : ExpectedTopology)
    (commit : TopologyPublicationCommit) : Prop :=
  ∃ faults, validateTopologyPublicationLocked P.path Q.path s.point.volume s.health.volume
    s.witness expected faults = .ok commit

/-- What a reader knows about the two planes. -/
structure ReaderFacts (state : ℕ → Topology P Q) (n : ℕ) (topology : ShmReadTopologyGeneration) :
    Prop where
  point : SourceAt (fun k => (state k).point)
    (fun k epoch generation => ∃ commit, ValidatedAt (state k) topology.expected commit ∧
      commit.publicationEpoch = epoch ∧ commit.pointWriterGeneration = generation)
    topology.pointManifest.layoutHash n topology.pointSource
  health : SourceAt (fun k => (state k).health)
    (fun k epoch generation => ∃ commit, ValidatedAt (state k) topology.expected commit ∧
      commit.publicationEpoch = epoch ∧ commit.healthWriterGeneration = generation)
    topology.healthManifest.layoutHash n topology.channelHealth

theorem ReaderAt.facts {state : ℕ → Topology P Q} {topology : ShmReadTopologyGeneration}
    (h : ReaderAt state n topology) : ReaderFacts state n topology := by
  induction h with
  | created hpt hhealth hlazy =>
    obtain ⟨rfl, hhashP, hhashH⟩ := ShmReadTopologyGeneration.newLazy_eq_ok hlazy
    refine ⟨⟨hpt, hhashP, fun _ hopened => ?_, .inl rfl⟩,
      ⟨hhealth, hhashH, fun _ hopened => ?_, .inl rfl⟩⟩
    · cases hopened
    · cases hopened
  | later h hle ih => exact ⟨ih.point.later hle, ih.health.later hle⟩
  | @lookedAtPoint m topology h t hmono hle now faults ih =>
    have hle' : m ≤ t 3 := Nat.le_trans hle (hmono (Nat.zero_le 3))
    have hfol := topology.pointSource.follows_ensureCurrent now
      (fun k => (state (t k)).point.volume) faults
    exact ⟨(ih.point.later hle').follows hfol, ih.health.later hle'⟩
  | @lookedAtHealth m topology h t hmono hle now faults ih =>
    have hle' : m ≤ t 3 := Nat.le_trans hle (hmono (Nat.zero_le 3))
    have hfol := topology.channelHealth.follows_ensureCurrent now
      (fun k => (state (t k)).health.volume) faults
    exact ⟨ih.point.later hle', (ih.health.later hle').follows hfol⟩
  | @validated n topology h now faults ih =>
    have hauth := topology.authorized_withValidatedAuthority now (state n).point.volume
      (state n).health.volume (state n).witness faults
    generalize (topology.withValidatedAuthority now (state n).point.volume (state n).health.volume
      (state n).witness faults).2 = topology' at hauth ⊢
    have hexp : topology'.expected = topology.expected := by
      unfold ShmReadTopologyGeneration.expected
      rw [hauth.pointManifest, hauth.healthManifest]
    have hpt := hauth.pointSource
    have hhealth := hauth.channelHealth
    unfold ShmReadTopologyGeneration.Validates at hpt hhealth
    rw [ih.point.path, ih.health.path] at hpt hhealth
    constructor
    · rw [hexp, hauth.pointManifest]
      exact ih.point.repinned hpt
    · rw [hexp, hauth.healthManifest]
      exact ih.health.repinned hhealth

/-! ## What a read has seen -/

/-- The file behind a read that has succeeded: from the validation to the last access it was at the
    path, under the pinned epoch, and so was the witness. -/
structure ReadFrom (plane : ℕ → Plane P) (witness : ℕ → Option Bytes)
    (source : ReconnectingSlotSource) (layoutHash : UInt64) (pin last file : ℕ) : Prop where
  canonical : ∀ k, pin ≤ k → k ≤ last → (plane k).volume.canonical = some file
  epoch : ∀ k, pin ≤ k → k ≤ last →
    (plane k).volume.epochAt file = source.expectedPublicationEpoch
  hash : ∀ k, pin ≤ k → k ≤ last →
    ((plane k).volume.inodes file).header.layoutHash = layoutHash
  pinnedGeneration : (plane pin).volume.generationAt file = source.expectedWriterGeneration
  lastGeneration : (plane last).volume.generationAt file = source.expectedWriterGeneration
  witness : ∀ k, pin ≤ k → k ≤ last → ∃ bytes commit, witness k = some bytes ∧
    decode bytes = .ok commit ∧
    commit.publicationEpoch = source.expectedPublicationEpoch

/-- Every field of a sample was put into the slot of the file before. -/
def PutInto (plane : ℕ → Plane P) (sample : SlotSnapshot) (file slot before : ℕ)
    (keyed : P.Generation → P.Key → Prop) : Prop :=
  ∃ qualityCode, decodePointQuality qualityCode = .ok sample.quality ∧
    ∀ field ∈ [FieldStore.value sample.value, FieldStore.raw sample.raw,
        FieldStore.timestamp sample.timestampMs, FieldStore.qualityCode qualityCode],
      ∃ k < before, Puts (plane k) (plane (k + 1)) file slot field keyed

theorem PutInto.imp {sample : SlotSnapshot} {file slot before : ℕ}
    {keyed keyed' : P.Generation → P.Key → Prop} (h : PutInto plane sample file slot before keyed)
    (himp : ∀ generation key, keyed generation key → keyed' generation key) :
    PutInto plane sample file slot before keyed' := by
  obtain ⟨qualityCode, hqual, hputs⟩ := h
  refine ⟨qualityCode, hqual, fun field hfield => ?_⟩
  obtain ⟨k, hk, hput⟩ := hputs field hfield
  exact ⟨k, hk, hput.imp himp⟩

/-- The accesses of a read, after the validation. -/
theorem SampleOf.putInto (history : PlaneHistory P) {sample : SlotSnapshot} {t : ℕ → ℕ}
    {file slot last : ℕ} (hlt : ∀ k, file < (history.plane (t k)).volume.next)
    (hlast : ∀ k ≤ 4, t k ≤ last)
    (h : SampleOf sample (fun k => (history.plane (t k)).volume.inodes file) slot)
    {keyed : P.Generation → P.Key → Prop}
    (hkeyed : ∀ k ≤ 4, ∀ generation key,
      Addresses ((history.plane (t k)).volume.inodes file) slot generation key →
      keyed generation key) :
    PutInto history.plane sample file slot last keyed := by
  have hputs : ∀ k ≤ 4, ∀ field,
      HoldsIn field (((history.plane (t k)).volume.inodes file).slots slot).data →
      ∃ j < last, Puts (history.plane j) (history.plane (j + 1)) file slot field keyed := by
    intro k hk field hhld
    obtain ⟨j, hj, hputs⟩ := history.exists_puts (hlt k) hhld
    exact ⟨j, Nat.lt_of_lt_of_le hj (hlast k hk), hputs.imp (hkeyed k hk)⟩
  refine ⟨_, h.quality, ?_⟩
  simp only [List.forall_mem_cons, List.not_mem_nil, false_implies, implies_true, and_true]
  refine ⟨hputs 1 (by decide) _ ?_, hputs 2 (by decide) _ ?_, hputs 3 (by decide) _ ?_,
    hputs 4 (by decide) _ ?_⟩
  · unfold HoldsIn FieldStore.apply
    rw [h.value]
  · unfold HoldsIn FieldStore.apply
    rw [h.raw]
  · unfold HoldsIn FieldStore.apply
    rw [h.timestampMs]
  · rfl

/-- How a publication binds the files of one plane: the file that has been validated is the only one
    at the path that ever has its epoch. -/
structure Binds (history : PlaneHistory P) (witness : ℕ → Option Bytes)
    (publication : ℕ → UInt64 → UInt64 → Prop) : Prop where
  file : ∀ m epoch generation, publication m epoch generation → ∃ file,
    (history.plane m).volume.canonical = some file ∧
    (history.plane m).volume.epochAt file = epoch ∧
    (history.plane m).volume.generationAt file = generation ∧
    ∀ n, m ≤ n → Names (history.plane n).volume epoch file
  decoded : ∀ m epoch generation, publication m epoch generation → ∃ bytes commit,
    witness m = some bytes ∧ decode bytes = .ok commit ∧
    commit.publicationEpoch = epoch
  written : ∀ n, witness (n + 1) = witness n ∨ ∃ bytes commit file, witness (n + 1) = some bytes ∧
    decode bytes = .ok commit ∧
    (history.plane n).volume.canonical = some file ∧
    (history.plane n).volume.epochAt file = commit.publicationEpoch

/-- While the file stays at the path, the witness keeps its epoch. -/
theorem Binds.witness {history : PlaneHistory P} {witness : ℕ → Option Bytes}
    (h : Binds history witness publication) {epoch generation : UInt64} {pin last file : ℕ}
    (hpub : publication pin epoch generation)
    (hcan : ∀ k, pin ≤ k → k ≤ last → (history.plane k).volume.canonical = some file)
    (hep : ∀ k, pin ≤ k → k ≤ last → (history.plane k).volume.epochAt file = epoch) :
    ∀ k, pin ≤ k → k ≤ last → ∃ bytes commit, witness k = some bytes ∧
      decode bytes = .ok commit ∧ commit.publicationEpoch = epoch := by
  intro k hk
  induction k, hk using Nat.le_induction with
  | base =>
    intro _
    exact h.decoded pin epoch generation hpub
  | succ k hk ih =>
    intro hlast
    have hlast' : k ≤ last := Nat.le_of_succ_le hlast
    rcases h.written k with hsame | ⟨bytes, commit, written, hbs, hdec, hat, hwr⟩
    · rw [hsame]
      exact ih hlast'
    · obtain rfl := Option.some.inj ((hcan k hk hlast').symm.trans hat)
      exact ⟨bytes, commit, hbs, hdec, hwr.symm.trans (hep k hk hlast')⟩

theorem SourceAt.readFrom (history : PlaneHistory P) {witness : ℕ → Option Bytes}
    (hsource : SourceAt history.plane publication layoutHash n source)
    (hbinds : Binds history witness publication) {t : ℕ → ℕ} (hmono : Monotone t) (hn : n ≤ t 0)
    {nowMs : UInt64} {indices : List ℕ} {samples : List (Option SlotSnapshot)}
    (hread : source.readThrough nowMs (fun k => (history.plane (t k)).volume) (6 * indices.length)
      (readBatch indices) = .ok samples) :
    ∃ pin ≤ n, ∃ file, publication pin source.expectedPublicationEpoch
        source.expectedWriterGeneration ∧
      ReadFrom history.plane witness source layoutHash pin
        (t (ReconnectingSlotSource.lastAccess (6 * indices.length))) file ∧
      ∀ i slot : ℕ, indices[i]? = some slot → ∃ sample, samples[i]? = some (some sample) ∧
        PutInto history.plane sample file slot
          (t (ReconnectingSlotSource.lastAccess (6 * indices.length)))
          fun generation key => P.layoutHash generation = layoutHash ∧
            P.slotFor generation key = some slot := by
  have hpinned : source.expectedPublicationEpoch ≠ 0 := by
    rcases hsource.pinned with hpend | ⟨-, -, -, -, hep⟩
    · rw [hpend]
      decide
    · exact hep
  obtain ⟨opened, hopened, hpend, hep, hgen, hbt⟩ :=
    ReconnectingSlotSource.readThrough_eq_ok hpinned hread
  obtain ⟨pin, hpin, hpub, hstab, -⟩ := hsource.pinned.resolve_left hpend
  obtain ⟨m, hm, hmapCan, hmappedHash, -⟩ := hsource.opened opened hopened
  generalize hlast : t (ReconnectingSlotSource.lastAccess (6 * indices.length)) = last at *
  have hmt : ∀ k, m ≤ t k := fun k => Nat.le_trans hm (Nat.le_trans hn (hmono (Nat.zero_le k)))
  have hpint : ∀ k, pin ≤ t k := fun k =>
    Nat.le_trans hpin (Nat.le_trans hn (hmono (Nat.zero_le k)))
  have hmap : ∀ k, m ≤ k → opened.reader.inode < (history.plane k).volume.next := fun k hk =>
    Nat.lt_of_lt_of_le ((history.plane m).volume.canonical_lt _ hmapCan)
      (history.next_mono hk)
  have hmlast : m ≤ last := hlast ▸ hmt _
  -- the mapped file is stable at the last access, so that it is still at the path
  have hgenLast : (history.plane last).volume.generationAt opened.reader.inode =
      source.expectedWriterGeneration := hgen
  have hcanLast : (history.plane last).volume.canonical = some opened.reader.inode :=
    history.canonical_of_stable (hmap last hmlast) (hgenLast ▸ hstab)
  have hepochLast : (history.plane last).volume.epochAt opened.reader.inode =
      source.expectedPublicationEpoch := by
    have hle : t (6 * indices.length + 5) ≤ last := hlast ▸ hmono (Nat.le_succ _)
    exact (history.sameLayout hle (hmap _ (hmt _))).publicationEpoch.trans hep
  -- and under the pinned epoch there is no other file than the pinned one
  obtain ⟨file, hfile, hfileEpoch, hfileGen, hnames⟩ := hbinds.file pin _ _ hpub
  have hpinlast : pin ≤ last := hlast ▸ hpint _
  obtain ⟨-, inode, hinode, -, honly⟩ := hnames last hpinlast
  obtain rfl := Option.some.inj (hcanLast.symm.trans hinode)
  obtain rfl : opened.reader.inode = file := honly hepochLast
  generalize opened.reader.inode = file at *
  have hfileLt : ∀ k, pin ≤ k → file < (history.plane k).volume.next := fun k hk =>
    Nat.lt_of_lt_of_le ((history.plane pin).volume.canonical_lt _ hfile) (history.next_mono hk)
  have hcan : ∀ k, pin ≤ k → k ≤ last →
      (history.plane k).volume.canonical = some file := fun k hk hkl =>
    history.canonical_of_later hkl hcanLast (hfileLt k hk)
  have hepochs : ∀ k, pin ≤ k → k ≤ last →
      (history.plane k).volume.epochAt file = source.expectedPublicationEpoch := fun k hk _ =>
    (history.sameLayout hk (hfileLt pin (Nat.le_refl pin))).publicationEpoch.trans hfileEpoch
  have hhashLast : ((history.plane last).volume.inodes file).header.layoutHash = layoutHash :=
    (history.sameLayout hmlast (hmap m (Nat.le_refl m))).layoutHash.trans hmappedHash
  have hhash : ∀ k, pin ≤ k → k ≤ last →
      ((history.plane k).volume.inodes file).header.layoutHash = layoutHash := fun k hk hkl =>
    (history.sameLayout hkl (hfileLt k hk)).layoutHash.symm.trans hhashLast
  refine ⟨pin, hpin, file, hpub, ⟨hcan, hepochs, hhash, hfileGen,
    hgenLast, hbinds.witness hpub hcan hepochs⟩, fun i slot hi => ?_⟩
  obtain ⟨sample, hsmp, hof⟩ := readSamples_eq_ok (readBatch_eq_ok hbt) hi
  have hbd : i < indices.length := (List.getElem?_eq_some_iff.1 hi).1
  have hbef : ∀ k ≤ 4, t (k + 6 * i + 4) ≤ last := by
    intro k hk
    rw [← hlast]
    apply hmono
    show k + 6 * i + 4 ≤ 6 * indices.length + 6
    omega
  refine ⟨sample, hsmp, SampleOf.putInto history (fun k => hfileLt _ (hpint _)) hbef hof ?_⟩
  rintro k hk generation key ⟨hlay, hslot⟩
  exact ⟨hlay.trans (hhash _ (hpint _) (hbef k hk)), hslot⟩

end Readers

/-! ## The two planes -/

section Planes

variable {P Q : Publisher}

theorem pins_of_validatedAt {s : Topology P Q} (h : s.Sound) {expected : ExpectedTopology}
    {commit : TopologyPublicationCommit} (hval : ValidatedAt s expected commit) :
    ∃ point health bytes, s.point.volume.canonical = some point ∧
      s.health.volume.canonical = some health ∧ s.witness = some bytes ∧
      decode bytes = .ok commit ∧
      s.point.volume.epochAt point = commit.publicationEpoch ∧
      s.health.volume.epochAt health = commit.publicationEpoch ∧
      s.point.volume.generationAt point = commit.pointWriterGeneration ∧
      s.health.volume.generationAt health = commit.healthWriterGeneration ∧
      s.Pins commit.publicationEpoch point health := by
  obtain ⟨faults, hval⟩ := hval
  obtain ⟨point, health, bytes, hpt, hhealth, hbs, hdec, -, -, -, -, hmatches⟩ :=
    validateTopologyPublicationLocked_eq_ok hval
  obtain ⟨-, hepochP, hepochH, hcomm⟩ :=
    matchesReaders_iff.1 hmatches
  obtain ⟨record, -, hrec, -, -, -, habv⟩ := h.witness bytes hbs
  obtain rfl : commit = record.commit := Except.ok.inj (hdec.symm.trans hrec)
  refine ⟨point, health, bytes, hpt, hhealth, hbs, hdec, hepochP, hepochH,
    ?_, ?_, names_of_canonical hpt hepochP, names_of_canonical hhealth hepochH, habv⟩
  · rw [hcomm]
    rfl
  · rw [hcomm]
    rfl

theorem binds_point (ops : ℕ → TopologyOp P Q) (expected : ExpectedTopology) :
    Binds (Topology.pointHistory ops) (fun n => (Topology.after ops n).witness)
      fun k epoch generation => ∃ commit, ValidatedAt (Topology.after ops k) expected commit ∧
        commit.publicationEpoch = epoch ∧ commit.pointWriterGeneration = generation where
  file m epoch generation := by
    rintro ⟨commit, hval, rfl, rfl⟩
    obtain ⟨point, health, bytes, hpt, -, -, -, hep, -, hgen, -, hpins⟩ :=
      pins_of_validatedAt (Topology.sound_after ops m) hval
    exact ⟨point, hpt, hep, hgen, fun n hle => (Topology.pins_after hle hpins).point⟩
  decoded m epoch generation := by
    rintro ⟨commit, hval, rfl, rfl⟩
    obtain ⟨-, -, bytes, -, -, hbs, hdec, -⟩ :=
      pins_of_validatedAt (Topology.sound_after ops m) hval
    exact ⟨bytes, commit, hbs, hdec, rfl⟩
  written n := by
    rcases (Topology.moved_topologyStep (Topology.after ops n) (ops n)).witness with
      hsame | ⟨written, point, health, hbs, hdec, hpt, -, hep, -⟩
    · exact .inl hsame
    · exact .inr ⟨written.encode, written, point, hbs, hdec, hpt, hep⟩

theorem binds_health (ops : ℕ → TopologyOp P Q) (expected : ExpectedTopology) :
    Binds (Topology.healthHistory ops) (fun n => (Topology.after ops n).witness)
      fun k epoch generation => ∃ commit, ValidatedAt (Topology.after ops k) expected commit ∧
        commit.publicationEpoch = epoch ∧ commit.healthWriterGeneration = generation where
  file m epoch generation := by
    rintro ⟨commit, hval, rfl, rfl⟩
    obtain ⟨point, health, bytes, -, hhealth, -, -, -, hep, -, hgen, hpins⟩ :=
      pins_of_validatedAt (Topology.sound_after ops m) hval
    exact ⟨health, hhealth, hep, hgen,
      fun n hle => (Topology.pins_after hle hpins).health⟩
  decoded m epoch generation := by
    rintro ⟨commit, hval, rfl, rfl⟩
    obtain ⟨-, -, bytes, -, -, hbs, hdec, -⟩ :=
      pins_of_validatedAt (Topology.sound_after ops m) hval
    exact ⟨bytes, commit, hbs, hdec, rfl⟩
  written n := by
    rcases (Topology.moved_topologyStep (Topology.after ops n) (ops n)).witness with
      hsame | ⟨written, point, health, hbs, hdec, -, hhealth, -, hep⟩
    · exact .inl hsame
    · exact .inr ⟨written.encode, written, health, hbs, hdec, hhealth, hep⟩

end Planes

/-- A read through a pinned generation that succeeds, on either plane. The file it has read is the
    one that was validated: it was at the path under the pinned epoch from the validation to the
    last access of the read, and so was the witness, so that neither a rebuild of the plane nor a
    publication was completed in between. And every field of every sample was put into the slot
    that the manifest of the reader gives to the address, by the publication of that file or by a
    store under its layout; with equal manifests, a store for that address. -/
theorem pinned_reads (config : ShmRuntimeConfig) (healthPath : String)
    (ops : ℕ → TopologyOp (pointPublisher config) (healthPublisher healthPath)) {n : ℕ}
    {topology : ShmReadTopologyGeneration} (hreader : ReaderAt (Topology.after ops) n topology)
    {t : ℕ → ℕ} (hmono : Monotone t) (hn : n ≤ t 0) (nowMs : UInt64) (indices : List ℕ)
    (samples : List (Option SlotSnapshot)) :
    let last := t (ReconnectingSlotSource.lastAccess (6 * indices.length))
    let point k := (Topology.after ops k).point
    let health k := (Topology.after ops k).health
    let witness k := (Topology.after ops k).witness
    (topology.pointSource.readThrough nowMs (fun k => (point (t k)).volume) (6 * indices.length)
        (readBatch indices) = .ok samples →
      ∃ pin ≤ n, ∃ file, (∃ commit, ValidatedAt (Topology.after ops pin) topology.expected commit ∧
          commit.publicationEpoch = topology.pointSource.expectedPublicationEpoch ∧
          commit.pointWriterGeneration = topology.pointSource.expectedWriterGeneration) ∧
        ReadFrom point witness topology.pointSource topology.pointManifest.layoutHash pin last
          file ∧
        ∀ (i slot : ℕ) address, indices[i]? = some slot →
          topology.pointManifest.slotFor address = some slot →
          ∃ sample, samples[i]? = some (some sample) ∧ PutInto point sample file slot last
            fun writer key => writer.manifest.layoutHash = topology.pointManifest.layoutHash ∧
              writer.manifest.slotFor key = some slot ∧
              (writer.manifest = topology.pointManifest → key = address)) ∧
    (topology.channelHealth.readThrough nowMs (fun k => (health (t k)).volume)
        (6 * indices.length) (readBatch indices) = .ok samples →
      ∃ pin ≤ n, ∃ file, (∃ commit, ValidatedAt (Topology.after ops pin) topology.expected commit ∧
          commit.publicationEpoch = topology.channelHealth.expectedPublicationEpoch ∧
          commit.healthWriterGeneration = topology.channelHealth.expectedWriterGeneration) ∧
        ReadFrom health witness topology.channelHealth topology.healthManifest.layoutHash pin last
          file ∧
        ∀ (i slot : ℕ) channelId, indices[i]? = some slot →
          topology.healthManifest.slotFor channelId = some slot →
          ∃ sample, samples[i]? = some (some sample) ∧ PutInto health sample file slot last
            fun writer key => writer.manifest.layoutHash = topology.healthManifest.layoutHash ∧
              writer.manifest.slotFor key = some slot ∧
              (writer.manifest = topology.healthManifest → key = channelId)) := by
  intro last point health witness
  have hfacts := hreader.facts
  constructor
  · intro hread
    obtain ⟨pin, hpin, file, hpublication, hfrom, hsamples⟩ :=
      SourceAt.readFrom (Topology.pointHistory ops) hfacts.point
        (binds_point ops topology.expected) hmono hn hread
    refine ⟨pin, hpin, file, hpublication, hfrom, fun i slot address hi haddress => ?_⟩
    obtain ⟨sample, hsample, hput⟩ := hsamples i slot hi
    refine ⟨sample, hsample, hput.imp ?_⟩
    rintro writer key ⟨hhash, hslot⟩
    refine ⟨hhash, hslot, fun hmanifest => ?_⟩
    exact topology.pointManifest.eq_of_slotFor (hmanifest ▸ hslot) haddress
  · intro hread
    obtain ⟨pin, hpin, file, hpublication, hfrom, hsamples⟩ :=
      SourceAt.readFrom (Topology.healthHistory ops) hfacts.health
        (binds_health ops topology.expected) hmono hn hread
    refine ⟨pin, hpin, file, hpublication, hfrom, fun i slot channelId hi haddress => ?_⟩
    obtain ⟨sample, hsample, hput⟩ := hsamples i slot hi
    refine ⟨sample, hsample, hput.imp ?_⟩
    rintro writer key ⟨hhash, hslot⟩
    refine ⟨hhash, hslot, fun hmanifest => ?_⟩
    exact topology.healthManifest.eq_of_slotFor (hmanifest ▸ hslot) haddress

/-! ## A rebuild of the other plane -/

/-- The paths of the sample. -/
def rebuildConfig : ShmRuntimeConfig := ⟨"/shm/points", 8⟩

/-- A point plane without points. -/
def noPoints : ChannelPointManifest :=
  ⟨[], [], 0, 5, List.Pairwise.nil, rfl, List.Pairwise.nil, fun _ h => by cases h⟩

/-- A health plane with one channel. -/
def oneChannel : ChannelHealthManifest := ⟨[7], 9, List.pairwise_singleton _ _⟩

/-- The accesses of `set_online_unchecked` (`health.rs`, lines 161-179) for a channel that is online. -/
def setOnline (timestampMs : UInt64) : List SlotAccess :=
  .bump :: (pointSlot.stores ⟨F64.one, F64.one, timestampMs, 0⟩).map .store ++ [.bump]

/-- A step of the sample. -/
abbrev RebuildOp : Type :=
  TopologyOp (pointPublisher rebuildConfig) (healthPublisher "/shm/health")

/-- The first publication. -/
def firstPublication : List RebuildOp :=
  [TopologyOp.beginPublication 0, TopologyOp.nextEpoch 0 {},
    TopologyOp.point (SwapOp.stage 0 true ⟨⟨noPoints, 1, 2, 0, {}⟩, none⟩),
    TopologyOp.point SwapOp.advance, TopologyOp.point SwapOp.advance,
    TopologyOp.point SwapOp.advance,
    TopologyOp.health (SwapOp.stage 0 true ⟨oneChannel, 1, 2, 0, none, {}⟩),
    TopologyOp.health SwapOp.advance, TopologyOp.health SwapOp.advance,
    TopologyOp.health SwapOp.advance,
    TopologyOp.commit 0 1 {}, TopologyOp.health (SwapOp.heartbeat 0 1000)]

/-- The next publication begins with the rebuild of the point plane. -/
def pointRebuild : List RebuildOp :=
  [TopologyOp.beginPublication 0, TopologyOp.nextEpoch 0 {},
    TopologyOp.point (SwapOp.stage 0 false ⟨⟨noPoints, 2, 4, 0, {}⟩, none⟩),
    TopologyOp.point SwapOp.advance, TopologyOp.point SwapOp.advance,
    TopologyOp.point SwapOp.advance]

/-- A publication, a record for the channel, and the rebuild. -/
def rebuildSteps : List RebuildOp :=
  firstPublication ++
    (setOnline 1000).map (fun access => .health (.access 0 (7 : UInt32) access)) ++ pointRebuild

/-- The steps, and then nothing. -/
def rebuildHistory (n : ℕ) : RebuildOp :=
  rebuildSteps.getD n (.crash 1)

/-- A reader before its validation. -/
def lazyReader : ShmReadTopologyGeneration where
  pointSource := ⟨⟨"/shm/points", 5, 250, 30000, 250⟩, {}, publicationValidationPending, 0⟩
  pointManifest := noPoints
  channelHealth := ⟨⟨"/shm/health", 9, 250, 30000, 250⟩, {}, publicationValidationPending, 0⟩
  healthManifest := oneChannel
  pointWriterGeneration := 0
  healthWriterGeneration := 0
  publicationEpoch := 0

/-- The reader, pinned to the publication before the rebuild. -/
def pinnedReader : ShmReadTopologyGeneration :=
  let s := Topology.after rebuildHistory 18
  (lazyReader.withValidatedAuthority 0 s.point.volume s.health.volume s.witness {}).2

/-- The rebuild falls between the first fence of a read and its loads. -/
def duringRead (k : ℕ) : ℕ := if k < 4 then 18 else 24

theorem readerAt_pinnedReader : ReaderAt (Topology.after rebuildHistory) 18 pinnedReader := by
  have hlazy : ShmReadTopologyGeneration.newLazy ⟨"/shm/points", 5, 250, 30000, 250⟩
      ⟨"/shm/health", 9, 250, 30000, 250⟩ noPoints oneChannel = .ok lazyReader := by
    unfold ShmReadTopologyGeneration.newLazy
    rw [if_neg (by decide)]
    rfl
  exact .validated (.created rfl rfl hlazy) 0 {}

theorem monotone_duringRead : Monotone duringRead := by
  intro a b hab
  unfold duringRead
  split_ifs <;> omega

theorem read_duringRead :
    pinnedReader.channelHealth.readThrough 1000
      (fun k => (Topology.after rebuildHistory (duringRead k)).health.volume) 6 (readBatch [0]) =
        .ok [some ⟨F64.one, F64.one, 1000, .good⟩] := by
  decide +kernel

/-- A read of the health plane succeeds although the point plane is rebuilt during it. -/
theorem health_read_during_point_rebuild :
    ReaderAt (Topology.after rebuildHistory) 18 pinnedReader ∧ Monotone duringRead ∧
    18 ≤ duringRead 0 ∧
    pinnedReader.channelHealth.readThrough 1000
      (fun k => (Topology.after rebuildHistory (duringRead k)).health.volume) 6 (readBatch [0]) =
        .ok [some ⟨F64.one, F64.one, 1000, .good⟩] ∧
    let first := Topology.after rebuildHistory (duringRead 0)
    let last := Topology.after rebuildHistory (duringRead (ReconnectingSlotSource.lastAccess 6))
    first.point.volume.epoch? = some 1 ∧ first.point.replacing.isNone ∧
      last.point.volume.epoch? = some 2 ∧ last.point.replacing.isNone := by
  refine ⟨readerAt_pinnedReader, monotone_duringRead, by decide, read_duringRead, ?_⟩
  decide +kernel

/-- The read is from the health file of the pinned publication. -/
theorem pinned_reads_duringRead :
    ∃ pin ≤ 18, ∃ file, ReadFrom (fun k => (Topology.after rebuildHistory k).health)
      (fun k => (Topology.after rebuildHistory k).witness) pinnedReader.channelHealth
      pinnedReader.healthManifest.layoutHash pin 24 file := by
  obtain ⟨pin, hpin, file, -, hfrom, -⟩ :=
    (pinned_reads rebuildConfig "/shm/health" rebuildHistory readerAt_pinnedReader
      monotone_duringRead (by decide) 1000 [0]
      [some ⟨F64.one, F64.one, 1000, .good⟩]).2 read_duringRead
  exact ⟨pin, hpin, file, hfrom⟩

end AetherEdge.Shm
