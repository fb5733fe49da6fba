import AetherEdge.Shm.Replacement
import AetherEdge.Shm.TopologyCommit

/-!
# Histories of topology publications

A publication (`publish_topology_generation`, `topology_commit.rs`, and the start of the IO service,
`services/io/src/main.rs`) takes the lease of the witness, allocates an epoch, replaces the point
plane and the health plane under it and commits the witness. Here the steps of any number of
processes are taken one by one, and a process may die, or give up after an error, between any two of
them. A process replaces a plane only under the epoch that it has allocated.

Which publication has put a file in place, and which files a witness was written for, is kept
beside the state.

* `Topology.Sound.step`: what every step keeps;
* `files_of_one_epoch`: files under one epoch come from one publication;
* `publication_epochs`: over every history, new epochs are above all that have been there, and
  what is accepted was written by one publication.
-/

namespace AetherEdge.Shm

open Transition Dataplane Volume TopologyPublicationCommit Option

/-- A witness that was put in place, with the files that it names. -/
structure Committed where
  commit : TopologyPublicationCommit
  point : ℕ
  health : ℕ

/-- Both planes, witness and guard. -/
structure Topology (P Q : Publisher) where
  point : Plane P
  health : Plane Q
  witness : Option Bytes
  guard : Option TopologyPublicationGuard
  /-- the publications so far -/
  publications : ℕ
  /-- the publication of each file -/
  pointBy : ℕ → ℕ
  healthBy : ℕ → ℕ
  committed : List Committed

/-- The steps of a topology. -/
inductive TopologyOp (P Q : Publisher) where
  | beginPublication (process : ℕ)
  | nextEpoch (process : ℕ) (faults : EpochFaults)
  | point (op : SwapOp P)
  | health (op : SwapOp Q)
  | commit (process : ℕ) (publicationEpoch : UInt64) (faults : CommitFaults)
  | abandon (process : ℕ)
  | crash (process : ℕ)

namespace Topology

variable {P Q : Publisher}

variable (P Q) in
/-- Without files. -/
def initial : Topology P Q where
  point := .initial P
  health := .initial Q
  witness := none
  guard := none
  publications := 0
  pointBy _ := 0
  healthBy _ := 0
  committed := []

/-- The process holds the lease and has allocated the epoch. -/
def authorizes (s : Topology P Q) (process : ℕ) (epoch : UInt64) : Bool :=
  s.guard.any fun guard =>
    guard.process == process && guard.allocated.any fun allocated => allocated.2 == epoch

/-- Nobody replaces a plane, so that the shared leases of both are to be had. -/
def quiet (s : Topology P Q) : Bool := s.point.replacing.isNone && s.health.replacing.isNone

/-- A file that is new at the path belongs to the publication under way. -/
def credit (credited : ℕ → ℕ) (before after : Volume) (guard : Option TopologyPublicationGuard) :
    ℕ → ℕ :=
  if after.next = before.next then credited
  else Function.update credited before.next (guard.elim 0 (·.publication))

/-- Whether a step on a plane is taken. -/
def allows (s : Topology P Q) {R : Publisher} : SwapOp R → Bool
  | .stage process _ request => s.authorizes process (R.epoch request)
  | _ => true

/-- A step of the point plane. -/
def stepPoint (s : Topology P Q) (op : SwapOp P) : Topology P Q :=
  if s.allows op then
    let point := swapStep s.point op
    { s with
      point := point
      pointBy := credit s.pointBy s.point.volume point.volume s.guard }
  else s

/-- A step of the health plane. -/
def stepHealth (s : Topology P Q) (op : SwapOp Q) : Topology P Q :=
  if s.allows op then
    let health := swapStep s.health op
    { s with
      health := health
      healthBy := credit s.healthBy s.health.volume health.volume s.guard }
  else s

/-- `begin_topology_publication` (`topology_commit.rs:245-253`), when the lease is free. -/
def beginPublication (s : Topology P Q) (process : ℕ) : Topology P Q :=
  match s.guard with
  | some _ => s
  | none =>
    { s with guard := some ⟨process, s.publications, none⟩, publications := s.publications + 1 }

/-- `next_publication_epoch`, by the process that holds the lease. -/
def nextEpoch (s : Topology P Q) (process : ℕ) (faults : EpochFaults) : Topology P Q :=
  match s.guard with
  | none => s
  | some guard =>
    if guard.process = process ∧ s.quiet then
      { s with guard := some (nextPublicationEpoch P.path Q.path s.point.volume s.health.volume
          s.witness guard faults).2 }
    else s

/-- The files at the paths, with a witness that has just been written. -/
def record (s : Topology P Q) (bytes : Option Bytes) : List Committed :=
  match bytes, s.point.volume.canonical, s.health.volume.canonical with
  | some bytes, some point, some health =>
    match decode bytes with
    | .ok commit => [⟨commit, point, health⟩]
    | .error _ => []
  | _, _, _ => []

/-- `commit`, which gives the lease back. -/
def commitBy (s : Topology P Q) (process : ℕ) (publicationEpoch : UInt64) (faults : CommitFaults) :
    Topology P Q :=
  match s.guard with
  | none => s
  | some guard =>
    if guard.process = process ∧ s.quiet then
      let witness := (commit P.path Q.path s.point.volume s.health.volume s.witness guard
        publicationEpoch faults).2
      { s with
        witness := witness
        guard := none
        committed := if witness = s.witness then s.committed else s.record witness ++ s.committed }
    else s

/-- A process returns from a publication that has failed. -/
def abandon (s : Topology P Q) (process : ℕ) : Topology P Q :=
  match s.guard with
  | none => s
  | some guard => if guard.process = process ∧ s.quiet then { s with guard := none } else s

/-- A process dies. -/
def crash (s : Topology P Q) (process : ℕ) : Topology P Q :=
  { s with
    point := s.point.crash process
    health := s.health.crash process
    guard := s.guard.filter fun guard => guard.process ≠ process }

end Topology

/-- The transition function. -/
def topologyStep {P Q : Publisher} (s : Topology P Q) : TopologyOp P Q → Topology P Q
  | .beginPublication process => s.beginPublication process
  | .nextEpoch process faults => s.nextEpoch process faults
  | .point op => s.stepPoint op
  | .health op => s.stepHealth op
  | .commit process publicationEpoch faults => s.commitBy process publicationEpoch faults
  | .abandon process => s.abandon process
  | .crash process => s.crash process

/-! ## One plane -/

section Plane

variable {P : Publisher} {volume volume' : Volume} {credited : ℕ → ℕ} {epoch : UInt64}
  {publication file : ℕ}

/-- The epoch of a file. -/
def Volume.epochAt (volume : Volume) (inode : ℕ) : UInt64 :=
  (volume.inodes inode).header.publicationEpoch

/-- The file at the path is not above an epoch. -/
def Below (volume : Volume) (epoch : UInt64) : Prop :=
  ∀ inode, volume.canonical = some inode → volume.epochAt inode ≤ epoch

/-- If the file at the path has the epoch, the publication has put it there. -/
def CreditedTo (volume : Volume) (credited : ℕ → ℕ) (epoch : UInt64) (publication : ℕ) : Prop :=
  ∀ inode, volume.canonical = some inode → volume.epochAt inode = epoch →
    credited inode = publication

/-- A file is at the path, and it is the given one unless its epoch is larger. -/
def Names (volume : Volume) (epoch : UInt64) (file : ℕ) : Prop :=
  file < volume.next ∧ ∃ inode, volume.canonical = some inode ∧ epoch ≤ volume.epochAt inode ∧
    (volume.epochAt inode = epoch → inode = file)

/-- The epoch at the path is at least what it was. -/
def Rises (volume volume' : Volume) : Prop :=
  ∀ inode, volume.canonical = some inode → ∃ inode', volume'.canonical = some inode' ∧
    volume.epochAt inode ≤ volume'.epochAt inode'

theorem epoch?_of_canonical {inode : ℕ} (h : volume.canonical = some inode) :
    volume.epoch? = some (volume.epochAt inode) := by
  rw [Volume.epoch?, h]
  rfl

theorem Keeps.epochAt (h : Keeps volume volume') (inode : ℕ) :
    volume'.epochAt inode = volume.epochAt inode := (h.file inode).publicationEpoch

theorem Rises.refl (volume : Volume) : Rises volume volume :=
  fun inode hcan => ⟨inode, hcan, UInt64.le_refl _⟩

theorem Rises.trans {volume'' : Volume} (h : Rises volume volume') (h' : Rises volume' volume'') :
    Rises volume volume'' := by
  intro inode hcan
  obtain ⟨inode', hcan', hle⟩ := h inode hcan
  obtain ⟨inode'', hcan'', hle'⟩ := h' inode' hcan'
  exact ⟨inode'', hcan'', UInt64.le_trans hle hle'⟩

theorem Rises.keeps (h : Keeps volume volume') : Rises volume volume' := by
  intro inode hcan
  refine ⟨inode, h.canonical.trans hcan, ?_⟩
  rw [h.epochAt]
  exact UInt64.le_refl _

theorem Below.keeps (h : Below volume epoch) (hkp : Keeps volume volume') :
    Below volume' epoch := by
  intro inode hcan
  rw [hkp.canonical] at hcan
  rw [hkp.epochAt]
  exact h inode hcan

theorem CreditedTo.keeps (h : CreditedTo volume credited epoch publication)
    (hkp : Keeps volume volume') : CreditedTo volume' credited epoch publication := by
  intro inode hcan hep
  rw [hkp.canonical] at hcan
  rw [hkp.epochAt] at hep
  exact h inode hcan hep

theorem Names.keeps (h : Names volume epoch file) (hkp : Keeps volume volume') :
    Names volume' epoch file := by
  obtain ⟨hlt, inode, hcan, hle, heq⟩ := h
  refine ⟨hkp.next ▸ hlt, inode, hkp.canonical.trans hcan, ?_, ?_⟩
  · rw [hkp.epochAt]
    exact hle
  · rw [hkp.epochAt]
    exact heq

theorem names_of_canonical (h : volume.canonical = some file)
    (hep : volume.epochAt file = epoch) : Names volume epoch file :=
  ⟨volume.canonical_lt file h, file, h, UInt64.le_of_eq hep.symm, fun _ => rfl⟩

theorem canonical_rename {staging : Segment} {inode : ℕ}
    (h : (volume.rename staging).canonical = some inode) :
    inode = volume.next ∧
      (volume.rename staging).epochAt inode = staging.header.publicationEpoch := by
  obtain rfl := Option.some.inj h
  refine ⟨rfl, ?_⟩
  rw [Volume.epochAt, rename_new]

theorem Names.rename (h : Names volume epoch file) {staging : Segment}
    (hlt : epoch < staging.header.publicationEpoch) :
    Names (volume.rename staging) epoch file := by
  refine ⟨Nat.lt_succ_of_lt h.1, volume.next, rfl, ?_, ?_⟩
  · rw [(canonical_rename rfl).2]
    exact UInt64.le_of_lt hlt
  · intro heq
    rw [(canonical_rename rfl).2] at heq
    rw [heq] at hlt
    exact absurd hlt (UInt64.lt_irrefl _)

theorem credit_of_keeps (h : Keeps volume volume') (guard : Option TopologyPublicationGuard) :
    Topology.credit credited volume volume' guard = credited := if_pos h.next

theorem credit_rename (credited : ℕ → ℕ) (staging : Segment)
    (guard : Option TopologyPublicationGuard) :
    Topology.credit credited volume (volume.rename staging) guard =
      Function.update credited volume.next (guard.elim 0 (·.publication)) :=
  if_neg (Nat.succ_ne_self _)

/-- The lease under which a plane is being replaced. -/
structure UnderGuard (P : Publisher) (plane : Plane P) (guard : Option TopologyPublicationGuard) :
    Prop where
  staged : ∀ r, plane.replacing = some r →
    r.staging.header.publicationEpoch = P.epoch r.request ∧
    ∃ g path, guard = some g ∧ g.process = r.process ∧
      g.allocated = some (path, P.epoch r.request)

/-- What a step does to the files of a plane: they stay, or a file is put in place under the epoch
    that has been allocated. -/
theorem UnderGuard.keeps_or_renamed {plane : Plane P} {guard : Option TopologyPublicationGuard}
    (h : UnderGuard P plane guard) (op : SwapOp P) :
    Keeps plane.volume (swapStep plane op).volume ∨
    ∃ g path epoch staging, guard = some g ∧ g.allocated = some (path, epoch) ∧
      staging.header.publicationEpoch = epoch ∧
      (swapStep plane op).volume = plane.volume.rename staging := by
  rcases (swapStep_cases plane op).keeps_or_renamed with hkp | ⟨r, -, hrepl, -, hvol⟩
  · exact .inl hkp
  · obtain ⟨hep, g, path, hgd, -, halloc⟩ := h.staged r hrepl
    exact .inr ⟨g, path, _, r.staging, hgd, halloc, hep, hvol⟩

section Step

variable {plane : Plane P} {guard : Option TopologyPublicationGuard}

variable (h : UnderGuard P plane guard)

include h

theorem UnderGuard.below {g : TopologyPublicationGuard} {path : String} (hgd : guard = some g)
    (halloc : g.allocated = some (path, epoch)) (hbel : Below plane.volume epoch)
    (op : SwapOp P) : Below (swapStep plane op).volume epoch := by
  rcases h.keeps_or_renamed op with hkp | ⟨g', path', epoch', staging, hg, ha, hep, hvol⟩
  · exact hbel.keeps hkp
  obtain rfl := Option.some.inj (hgd.symm.trans hg)
  obtain ⟨-, rfl⟩ := Prod.mk.inj (Option.some.inj (halloc.symm.trans ha))
  intro inode hcan
  rw [hvol] at hcan ⊢
  rw [(canonical_rename hcan).2, hep]
  exact UInt64.le_refl _

/-- The files of an epoch stay credited to a publication that no other allocates it from. -/
theorem UnderGuard.creditedTo (hcredited : CreditedTo plane.volume credited epoch publication)
    (honly : ∀ g path, guard = some g → g.allocated = some (path, epoch) → g.publication =
      publication)
    (op : SwapOp P) :
    CreditedTo (swapStep plane op).volume
      (Topology.credit credited plane.volume (swapStep plane op).volume guard) epoch
      publication := by
  rcases h.keeps_or_renamed op with hkp | ⟨g, path, epoch', staging, hg, ha, hep, hvol⟩
  · rw [credit_of_keeps hkp]
    exact hcredited.keeps hkp
  intro inode hcan heq
  rw [hvol] at hcan heq ⊢
  obtain ⟨rfl, hstg⟩ := canonical_rename hcan
  rw [hstg, hep] at heq
  subst heq
  rw [credit_rename, Function.update_self, hg]
  exact honly g path hg ha

theorem UnderGuard.names (hnames : Names plane.volume epoch file)
    (habv : ∀ g path epoch', guard = some g → g.allocated = some (path, epoch') → epoch < epoch')
    (op : SwapOp P) : Names (swapStep plane op).volume epoch file := by
  rcases h.keeps_or_renamed op with hkp | ⟨g, path, epoch', staging, hg, ha, hep, hvol⟩
  · exact hnames.keeps hkp
  rw [hvol]
  refine hnames.rename ?_
  rw [hep]
  exact habv g path epoch' hg ha

theorem UnderGuard.credit_eq (hfile : file < plane.volume.next) (op : SwapOp P) :
    Topology.credit credited plane.volume (swapStep plane op).volume guard file =
      credited file := by
  rcases h.keeps_or_renamed op with hkp | ⟨g, path, epoch', staging, -, -, -, hvol⟩
  · rw [credit_of_keeps hkp]
  · rw [hvol, credit_rename, Function.update_of_ne (Nat.ne_of_lt hfile)]

theorem UnderGuard.step {op : SwapOp P}
    (hstg : ∀ process fresh request, op = .stage process fresh request → ∃ g path, guard = some g
      ∧ g.process = process ∧ g.allocated = some (path, P.epoch request)) :
    UnderGuard P (swapStep plane op) guard where
  staged r hr := by
    rcases swapStep_replacing hr with ⟨r', hr', hproc, hreq, hstaging⟩ | ⟨fresh, hop, hstaged⟩
    · have := h.staged r' hr'
      rwa [hproc, hreq, hstaging] at this
    · exact ⟨(P.staged hstaged).2.1, hstg _ _ _ hop⟩

theorem UnderGuard.rises
    (hbel : ∀ g path epoch, guard = some g → g.allocated = some (path, epoch) → Below
      plane.volume epoch)
    (op : SwapOp P) : Rises plane.volume (swapStep plane op).volume := by
  rcases h.keeps_or_renamed op with hkp | ⟨g, path, epoch, staging, hg, ha, hep, hvol⟩
  · exact .keeps hkp
  intro inode hcan
  rw [hvol]
  refine ⟨_, rfl, ?_⟩
  rw [(canonical_rename rfl).2, hep]
  exact hbel g path epoch hg ha inode hcan

theorem UnderGuard.replacing_of_free (hfree : guard = none) : plane.replacing = none := by
  by_contra hne
  obtain ⟨r, hr⟩ := ne_none_iff_exists'.1 hne
  obtain ⟨-, g, -, hg, -⟩ := h.staged r hr
  rw [hfree] at hg
  cases hg

theorem UnderGuard.crash (process : ℕ) :
    UnderGuard P (plane.crash process) (guard.filter fun g => g.process ≠ process) where
  staged r hr := by
    obtain ⟨hrepl, hne⟩ := filter_eq_some_iff.1 hr
    obtain ⟨hep, g, path, rfl, hproc, halloc⟩ := h.staged r hrepl
    refine ⟨hep, g, path, ?_, hproc, halloc⟩
    rw [filter_some, if_pos]
    rwa [hproc]

end Step

end Plane

/-! ## The invariant -/

namespace Topology

variable {P Q : Publisher}

/-- What every step keeps. -/
structure Sound (s : Topology P Q) : Prop where
  point : UnderGuard P s.point s.guard
  health : UnderGuard Q s.health s.guard
  /-- an allocated epoch is not below the files that are there, and those that have it were put
      there under it -/
  pointBelow : ∀ g path epoch, s.guard = some g → g.allocated = some (path, epoch) →
    Below s.point.volume epoch
  healthBelow : ∀ g path epoch, s.guard = some g → g.allocated = some (path, epoch) →
    Below s.health.volume epoch
  pointCredited : ∀ g path epoch, s.guard = some g → g.allocated = some (path, epoch) →
    CreditedTo s.point.volume s.pointBy epoch g.publication
  healthCredited : ∀ g path epoch, s.guard = some g → g.allocated = some (path, epoch) →
    CreditedTo s.health.volume s.healthBy epoch g.publication
  /-- two files under one epoch were put in place by one publication -/
  agree : ∀ inode, s.health.volume.canonical = some inode →
    CreditedTo s.point.volume s.pointBy (s.health.volume.epochAt inode) (s.healthBy inode)
  /-- the files that the witness names, and that no larger epoch has been put in their place -/
  witness : ∀ bytes, s.witness = some bytes → ∃ record ∈ s.committed,
    decode bytes = .ok record.commit ∧
    Names s.point.volume record.commit.publicationEpoch record.point ∧
    Names s.health.volume record.commit.publicationEpoch record.health ∧
    s.pointBy record.point = s.healthBy record.health ∧
    ∀ g path epoch, s.guard = some g → g.allocated = some (path, epoch) →
      record.commit.publicationEpoch < epoch

theorem sound_initial : (initial P Q).Sound where
  point := ⟨fun _ h => by cases h⟩
  health := ⟨fun _ h => by cases h⟩
  pointBelow _ _ _ h := by cases h
  healthBelow _ _ _ h := by cases h
  pointCredited _ _ _ h := by cases h
  healthCredited _ _ _ h := by cases h
  agree _ h := by cases h
  witness _ h := by cases h

variable {s : Topology P Q} {epoch : UInt64}

theorem authorizes_iff {process : ℕ} :
    s.authorizes process epoch = true ↔
      ∃ g path, s.guard = some g ∧ g.process = process ∧ g.allocated = some (path, epoch) := by
  unfold authorizes
  rcases s.guard with _ | g
  · simp
  cases halloc : g.allocated with
  | none => simp [halloc]
  | some allocated =>
    obtain ⟨path, epoch'⟩ := allocated
    simp [halloc]

theorem stages_of_allows {R : Publisher} {op : SwapOp R} (h : s.allows op = true) :
    ∀ process fresh request, op = .stage process fresh request → ∃ g path, s.guard = some g ∧
      g.process = process ∧ g.allocated = some (path, R.epoch request) := by
  rintro process fresh request rfl
  exact authorizes_iff.1 h

theorem record_eq {point health : ℕ} {bytes : Bytes} {commit : TopologyPublicationCommit}
    (hpt : s.point.volume.canonical = some point)
    (hhealth : s.health.volume.canonical = some health)
    (hdec : decode bytes = .ok commit) :
    s.record (some bytes) = [⟨commit, point, health⟩] := by
  simp only [record, hpt, hhealth, hdec]

/-- What a step can do: nothing, a step on one plane, a change of the lease, which may come with an
    epoch above both files, a witness of the two files at the paths, or a death. -/
inductive Moved (s : Topology P Q) : Topology P Q → Prop where
  | stays : Moved s s
  | point (op : SwapOp P) (hallows : s.allows op = true) : Moved s { s with
      point := swapStep s.point op
      pointBy := credit s.pointBy s.point.volume (swapStep s.point op).volume s.guard }
  | health (op : SwapOp Q) (hallows : s.allows op = true) : Moved s { s with
      health := swapStep s.health op
      healthBy := credit s.healthBy s.health.volume (swapStep s.health op).volume s.guard }
  | lease (guard : Option TopologyPublicationGuard) (publications : ℕ)
      (hfree : s.guard = none ∨ s.quiet = true)
      (habove : ∀ g path epoch, guard = some g → g.allocated = some (path, epoch) →
        (∀ inode, s.point.volume.canonical = some inode → s.point.volume.epochAt inode < epoch) ∧
        ∀ inode, s.health.volume.canonical = some inode → s.health.volume.epochAt inode < epoch) :
      Moved s { s with guard := guard, publications := publications }
  | commit (written : TopologyPublicationCommit) (point health : ℕ) (hquiet : s.quiet = true)
      (hdecode : decode written.encode = .ok written)
      (hpoint : s.point.volume.canonical = some point)
      (hhealth : s.health.volume.canonical = some health)
      (hpointEpoch : s.point.volume.epochAt point = written.publicationEpoch)
      (hhealthEpoch : s.health.volume.epochAt health = written.publicationEpoch) :
      Moved s { s with
        guard := none
        witness := some written.encode
        committed := ⟨written, point, health⟩ :: s.committed }
  | crash (process : ℕ) : Moved s (s.crash process)

theorem moved_nextEpoch (s : Topology P Q) (process : ℕ) (faults : EpochFaults) :
    Moved s (s.nextEpoch process faults) := by
  unfold Topology.nextEpoch
  rcases hgd : s.guard with _ | guard
  · exact .stays
  dsimp only
  split_ifs with hcond
  swap
  · exact .stays
  rcases nextPublicationEpoch_cases P.path Q.path s.point.volume s.health.volume s.witness guard
    faults with ⟨hsame, -⟩ | ⟨-, epoch, hfr, hnext⟩
  · rw [hsame, ← hgd]
    exact .stays
  obtain ⟨-, hfreshP, hfreshH⟩ := freshEpoch_eq_ok hfr
  rw [hnext]
  refine .lease _ s.publications (.inr hcond.2) (fun g path epoch' hg ha => ?_)
  obtain rfl := Option.some.inj hg
  obtain ⟨-, rfl⟩ := Prod.mk.inj (Option.some.inj ha)
  exact ⟨fun inode hcan => hfreshP _ (epoch?_of_canonical hcan),
    fun inode hcan => hfreshH _ (epoch?_of_canonical hcan)⟩

theorem moved_commitBy (s : Topology P Q) (process : ℕ) (publicationEpoch : UInt64)
    (faults : CommitFaults) : Moved s (s.commitBy process publicationEpoch faults) := by
  unfold Topology.commitBy
  rcases s.guard with _ | guard
  · exact .stays
  dsimp only
  by_cases hcond : guard.process = process ∧ s.quiet = true
  swap
  · rw [if_neg hcond]
    exact .stays
  rw [if_pos hcond]
  rcases commit_cases P.path Q.path s.point.volume s.health.volume s.witness guard
    publicationEpoch faults with ⟨error, hcomm⟩ | ⟨written, hplanes, -, hcomm⟩
  · rw [hcomm, if_pos rfl]
    exact .lease none s.publications (.inr hcond.2) (fun _ _ _ hg => by cases hg)
  rw [hcomm]
  by_cases hsame : some written.encode = s.witness
  · rw [if_pos hsame]
    dsimp only
    rw [hsame]
    exact .lease none s.publications (.inr hcond.2) (fun _ _ _ hg => by cases hg)
  · rw [if_neg hsame]
    obtain ⟨hval, point, health, hpt, hhealth, hepochP, hepochH, hwr⟩ :=
      commitOfPlanes_eq_ok hplanes
    have hep : written.publicationEpoch = publicationEpoch := by rw [hwr]; rfl
    rw [← hep] at hval hepochP hepochH
    have hdec := decode_encode hval
    rw [record_eq hpt hhealth hdec]
    exact .commit written point health hcond.2 hdec hpt hhealth hepochP hepochH

theorem moved_topologyStep (s : Topology P Q) (op : TopologyOp P Q) :
    Moved s (topologyStep s op) := by
  cases op with
  | beginPublication process =>
    simp only [topologyStep, Topology.beginPublication]
    cases hgd : s.guard with
    | some guard => exact .stays
    | none =>
      refine .lease _ _ (.inl hgd) (fun g path epoch hg ha => ?_)
      obtain rfl := Option.some.inj hg
      cases ha
  | nextEpoch process faults => exact moved_nextEpoch s process faults
  | point op =>
    simp only [topologyStep, Topology.stepPoint]
    split_ifs with hallows
    · exact .point op hallows
    · exact .stays
  | health op =>
    simp only [topologyStep, Topology.stepHealth]
    split_ifs with hallows
    · exact .health op hallows
    · exact .stays
  | commit process publicationEpoch faults => exact moved_commitBy s process publicationEpoch faults
  | abandon process =>
    simp only [topologyStep, Topology.abandon]
    split
    · exact .stays
    · split_ifs with hcond
      · exact .lease none s.publications (.inr hcond.2) (fun _ _ _ hg => by cases hg)
      · exact .stays
  | crash process => exact .crash process

theorem Sound.stepPoint (h : s.Sound) {op : SwapOp P} (hallows : s.allows op = true) :
    Sound { s with
      point := swapStep s.point op
      pointBy := credit s.pointBy s.point.volume (swapStep s.point op).volume s.guard } :=
  { h with
    point := h.point.step (stages_of_allows hallows)
    pointBelow := fun g path epoch hg ha => h.point.below hg ha (h.pointBelow g path epoch hg ha) op
    pointCredited := by
      intro g path epoch hg ha
      refine h.point.creditedTo (h.pointCredited g path epoch hg ha) ?_ op
      intro g' path' hg' ha'
      rw [Option.some.inj (hg'.symm.trans hg)]
    agree := by
      intro inode hcan
      refine h.point.creditedTo (h.agree inode hcan) ?_ op
      intro g path hg ha
      exact (h.healthCredited g path _ hg ha inode hcan rfl).symm
    witness := by
      intro bytes hbs
      obtain ⟨record, hmem, hdec, hpt, hhealth, hby, habv⟩ := h.witness bytes hbs
      refine ⟨record, hmem, hdec, h.point.names hpt habv op, hhealth, ?_, habv⟩
      rw [← hby]
      exact h.point.credit_eq hpt.1 op }

theorem Sound.stepHealth (h : s.Sound) {op : SwapOp Q} (hallows : s.allows op = true) :
    Sound { s with
      health := swapStep s.health op
      healthBy := credit s.healthBy s.health.volume (swapStep s.health op).volume s.guard } :=
  { h with
    health := h.health.step (stages_of_allows hallows)
    healthBelow := fun g path epoch hg ha =>
      h.health.below hg ha (h.healthBelow g path epoch hg ha) op
    healthCredited := by
      intro g path epoch hg ha
      refine h.health.creditedTo (h.healthCredited g path epoch hg ha) ?_ op
      intro g' path' hg' ha'
      rw [Option.some.inj (hg'.symm.trans hg)]
    agree := by
      intro inode hcan point hpt hep
      refine (h.health.creditedTo (fun inode' hcan' hep' => ?_) ?_ op inode hcan
        hep.symm).symm
      · exact (h.agree inode' hcan' point hpt hep'.symm).symm
      · intro g path hg ha
        exact (h.pointCredited g path _ hg ha point hpt rfl).symm
    witness := by
      intro bytes hbs
      obtain ⟨record, hmem, hdec, hpt, hhealth, hby, habv⟩ := h.witness bytes hbs
      refine ⟨record, hmem, hdec, hpt, h.health.names hhealth habv op, ?_, habv⟩
      rw [hby]
      exact (h.health.credit_eq hhealth.1 op).symm }

/-- A lease that changes hands while nobody replaces a plane: an epoch that it has allocated is
    above both files. -/
theorem Sound.withGuard (h : s.Sound) (hpt : s.point.replacing = none)
    (hhealth : s.health.replacing = none) {guard : Option TopologyPublicationGuard}
    (hgd : ∀ g path epoch, guard = some g → g.allocated = some (path, epoch) → (∀ inode,
      s.point.volume.canonical = some inode → s.point.volume.epochAt inode < epoch) ∧ ∀ inode,
      s.health.volume.canonical = some inode → s.health.volume.epochAt inode < epoch)
    (publications : ℕ) :
    Sound { s with guard := guard, publications := publications } where
  point := ⟨fun r hr => by rw [hpt] at hr; cases hr⟩
  health := ⟨fun r hr => by rw [hhealth] at hr; cases hr⟩
  pointBelow g path epoch hg ha inode hcan :=
    UInt64.le_of_lt ((hgd g path epoch hg ha).1 inode hcan)
  healthBelow g path epoch hg ha inode hcan :=
    UInt64.le_of_lt ((hgd g path epoch hg ha).2 inode hcan)
  pointCredited g path epoch hg ha inode hcan heq :=
    absurd heq (UInt64.ne_of_lt ((hgd g path epoch hg ha).1 inode hcan))
  healthCredited g path epoch hg ha inode hcan heq :=
    absurd heq (UInt64.ne_of_lt ((hgd g path epoch hg ha).2 inode hcan))
  agree := h.agree
  witness bytes hbs := by
    obtain ⟨record, hmem, hdec, hnames, hhealthNames, hby, -⟩ := h.witness bytes hbs
    refine ⟨record, hmem, hdec, hnames, hhealthNames, hby, fun g path epoch hg ha => ?_⟩
    obtain ⟨-, inode, hcan, hle, -⟩ := hnames
    exact UInt64.lt_of_le_of_lt hle ((hgd g path epoch hg ha).1 inode hcan)

theorem replacing_of_quiet (h : s.quiet = true) :
    s.point.replacing = none ∧ s.health.replacing = none := by
  simpa [quiet, isNone_iff_eq_none] using h

theorem Sound.withWitness (h : s.Sound) (hgd : s.guard = none)
    {commit : TopologyPublicationCommit} {point health : ℕ}
    (hpt : s.point.volume.canonical = some point)
    (hhealth : s.health.volume.canonical = some health)
    (hepochP : s.point.volume.epochAt point = commit.publicationEpoch)
    (hepochH : s.health.volume.epochAt health = commit.publicationEpoch) {bytes : Bytes}
    (hdec : decode bytes = .ok commit) :
    Sound { s with
      witness := some bytes
      committed := ⟨commit, point, health⟩ :: s.committed } := { h with
  witness := by
    intro bytes' hbs
    obtain rfl := Option.some.inj hbs
    refine ⟨_, List.mem_cons_self, hdec, names_of_canonical hpt hepochP,
      names_of_canonical hhealth hepochH, ?_, ?_⟩
    · exact h.agree health hhealth point hpt (hepochP.trans hepochH.symm)
    · intro g path epoch hg
      rw [hgd] at hg
      cases hg }

theorem Sound.crash (h : s.Sound) (process : ℕ) : (s.crash process).Sound := by
  have hgd : ∀ {g}, (s.guard.filter fun g => g.process ≠ process) = some g →
      s.guard = some g := fun hg => (filter_eq_some_iff.1 hg).1
  exact {
    point := h.point.crash process
    health := h.health.crash process
    pointBelow := fun g path epoch hg => h.pointBelow g path epoch (hgd hg)
    healthBelow := fun g path epoch hg => h.healthBelow g path epoch (hgd hg)
    pointCredited := fun g path epoch hg => h.pointCredited g path epoch (hgd hg)
    healthCredited := fun g path epoch hg => h.healthCredited g path epoch (hgd hg)
    agree := h.agree
    witness := by
      intro bytes hbs
      obtain ⟨record, hmem, hdec, hpt, hhealth, hby, habv⟩ := h.witness bytes hbs
      exact ⟨record, hmem, hdec, hpt, hhealth, hby,
        fun g path epoch hg => habv g path epoch (hgd hg)⟩ }

theorem Sound.moved {s' : Topology P Q} (h : s.Sound) (hmoved : Moved s s') : s'.Sound := by
  cases hmoved with
  | stays => exact h
  | point op hallows => exact h.stepPoint hallows
  | health op hallows => exact h.stepHealth hallows
  | crash process => exact h.crash process
  | lease guard publications hfree habv =>
    rcases hfree with hfree | hquiet
    · exact h.withGuard (h.point.replacing_of_free hfree) (h.health.replacing_of_free hfree)
        habv publications
    · obtain ⟨hpt, hhealth⟩ := replacing_of_quiet hquiet
      exact h.withGuard hpt hhealth habv publications
  | commit written point health hquiet hdec hpt hhealth hepochP hepochH =>
    obtain ⟨hpointIdle, hhealthIdle⟩ := replacing_of_quiet hquiet
    exact (h.withGuard hpointIdle hhealthIdle (fun _ _ _ hg => by cases hg)
      s.publications).withWitness rfl hpt hhealth hepochP hepochH hdec

theorem Sound.step (h : s.Sound) (op : TopologyOp P Q) : (topologyStep s op).Sound :=
  h.moved (moved_topologyStep s op)

theorem Sound.rises {s' : Topology P Q} (h : s.Sound) (hmoved : Moved s s') :
    Rises s.point.volume s'.point.volume ∧ Rises s.health.volume s'.health.volume := by
  cases hmoved with
  | point op hallows => exact ⟨h.point.rises h.pointBelow op, .refl _⟩
  | health op hallows => exact ⟨.refl _, h.health.rises h.healthBelow op⟩
  | _ => exact ⟨.refl _, .refl _⟩

theorem Sound.run_rises (h : s.Sound) (ops : List (TopologyOp P Q)) :
    Rises s.point.volume (run topologyStep s ops).point.volume ∧
      Rises s.health.volume (run topologyStep s ops).health.volume :=
  run_rel (R := fun s s' : Topology P Q =>
      Rises s.point.volume s'.point.volume ∧ Rises s.health.volume s'.health.volume)
    (fun _ => ⟨.refl _, .refl _⟩) (fun hab hbc => ⟨hab.1.trans hbc.1, hab.2.trans hbc.2⟩)
    (fun _ op h => h.step op) (fun s op h => h.rises (moved_topologyStep s op)) h ops

/-- An epoch that can be seen: that of a file at one of the paths, or of the witness. -/
def Observable (s : Topology P Q) (epoch : UInt64) : Prop :=
  s.point.volume.epoch? = some epoch ∨ s.health.volume.epoch? = some epoch ∨
    ∃ bytes commit, s.witness = some bytes ∧ decode bytes = .ok commit ∧
      commit.publicationEpoch = epoch

theorem exists_canonical_of_epoch? {volume : Volume} (h : volume.epoch? = some epoch) :
    ∃ inode, volume.canonical = some inode ∧ volume.epochAt inode = epoch := by
  obtain ⟨inode, hcan, hep⟩ := map_eq_some_iff.1 h
  exact ⟨inode, hcan, hep⟩

/-- What can be seen is not above the file at one of the paths. -/
theorem Sound.le_of_observable (h : s.Sound) (hobs : s.Observable epoch) :
    (∃ inode, s.point.volume.canonical = some inode ∧ epoch ≤ s.point.volume.epochAt inode) ∨
      ∃ inode, s.health.volume.canonical = some inode ∧
        epoch ≤ s.health.volume.epochAt inode := by
  rcases hobs with hpt | hhealth | ⟨bytes, commit, hwitness, hdec, rfl⟩
  · obtain ⟨inode, hcan, rfl⟩ := exists_canonical_of_epoch? hpt
    exact .inl ⟨inode, hcan, UInt64.le_refl _⟩
  · obtain ⟨inode, hcan, rfl⟩ := exists_canonical_of_epoch? hhealth
    exact .inr ⟨inode, hcan, UInt64.le_refl _⟩
  · obtain ⟨record, -, hrec, ⟨-, inode, hcan, hle, -⟩, -⟩ := h.witness bytes hwitness
    obtain rfl := Except.ok.inj (hdec.symm.trans hrec)
    exact .inl ⟨inode, hcan, hle⟩

theorem sound_run (ops : List (TopologyOp P Q)) :
    EveryState topologyStep Sound (initial P Q) ops :=
  everyState_of_step (fun _ op h => h.step op) sound_initial ops

/-- Files under one epoch were put in place by one publication, also before a witness is written and
    after a publication that stopped half way. -/
theorem files_of_one_epoch (ops : List (TopologyOp P Q)) :
    EveryState topologyStep (fun s => ∀ point health, s.point.volume.canonical = some point →
      s.health.volume.canonical = some health →
      s.point.volume.epochAt point = s.health.volume.epochAt health →
      s.pointBy point = s.healthBy health) (initial P Q) ops := by
  refine (sound_run ops).imp fun s h point health hpoint hhealth hepoch => ?_
  exact h.agree health hhealth point hpoint hepoch

theorem Sound.lt_of_fresh (h : s.Sound) (ops : List (TopologyOp P Q)) {observed : UInt64}
    {faults : EpochFaults}
    (hfr : freshEpoch P.path Q.path (run topologyStep s ops).point.volume (run topologyStep s
      ops).health.volume (run topologyStep s ops).witness faults = .ok epoch)
    (hobs : s.Observable observed) : observed < epoch := by
  obtain ⟨-, hfreshP, hfreshH⟩ := freshEpoch_eq_ok hfr
  obtain ⟨hpointRises, hhealthRises⟩ := h.run_rises ops
  rcases h.le_of_observable hobs with ⟨inode, hcan, hle⟩ | ⟨inode, hcan, hle⟩
  · obtain ⟨inode', hcan', hle'⟩ := hpointRises inode hcan
    exact UInt64.lt_of_le_of_lt (UInt64.le_trans hle hle')
      (hfreshP _ (epoch?_of_canonical hcan'))
  · obtain ⟨inode', hcan', hle'⟩ := hhealthRises inode hcan
    exact UInt64.lt_of_le_of_lt (UInt64.le_trans hle hle')
      (hfreshH _ (epoch?_of_canonical hcan'))

end Topology

/-- Over every history, an epoch that is newly allocated is above all that could be seen before. And
    whenever a validation succeeds, the two files at the paths were put in place by one publication
    and are those that the witness was written for, with the epoch, the generations and the layouts
    that it names. -/
theorem publication_epochs (config : ShmRuntimeConfig) (healthPath : String)
    (before after : List (TopologyOp (pointPublisher config) (healthPublisher healthPath))) :
    let earlier := run topologyStep
      (Topology.initial (pointPublisher config) (healthPublisher healthPath)) before
    let s := run topologyStep earlier after
    (∀ guard faults epoch allocated, s.guard = some guard → guard.allocated = none →
      nextPublicationEpoch config.path healthPath s.point.volume s.health.volume s.witness guard
        faults = (.ok epoch, allocated) →
      ∀ observed, earlier.Observable observed → observed < epoch) ∧
    ∀ expected faults commit, validateTopologyPublicationLocked config.path healthPath
        s.point.volume s.health.volume s.witness expected faults = .ok commit →
      ∃ point health, s.point.volume.canonical = some point ∧
        s.health.volume.canonical = some health ∧ ⟨commit, point, health⟩ ∈ s.committed ∧
        s.pointBy point = s.healthBy health ∧
        s.point.volume.epochAt point = commit.publicationEpoch ∧
        s.health.volume.epochAt health = commit.publicationEpoch ∧
        commit = .ofHeaders commit.publicationEpoch (s.point.volume.inodes point).header
          (s.health.volume.inodes health).header := by
  intro earlier s
  have hearlier : earlier.Sound := (Topology.sound_run before).last
  have hsound : s.Sound := (everyState_of_step (fun _ op h => h.step op) hearlier after).last
  constructor
  · intro guard faults epoch allocated _ hnone hnext observed hobservable
    rcases nextPublicationEpoch_cases config.path healthPath s.point.volume s.health.volume s.witness
      guard faults with ⟨-, hfailed⟩ | ⟨-, epoch', hfresh, hnext'⟩
    · exact absurd (congrArg Prod.fst hnext) (hfailed hnone epoch)
    · rw [hnext] at hnext'
      obtain rfl := Except.ok.inj (Prod.mk.inj hnext').1
      exact hearlier.lt_of_fresh after hfresh hobservable
  · intro expected faults commit hvalidate
    obtain ⟨point, health, bytes, hpoint, hhealth, hbytes, hdecoded, -, -, -, -, hmatches⟩ :=
      validateTopologyPublicationLocked_eq_ok hvalidate
    obtain ⟨-, hpointEpoch, hhealthEpoch, hheaders⟩ := matchesReaders_iff.1 hmatches
    -- the witness names the files it was written for by the epoch they have now
    obtain ⟨record, hmem, hrecord, ⟨-, point', hpoint', -, hpointFile⟩,
      ⟨-, health', hhealth', -, hhealthFile⟩, hby, -⟩ := hsound.witness bytes hbytes
    obtain ⟨named, pointFile, healthFile⟩ := record
    obtain rfl : commit = named := Except.ok.inj (hdecoded.symm.trans hrecord)
    obtain rfl := Option.some.inj (hpoint.symm.trans hpoint')
    obtain rfl := Option.some.inj (hhealth.symm.trans hhealth')
    obtain rfl : point = pointFile := hpointFile hpointEpoch
    obtain rfl : health = healthFile := hhealthFile hhealthEpoch
    exact ⟨point, health, hpoint, hhealth, hmem, hby, hpointEpoch, hhealthEpoch, hheaders⟩

end AetherEdge.Shm
