import AetherEdge.Shm.Replacement

/-!
# Histories of a plane

What holds over a whole history of the steps of a plane, from a plane without files.

* `PlaneHistory.orderly`: a file that is no longer at the path is unstable;
* `PlaneHistory.canonical_of_later`: a file that is at the path was there since its rename;
* `PlaneHistory.sameLayout`: a file keeps its layout and its epoch;
* `PlaneHistory.exists_puts`: what is in a slot was stored there, or published with the file.
-/

namespace AetherEdge.Shm

open Dataplane Volume

variable {P : Publisher}

/-- The generation of a file. -/
def Volume.generationAt (volume : Volume) (inode : ℕ) : UInt64 :=
  (volume.inodes inode).header.writerGeneration

/-- What holds between the steps. -/
structure Plane.Orderly (plane : Plane P) : Prop where
  /-- before the rename the file at the path is unstable -/
  unstable : ∀ r invalidation, plane.replacing = some r → r.phase = .invalidated invalidation →
    ∀ inode, plane.volume.canonical = some inode →
      stable (plane.volume.generationAt inode) = false
  /-- it is the one whose generation is restored if the rename fails -/
  target : ∀ r i, plane.replacing = some r → r.phase = .invalidated (some i) →
    plane.volume.canonical = some i.inode
  retired : ∀ inode < plane.volume.next, plane.volume.canonical ≠ some inode →
    stable (plane.volume.generationAt inode) = false
  handled : ∀ process generation, plane.handles process = some generation →
    (P.writer generation).inode < plane.volume.next ∧
      (plane.volume.inodes (P.writer generation).inode).header.layoutHash =
        P.layoutHash generation

variable {change : Segment → Segment}

theorem generationAt_modify {volume : Volume}
    (h : ∀ file, (change file).header.writerGeneration = file.header.writerGeneration)
    (inode inode' : ℕ) :
    (volume.modify inode change).generationAt inode' = volume.generationAt inode' := by
  unfold Volume.generationAt
  by_cases hne : inode' = inode
  · subst hne
    rw [modify_self]
    exact h _
  · rw [modify_of_ne hne]

theorem Plane.Orderly.modify {plane : Plane P} (h : plane.Orderly) (hidle : plane.replacing = none)
    (hlay : ∀ file, SameLayout file (change file))
    (hgen : ∀ file, (change file).header.writerGeneration = file.header.writerGeneration)
    (inode : ℕ) :
    Plane.Orderly { plane with volume := plane.volume.modify inode change } where
  unstable r invalidation hr := by rw [hidle] at hr; cases hr
  target r i hr := by rw [hidle] at hr; cases hr
  retired inode' hlt hcan := by
    rw [generationAt_modify hgen]
    exact h.retired inode' hlt hcan
  handled process generation hheld := by
    obtain ⟨hlt, hhash⟩ := h.handled process generation hheld
    refine ⟨hlt, ?_⟩
    rw [← hhash]
    exact ((Keeps.modify hlay inode).file _).layoutHash

theorem Plane.Orderly.step {plane plane' : Plane P} (h : plane.Orderly)
    (hstep : Swapped plane plane') : plane'.Orderly := by
  cases hstep with
  | quiet hvol hrepl hhandles =>
    refine ⟨fun r invalidation hr hph => ?_, fun r i hr hph => ?_, ?_, ?_⟩
    · rw [hvol]
      rcases hrepl r hr with hsame | ⟨hstaged, -⟩
      · exact h.unstable r invalidation hsame hph
      · rw [hstaged] at hph
        cases hph
    · rw [hvol]
      rcases hrepl r hr with hsame | ⟨hstaged, -⟩
      · exact h.target r i hsame hph
      · rw [hstaged] at hph
        cases hph
    · rw [hvol]
      exact h.retired
    · intro process generation hheld
      rw [hvol]
      rcases hhandles process generation hheld with hsame | ⟨request, hcomp⟩
      · exact h.handled process generation hsame
      · obtain ⟨hcan, hhash⟩ := P.composed hcomp
        exact ⟨plane.volume.canonical_lt _ hcan, hhash⟩
  | stored hauth hslot =>
    exact h.modify (authorized_eq_some_iff.1 hauth).2.1 (sameLayout_accessSlot _ _)
      (fun _ => rfl) _
  | beaten hauth =>
    exact h.modify (authorized_eq_some_iff.1 hauth).2.1 (sameLayout_updateHeartbeat _)
      (fun _ => rfl) _
  | @invalidated r invalidation swapped hrepl hph hswap hinode =>
    refine ⟨fun r' invalidation' hr hph' inode hcan => ?_, fun r' i hr hph' => ?_,
      fun inode hlt hcan => ?_, fun process generation hheld => ?_⟩
    · dsimp only at hcan
      rw [hswap.canonical] at hcan
      exact hswap.unstable inode hcan
    · obtain rfl := Option.some.inj hr
      obtain rfl : invalidation = some i := SwapPhase.invalidated.inj hph'
      exact hswap.canonical.trans (hinode i rfl)
    · dsimp only at hlt hcan
      rw [hswap.next] at hlt
      rw [hswap.canonical] at hcan
      show stable (swapped.inodes inode).header.writerGeneration = false
      rcases hswap.file inode with heq | ⟨hcan', -⟩
      · rw [heq]
        exact h.retired inode hlt hcan
      · exact absurd hcan' hcan
    · obtain ⟨hlt, hhash⟩ := h.handled process generation hheld
      refine ⟨hswap.next ▸ hlt, ?_⟩
      rw [← hhash]
      exact ((Keeps.of_invalidated hswap).file _).layoutHash
  | @restored r invalidation hrepl hph =>
    have hkp := Keeps.rollBack plane.volume invalidation
    refine ⟨fun r' invalidation' hr => ?_, fun r' i hr => ?_,
      fun inode hlt hcan => ?_, fun process generation hheld => ?_⟩
    · cases hr
    · cases hr
    · dsimp only at hlt hcan ⊢
      rw [hkp.next] at hlt
      rw [hkp.canonical] at hcan
      rcases invalidation with _ | i
      · exact h.retired inode hlt hcan
      have hne : inode ≠ i.inode := by
        rintro rfl
        exact hcan (h.target r i hrepl hph)
      show stable ((plane.volume.setGeneration i.inode i.originalGeneration).inodes
        inode).header.writerGeneration = false
      rw [setGeneration, modify_of_ne hne]
      exact h.retired inode hlt hcan
    · obtain ⟨hlt, hhash⟩ := h.handled process generation hheld
      refine ⟨hkp.next ▸ hlt, ?_⟩
      rw [← hhash]
      exact (hkp.file _).layoutHash
  | @renamed r invalidation hrepl hph =>
    refine ⟨fun r' invalidation' hr hph' => ?_, fun r' i hr hph' => ?_,
      fun inode hlt hcan => ?_, fun process generation hheld => ?_⟩
    · obtain rfl := Option.some.inj hr
      cases hph'
    · obtain rfl := Option.some.inj hr
      cases hph'
    · have hne : inode ≠ plane.volume.next := fun heq => hcan (heq ▸ rfl)
      have hlt' : inode < plane.volume.next := Nat.lt_of_le_of_ne (Nat.le_of_lt_succ hlt) hne
      show stable ((plane.volume.rename r.staging).inodes inode).header.writerGeneration = false
      rw [rename_of_ne hne]
      by_cases hold : plane.volume.canonical = some inode
      · exact h.unstable r invalidation hrepl hph inode hold
      · exact h.retired inode hlt' hold
    · obtain ⟨hlt, hhash⟩ := h.handled process generation hheld
      refine ⟨Nat.lt_succ_of_lt hlt, ?_⟩
      rw [rename_of_ne (Nat.ne_of_lt hlt)]
      exact hhash

/-! ## Where the contents of a slot come from -/

/-- The field has the value that the store gives it. -/
def HoldsIn (field : FieldStore) (data : SlotRead) : Prop := field.apply data = data

/-- A step that puts a field into a slot of a file. `keyed` is what is known of a store: the
    generation through which it is made, and the key. -/
inductive Puts (plane plane' : Plane P) (inode slot : ℕ) (field : FieldStore)
    (keyed : P.Generation → P.Key → Prop) : Prop where
  | stored {process : ℕ} {generation : P.Generation} {key : P.Key}
      (hauthorized : plane.authorized process = some generation)
      (hinode : (P.writer generation).inode = inode) (hkey : keyed generation key)
      (hvolume : plane'.volume = plane.volume.modify inode (accessSlot · slot (.store field)))
  /-- the rename that puts the file in place, with what has been staged -/
  | published {r : Replacing P} {invalidation : Option GenerationInvalidation}
      (hreplacing : plane.replacing = some r) (hphase : r.phase = .invalidated invalidation)
      (hinode : plane.volume.next = inode)
      (hvolume : plane'.volume = plane.volume.rename r.staging)
      (hholds : HoldsIn field (r.staging.slots slot).data)

variable {field : FieldStore}

theorem Puts.imp {plane plane' : Plane P} {inode slot : ℕ}
    {keyed keyed' : P.Generation → P.Key → Prop} (h : Puts plane plane' inode slot field keyed)
    (hkeyed : ∀ generation key, keyed generation key → keyed' generation key) :
    Puts plane plane' inode slot field keyed' := by
  cases h with
  | stored hauth hinode hkey hvol =>
    exact .stored hauth hinode (hkeyed _ _ hkey) hvol
  | published hrepl hph hinode hvol hhld =>
    exact .published hrepl hph hinode hvol hhld

/-- The key has the slot under the generation, which has the layout of the file. -/
def Addresses (file : Segment) (slot : ℕ) (generation : P.Generation) (key : P.Key) : Prop :=
  P.layoutHash generation = file.header.layoutHash ∧ P.slotFor generation key = some slot

theorem HoldsIn.of_apply {stored : FieldStore} {data : SlotRead}
    (h : HoldsIn field (stored.apply data)) : field = stored ∨ HoldsIn field data := by
  unfold HoldsIn at h ⊢
  cases field <;> cases stored <;> simp_all [FieldStore.apply]

/-- A file that was put in place before. -/
theorem slots_modify_of_ne {volume : Volume} {inode inode' : ℕ} (h : inode' ≠ inode)
    (change : Segment → Segment) :
    ((volume.modify inode change).inodes inode').slots = (volume.inodes inode').slots := by
  rw [modify_of_ne h]

theorem slots_rollBack (volume : Volume) (invalidation : Option GenerationInvalidation)
    (inode : ℕ) :
    ((volume.rollBack invalidation).inodes inode).slots = (volume.inodes inode).slots := by
  rcases invalidation with _ | i
  · rfl
  show ((volume.setGeneration i.inode i.originalGeneration).inodes inode).slots = _
  by_cases hne : inode = i.inode
  · subst hne
    rw [setGeneration, modify_self]
  · rw [setGeneration, modify_of_ne hne]

/-- A field that is in a slot after a step was there before it, or the step has put it there. -/
theorem Swapped.holdsIn {plane plane' : Plane P} (h : Swapped plane plane')
    (horderly : plane.Orderly) {inode slot : ℕ} (hlt : inode < plane'.volume.next)
    (hhld : HoldsIn field ((plane'.volume.inodes inode).slots slot).data) :
    (inode < plane.volume.next ∧
      HoldsIn field ((plane.volume.inodes inode).slots slot).data) ∨
    Puts plane plane' inode slot field (Addresses (plane.volume.inodes inode) slot) := by
  cases h with
  | quiet hvol hrepl hhandles =>
    rw [hvol] at hlt hhld
    exact .inl ⟨hlt, hhld⟩
  | @stored process generation key slot' access hauth hslot =>
    dsimp only at hlt hhld
    by_cases hne : inode = (P.writer generation).inode
    swap
    · rw [slots_modify_of_ne hne] at hhld
      exact .inl ⟨hlt, hhld⟩
    subst hne
    rw [modify_self] at hhld
    by_cases hslot' : slot = slot'
    swap
    · rw [accessSlot_of_ne hslot'] at hhld
      exact .inl ⟨hlt, hhld⟩
    subst hslot'
    rw [accessSlot_self] at hhld
    cases access with
    | bump => exact .inl ⟨hlt, hhld⟩
    | store stored =>
      rcases HoldsIn.of_apply hhld with rfl | hbef
      · obtain ⟨hheld, -, -⟩ := authorized_eq_some_iff.1 hauth
        obtain ⟨-, hhash⟩ := horderly.handled process generation hheld
        exact .inr (.stored hauth rfl ⟨hhash.symm, hslot⟩ rfl)
      · exact .inl ⟨hlt, hbef⟩
  | @beaten process generation timestampMs hauth =>
    refine .inl ⟨hlt, ?_⟩
    dsimp only at hhld
    by_cases hne : inode = (P.writer generation).inode
    · subst hne
      rw [modify_self] at hhld
      exact hhld
    · rwa [slots_modify_of_ne hne] at hhld
  | invalidated hrepl hph hswap hinode =>
    dsimp only at hlt hhld
    rw [hswap.next] at hlt
    refine .inl ⟨hlt, ?_⟩
    rcases hswap.file inode with heq | ⟨-, heq⟩
    · rwa [heq] at hhld
    · rwa [heq] at hhld
  | restored hrepl hph =>
    dsimp only at hlt hhld
    rw [(Keeps.rollBack _ _).next] at hlt
    rw [slots_rollBack] at hhld
    exact .inl ⟨hlt, hhld⟩
  | renamed hrepl hph =>
    dsimp only at hlt hhld
    by_cases hnew : inode = plane.volume.next
    · subst hnew
      rw [rename_new] at hhld
      exact .inr (.published hrepl hph rfl rfl hhld)
    · rw [rename_of_ne hnew] at hhld
      exact .inl ⟨Nat.lt_of_le_of_ne (Nat.le_of_lt_succ hlt) hnew, hhld⟩

/-! ## Histories -/

/-- The states of a plane one after another, from a plane without files. -/
structure PlaneHistory (P : Publisher) where
  plane : ℕ → Plane P
  start : plane 0 = .initial P
  step : ∀ n, Swapped (plane n) (plane (n + 1))

namespace PlaneHistory

variable (history : PlaneHistory P) {m n inode : ℕ}

theorem orderly (n : ℕ) : (history.plane n).Orderly := by
  induction n with
  | zero =>
    rw [history.start]
    refine ⟨fun r _ hr => ?_, fun r _ hr => ?_, fun inode hlt => ?_, fun _ _ hheld => ?_⟩
    · cases hr
    · cases hr
    · exact absurd hlt (Nat.not_lt_zero inode)
    · cases hheld
  | succ n ih => exact ih.step (history.step n)

/-- The files stay, except that a rename adds one, at the path. -/
theorem canonical_step (n : ℕ) :
    ((history.plane (n + 1)).volume.next = (history.plane n).volume.next ∧
      (history.plane (n + 1)).volume.canonical = (history.plane n).volume.canonical) ∨
    ((history.plane (n + 1)).volume.next = (history.plane n).volume.next + 1 ∧
      (history.plane (n + 1)).volume.canonical = some (history.plane n).volume.next) := by
  rcases (history.step n).keeps_or_renamed with hkp | ⟨r, -, -, -, hvol⟩
  · exact .inl ⟨hkp.next, hkp.canonical⟩
  · rw [hvol]
    exact .inr ⟨rfl, rfl⟩

theorem next_mono (h : m ≤ n) : (history.plane m).volume.next ≤ (history.plane n).volume.next := by
  induction n, h using Nat.le_induction with
  | base => exact Nat.le_refl _
  | succ n _ ih =>
    rcases history.canonical_step n with ⟨hnext, -⟩ | ⟨hnext, -⟩ <;> omega

/-- A file that is at the path has been there since any moment at which it existed. -/
theorem canonical_of_later (h : m ≤ n) (hcan : (history.plane n).volume.canonical = some inode)
    (hlt : inode < (history.plane m).volume.next) :
    (history.plane m).volume.canonical = some inode := by
  induction n, h using Nat.le_induction with
  | base => exact hcan
  | succ n hle ih =>
    rcases history.canonical_step n with ⟨-, hsame⟩ | ⟨-, hnew⟩
    · exact ih (hsame ▸ hcan)
    · have hle' := history.next_mono hle
      obtain rfl := Option.some.inj (hnew.symm.trans hcan)
      omega

theorem sameLayout (h : m ≤ n) (hlt : inode < (history.plane m).volume.next) :
    SameLayout ((history.plane m).volume.inodes inode) ((history.plane n).volume.inodes inode) := by
  induction n, h using Nat.le_induction with
  | base => exact .refl _
  | succ n hle ih =>
    refine ih.trans ?_
    rcases (history.step n).keeps_or_renamed with hkp | ⟨r, -, -, -, hvol⟩
    · exact hkp.file inode
    have hne : inode ≠ (history.plane n).volume.next :=
      Nat.ne_of_lt (Nat.lt_of_lt_of_le hlt (history.next_mono hle))
    rw [hvol, rename_of_ne hne]
    exact .refl _

theorem canonical_of_stable (hlt : inode < (history.plane n).volume.next)
    (hstab : stable ((history.plane n).volume.generationAt inode) = true) :
    (history.plane n).volume.canonical = some inode := by
  by_contra hne
  rw [(history.orderly n).retired inode hlt hne] at hstab
  cases hstab

theorem exists_puts {slot : ℕ} (hlt : inode < (history.plane n).volume.next)
    (hhld : HoldsIn field (((history.plane n).volume.inodes inode).slots slot).data) :
    ∃ k < n, Puts (history.plane k) (history.plane (k + 1)) inode slot field
      (Addresses ((history.plane n).volume.inodes inode) slot) := by
  induction n with
  | zero =>
    rw [history.start] at hlt
    exact absurd hlt (Nat.not_lt_zero inode)
  | succ n ih =>
    -- the layout of a file that was there does not change in the step
    have haddresses : inode < (history.plane n).volume.next →
        ∀ (generation : P.Generation) (key : P.Key),
        Addresses ((history.plane n).volume.inodes inode) slot generation key →
        Addresses ((history.plane (n + 1)).volume.inodes inode) slot generation key := by
      rintro hlt' generation key ⟨hhash, hslot⟩
      have hlay := (history.sameLayout (Nat.le_succ n) hlt').layoutHash
      exact ⟨hhash.trans hlay.symm, hslot⟩
    rcases (history.step n).holdsIn (history.orderly n) hlt hhld with ⟨hlt', hbef⟩ | hputs
    · obtain ⟨k, hk, hputs⟩ := ih hlt' hbef
      exact ⟨k, Nat.lt_succ_of_lt hk, hputs.imp (haddresses hlt')⟩
    refine ⟨n, Nat.lt_succ_self n, ?_⟩
    cases hputs with
    | stored hauth hinode hkey hvol =>
      have hcan := (authorized_eq_some_iff.1 hauth).2.2
      rw [hinode] at hcan
      have hlt' := (history.plane n).volume.canonical_lt _ hcan
      exact .stored hauth hinode (haddresses hlt' _ _ hkey) hvol
    | published hrepl hph hinode hvol hhld =>
      exact .published hrepl hph hinode hvol hhld

/-- The path never goes back to a file, and a file never changes its layout or its epoch. -/
theorem path_never_returns (history : PlaneHistory P) (n k : ℕ) :
    let before := (history.plane n).volume
    let after := (history.plane (n + k)).volume
    (∀ inode < before.next, after.canonical = some inode → before.canonical = some inode) ∧
      ∀ inode < before.next, SameLayout (before.inodes inode) (after.inodes inode) :=
  ⟨fun _ hlt hcan => history.canonical_of_later (Nat.le_add_right n k) hcan hlt,
    fun _ hlt => history.sameLayout (Nat.le_add_right n k) hlt⟩

end PlaneHistory

end AetherEdge.Shm
