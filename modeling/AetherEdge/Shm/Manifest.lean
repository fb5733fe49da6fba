import AetherEdge.Common.OrderedMap
import AetherEdge.Domain
import AetherEdge.Ports

/-!
# Channel-point manifests

Model of `ChannelPointManifest` (`libs/aether-shm-bridge/src/manifest.rs`): the addresses of a
topology in the order of their keys, each with its slot. What `compile` establishes about the two
lists is part of the type. Slots are counted in `ℕ`: a vector of addresses is too short for
`saturating_add` to saturate. The layout hash is computed by a hasher that is a parameter.

* `slotFor_eq_some_iff`, `physicalPointAt_eq_some_iff`: both lookups read the same pairs;
* `compile_eq_ok_iff`: what `compile` accepts;
* `compile_faithful`: what it returns;
* `compile_separates_least`: the owners of a channel share no cache line, in as few slots as can be.
-/

namespace AetherEdge.Shm

open Std OrderedMap Domain List Option

/-- Lines 21-25. -/
structure PhysicalPointAddress where
  channelId : UInt32
  kind : PointKind
  pointId : UInt32
  deriving DecidableEq, Repr

/-- `kind_index` (lines 307-314). -/
def kindIndex : PointKind → UInt8
  | .telemetry => 0
  | .status => 1
  | .command => 2
  | .action => 3

/-- `kind_code` (lines 316-323). -/
def kindCode : PointKind → String
  | .telemetry => "T"
  | .status => "S"
  | .command => "C"
  | .action => "A"

/-- An address as a key. -/
abbrev AddressKey := UInt32 × UInt8 × UInt32

/-- `address_key` (lines 299-305). -/
def addressKey (address : PhysicalPointAddress) : AddressKey :=
  (address.channelId, kindIndex address.kind, address.pointId)

/-- The order of the keys: lexicographic. -/
def keyCmp : AddressKey → AddressKey → Ordering := (@lexOrd UInt32 (UInt8 × UInt32) _ lexOrd).compare

instance : TransCmp keyCmp :=
  inferInstanceAs (TransCmp (@lexOrd UInt32 (UInt8 × UInt32) _ lexOrd).compare)

instance : LawfulEqCmp keyCmp :=
  inferInstanceAs (LawfulEqCmp (@lexOrd UInt32 (UInt8 × UInt32) _ lexOrd).compare)

theorem addressKey_injective : Function.Injective addressKey := by
  rintro ⟨channelId, kind, pointId⟩ ⟨channelId', kind', pointId'⟩ h
  simp only [addressKey, Prod.mk.injEq] at h
  obtain ⟨rfl, hkind, rfl⟩ := h
  have : kind = kind' := by
    cases kind <;> cases kind' <;> first | rfl | exact absurd hkind (by decide)
  rw [this]

/-! ## Slots -/

/-- The variables of the loop of `allocate_slots`. -/
structure Allocation where
  slots : List ℕ
  nextSlot : ℕ
  previousChannel : Option UInt32
  channelHasAcquisition : Bool
  commandBoundaryAligned : Bool

/-- The next slot, moved to the start of a cache line of two slots if it has to be aligned. -/
def alignedSlot (align : Bool) (nextSlot : ℕ) : ℕ :=
  if align && nextSlot % 2 != 0 then nextSlot + 1 else nextSlot

theorem le_alignedSlot (align : Bool) (nextSlot : ℕ) : nextSlot ≤ alignedSlot align nextSlot := by
  unfold alignedSlot
  split <;> omega

/-- One turn of the loop. -/
def Allocation.push (s : Allocation) (address : PhysicalPointAddress) : Allocation :=
  let fresh := s.previousChannel ≠ some address.channelId
  let channelHasAcquisition := if fresh then false else s.channelHasAcquisition
  let commandBoundaryAligned := if fresh then false else s.commandBoundaryAligned
  let align := !address.kind.isAcquisitionOwned && channelHasAcquisition && !commandBoundaryAligned
  let nextSlot := alignedSlot align s.nextSlot
  { slots := s.slots ++ [nextSlot]
    nextSlot := nextSlot + 1
    previousChannel := some address.channelId
    channelHasAcquisition := address.kind.isAcquisitionOwned || channelHasAcquisition
    commandBoundaryAligned := align || commandBoundaryAligned }

/-- `allocate_slots` (lines 250-276). -/
def allocateSlots (points : List PhysicalPointAddress) : Allocation :=
  points.foldl Allocation.push ⟨[], 0, none, false, false⟩

/-- What the loop keeps: the slots increase and are below the next one. -/
structure Allocation.Increasing (s : Allocation) : Prop where
  increasing : s.slots.Pairwise (· < ·)
  below : ∀ slot ∈ s.slots, slot < s.nextSlot

/-- The slot that a turn of the loop gives out is not below the next one. -/
theorem Allocation.push_slots (s : Allocation) (address : PhysicalPointAddress) :
    ∃ slot, s.nextSlot ≤ slot ∧ (s.push address).slots = s.slots ++ [slot] ∧
      (s.push address).nextSlot = slot + 1 := by
  exact ⟨_, le_alignedSlot _ _, rfl, rfl⟩

theorem Allocation.Increasing.push {s : Allocation} (h : s.Increasing)
    (address : PhysicalPointAddress) : (s.push address).Increasing := by
  obtain ⟨slot, hle, hslots, hnext⟩ := s.push_slots address
  constructor
  · rw [hslots, pairwise_append]
    refine ⟨h.increasing, pairwise_singleton _ _, fun a ha b hb => ?_⟩
    rw [mem_singleton.1 hb]
    exact Nat.lt_of_lt_of_le (h.below a ha) hle
  · intro a ha
    rw [hnext]
    rw [hslots, mem_append, mem_singleton] at ha
    rcases ha with ha | rfl
    · have := h.below a ha
      omega
    · exact Nat.lt_succ_self _

theorem foldl_push (points : List PhysicalPointAddress) (s : Allocation) (h : s.Increasing) :
    (points.foldl Allocation.push s).Increasing ∧
      (points.foldl Allocation.push s).slots.length = s.slots.length + points.length ∧
      s.nextSlot + points.length ≤ (points.foldl Allocation.push s).nextSlot := by
  induction points generalizing s with
  | nil => exact ⟨h, rfl, Nat.le_refl _⟩
  | cons address points ih =>
    obtain ⟨slot, hle, hslots, hnext⟩ := s.push_slots address
    obtain ⟨hinc, hlen, hcnt⟩ := ih (s.push address) (h.push address)
    refine ⟨hinc, ?_, ?_⟩
    · rw [foldl_cons, hlen, hslots, length_append, length_cons]
      simp only [length_nil, length_cons]
      omega
    · rw [foldl_cons, length_cons]
      omega

theorem increasing_allocateSlots (points : List PhysicalPointAddress) :
    (allocateSlots points).Increasing :=
  (foldl_push points _ ⟨List.Pairwise.nil, fun _ h => by cases h⟩).1

theorem length_allocateSlots (points : List PhysicalPointAddress) :
    (allocateSlots points).slots.length = points.length := by
  have := (foldl_push points ⟨[], 0, none, false, false⟩
    ⟨List.Pairwise.nil, fun _ h => by cases h⟩).2.1
  rwa [length_nil, Nat.zero_add] at this

theorem length_le_nextSlot (points : List PhysicalPointAddress) :
    points.length ≤ (allocateSlots points).nextSlot := by
  have := (foldl_push points ⟨[], 0, none, false, false⟩
    ⟨List.Pairwise.nil, fun _ h => by cases h⟩).2.2
  rwa [Nat.zero_add] at this

/-! ## Manifests -/

/-- What is fed to a `std::hash::Hasher`. -/
inductive HashWrite where
  | str (value : String)
  | u64 (value : ℕ)
  | u32 (value : UInt32)
  | u8 (value : UInt8)
  deriving DecidableEq, Repr

/-- `calculate_layout_hash` (lines 278-297), with the hasher. -/
def calculateLayoutHash (fxHasher : List HashWrite → UInt64) (points : List PhysicalPointAddress)
    (slots : List ℕ) (slotCount : ℕ) : UInt64 :=
  fxHasher (
    [.str "aether.live-state.layout.v5.ownership-aligned", .u64 slotCount, .u64 points.length] ++
    (slots.zip points).flatMap fun (slot, address) =>
      [.u64 slot, .u32 address.channelId, .u8 (kindIndex address.kind), .u32 address.pointId])

/-- Lines 84-89. -/
structure ChannelPointManifest where
  pointsByAddress : List PhysicalPointAddress
  slotsByAddress : List ℕ
  slotCount : ℕ
  layoutHash : UInt64
  sorted : (pointsByAddress.map addressKey).Pairwise (fun a b => keyCmp a b = .lt)
  length_eq : slotsByAddress.length = pointsByAddress.length
  increasing : slotsByAddress.Pairwise (· < ·)
  below : ∀ slot ∈ slotsByAddress, slot < slotCount
  deriving DecidableEq

variable {address : PhysicalPointAddress}

namespace ChannelPointManifest

/-- `slot_for` (lines 168-173). -/
def slotFor (manifest : ChannelPointManifest) (address : PhysicalPointAddress) : Option ℕ :=
  (binarySearch (manifest.pointsByAddress.map addressKey) (addressKey address)).bind
    (manifest.slotsByAddress[·]?)

/-- `physical_point_at` (lines 177-182). -/
def physicalPointAt (manifest : ChannelPointManifest) (slot : ℕ) : Option PhysicalPointAddress :=
  (binarySearch manifest.slotsByAddress slot).bind (manifest.pointsByAddress[·]?)

/-- `iter_physical_points` (lines 185-190). -/
def iterPhysicalPoints (manifest : ChannelPointManifest) : List (ℕ × PhysicalPointAddress) :=
  manifest.slotsByAddress.zip manifest.pointsByAddress

variable (manifest : ChannelPointManifest)

theorem nodup_keys : (manifest.pointsByAddress.map addressKey).Nodup := by
  refine manifest.sorted.imp fun {a b} hlt heq => ?_
  have hself : keyCmp b b = .eq := ReflCmp.compare_self
  rw [heq, hself] at hlt
  cases hlt

theorem nodup_slots : manifest.slotsByAddress.Nodup :=
  manifest.increasing.imp fun hlt => Nat.ne_of_lt hlt

variable {slot : ℕ}

theorem slotFor_eq_some_iff :
    manifest.slotFor address = some slot ↔
      ∃ i : ℕ, manifest.pointsByAddress[i]? = some address ∧
        manifest.slotsByAddress[i]? = some slot := by
  rw [slotFor, bind_eq_some_iff]
  refine exists_congr fun i => and_congr_left fun _ => ?_
  rw [binarySearch_eq_some_iff manifest.nodup_keys, getElem?_map]
  exact (map_injective addressKey_injective).eq_iff (b := some address)

theorem physicalPointAt_eq_some_iff :
    manifest.physicalPointAt slot = some address ↔
      ∃ i : ℕ, manifest.pointsByAddress[i]? = some address ∧
        manifest.slotsByAddress[i]? = some slot := by
  rw [physicalPointAt, bind_eq_some_iff]
  refine exists_congr fun i => ?_
  rw [binarySearch_eq_some_iff manifest.nodup_slots, and_comm]

theorem slotFor_eq_some_iff_physicalPointAt :
    manifest.slotFor address = some slot ↔ manifest.physicalPointAt slot = some address := by
  rw [slotFor_eq_some_iff, physicalPointAt_eq_some_iff]

theorem eq_of_slotFor {address' : PhysicalPointAddress} (h : manifest.slotFor address = some slot)
    (h' : manifest.slotFor address' = some slot) : address = address' := by
  rw [slotFor_eq_some_iff_physicalPointAt] at h h'
  exact Option.some.inj (h.symm.trans h')

theorem exists_slotFor_iff :
    (∃ slot, manifest.slotFor address = some slot) ↔ address ∈ manifest.pointsByAddress := by
  constructor
  · rintro ⟨slot, h⟩
    obtain ⟨i, hi, -⟩ := manifest.slotFor_eq_some_iff.1 h
    exact List.mem_of_getElem? hi
  · intro h
    obtain ⟨i, hi, haddr⟩ := getElem_of_mem h
    have hslot : i < manifest.slotsByAddress.length := by rw [manifest.length_eq]; exact hi
    refine ⟨manifest.slotsByAddress[i], manifest.slotFor_eq_some_iff.2 ⟨i, ?_, ?_⟩⟩
    · rw [getElem?_eq_getElem hi, haddr]
    · rw [getElem?_eq_getElem hslot]

theorem lt_slotCount_of_slotFor (h : manifest.slotFor address = some slot) :
    slot < manifest.slotCount := by
  obtain ⟨i, -, hi⟩ := manifest.slotFor_eq_some_iff.1 h
  exact manifest.below slot (List.mem_of_getElem? hi)

theorem mem_iterPhysicalPoints :
    (slot, address) ∈ manifest.iterPhysicalPoints ↔ manifest.slotFor address = some slot := by
  rw [slotFor_eq_some_iff, iterPhysicalPoints, List.mem_iff_getElem?]
  simp only [getElem?_zip_eq_some, and_comm]

theorem nodup_iterPhysicalPoints : (manifest.iterPhysicalPoints.map Prod.fst).Nodup := by
  rw [iterPhysicalPoints, map_fst_zip (Nat.le_of_eq manifest.length_eq)]
  exact manifest.nodup_slots

end ChannelPointManifest

/-! ## Compilation -/

/-- The map that `compile` collects the addresses in: each under its own key. -/
structure CanonicalPoints where
  map : ExtTreeMap AddressKey PhysicalPointAddress keyCmp
  keyed : ∀ key address, map[key]? = some address → key = addressKey address

variable {addresses : List PhysicalPointAddress} {points : CanonicalPoints}

namespace CanonicalPoints

/-- No points. -/
def empty : CanonicalPoints := ⟨∅, fun key address h => by simp at h⟩

/-- One more point. -/
def insert (points : CanonicalPoints) (address : PhysicalPointAddress) : CanonicalPoints where
  map := points.map.insert (addressKey address) address
  keyed key address' h := by
    rw [ExtTreeMap.getElem?_insert] at h
    by_cases heq : keyCmp (addressKey address) key = .eq
    · rw [if_pos heq] at h
      rw [← Option.some.inj h, LawfulEqCmp.eq_of_compare heq]
    · rw [if_neg heq] at h
      exact points.keyed key address' h

/-- `canonical.into_values()`. -/
def values (points : CanonicalPoints) : List PhysicalPointAddress := OrderedMap.values points.map

theorem map_addressKey_values (points : CanonicalPoints) :
    points.values.map addressKey = points.map.toList.map Prod.fst := by
  rw [values, OrderedMap.values, List.map_map]
  refine map_congr_left fun entry hent => ?_
  have := ExtTreeMap.mem_toList_iff_getElem?_eq_some.1 hent
  exact (points.keyed entry.1 entry.2 this).symm

theorem sorted_values (points : CanonicalPoints) :
    (points.values.map addressKey).Pairwise (fun a b => keyCmp a b = .lt) := by
  rw [map_addressKey_values, pairwise_map]
  exact ExtTreeMap.ordered_keys_toList

theorem mem_values : address ∈ points.values ↔ points.map[addressKey address]? = some address := by
  rw [values, OrderedMap.mem_values]
  constructor
  · rintro ⟨key, h⟩
    rwa [points.keyed key address h] at h
  · exact fun h => ⟨_, h⟩

/-- The map after a list of insertions. -/
def collect (points : CanonicalPoints) (addresses : List PhysicalPointAddress) : CanonicalPoints :=
  addresses.foldl insert points

theorem collect_map (points : CanonicalPoints) (addresses : List PhysicalPointAddress) :
    (points.collect addresses).map =
      (addresses.map fun a => (addressKey a, a)).foldl (fun m e => m.insert e.1 e.2) points.map := by
  induction addresses generalizing points with
  | nil => rfl
  | cons address addresses ih => exact ih (points.insert address)

theorem getElem?_collect (h : addresses.Nodup) {key : AddressKey} :
    (empty.collect addresses).map[key]? = some address ↔
      key = addressKey address ∧ address ∈ addresses := by
  have hkeys : (addresses.map fun a => (addressKey a, a)).Pairwise (fun a b => a.1 ≠ b.1) := by
    rw [pairwise_map]
    exact h.imp fun hne heq => hne (addressKey_injective heq)
  rw [collect_map, getElem?_foldl_insert hkeys, List.mem_map]
  constructor
  · rintro (⟨a, ha, heq⟩ | ⟨hemp, -⟩)
    · rw [Prod.mk.injEq] at heq
      obtain ⟨rfl, rfl⟩ := heq
      exact ⟨rfl, ha⟩
    · simp [empty] at hemp
  · rintro ⟨rfl, hmem⟩
    exact .inl ⟨address, hmem, rfl⟩

theorem mem_values_collect (h : addresses.Nodup) :
    address ∈ (empty.collect addresses).values ↔ address ∈ addresses := by
  rw [mem_values, getElem?_collect h]
  exact ⟨fun h => h.2, fun h => ⟨rfl, h⟩⟩

theorem collect_eq_of_perm {addresses' : List PhysicalPointAddress} (h : addresses.Nodup)
    (hperm : addresses'.Perm addresses) : empty.collect addresses' = empty.collect addresses := by
  have hmap : (empty.collect addresses').map = (empty.collect addresses).map := by
    apply ExtTreeMap.ext_getElem?
    intro key
    apply Option.ext
    intro address
    rw [getElem?_collect h, getElem?_collect (hperm.nodup_iff.2 h), hperm.mem_iff]
  cases hleft : empty.collect addresses' with
  | mk map' keyed' =>
    cases hright : empty.collect addresses with
    | mk map keyed =>
      rw [hleft, hright] at hmap
      subst hmap
      rfl

end CanonicalPoints

/-- The loop of `compile` (lines 96-137). -/
def retain (maxSlots : ℕ) (points : CanonicalPoints) :
    List PhysicalPointAddress → PortResult CanonicalPoints
  | [] => .ok points
  | address :: rest =>
    if maxSlots ≤ points.map.size then
      .error ⟨.invalidData, s!"point manifest exceeds configured capacity {maxSlots}"⟩
    else if addressKey address ∈ points.map then
      .error ⟨.invalidData, s!"duplicate physical point {address.channelId}:" ++
        s!"{kindCode address.kind}:{address.pointId}"⟩
    else retain maxSlots (points.insert address) rest

variable (fxHasher : List HashWrite → UInt64)

/-- The end of `compile` (lines 96-137). -/
def layout (canonical : CanonicalPoints) : ChannelPointManifest where
  pointsByAddress := canonical.values
  slotsByAddress := (allocateSlots canonical.values).slots
  slotCount := (allocateSlots canonical.values).nextSlot
  layoutHash := calculateLayoutHash fxHasher canonical.values
    (allocateSlots canonical.values).slots (allocateSlots canonical.values).nextSlot
  sorted := canonical.sorted_values
  length_eq := length_allocateSlots _
  increasing := (increasing_allocateSlots _).increasing
  below := (increasing_allocateSlots _).below

/-- `compile` (lines 96-137). -/
def compile (addresses : List PhysicalPointAddress) (maxSlots : ℕ) :
    PortResult ChannelPointManifest := do
  let canonical ← retain maxSlots .empty addresses
  let manifest := layout fxHasher canonical
  if maxSlots < manifest.slotCount then
    .error ⟨.invalidData, s!"point manifest exceeds configured capacity {maxSlots}"⟩
  else .ok manifest

theorem mem_insert_map {key : AddressKey} :
    key ∈ (points.insert address).map ↔ addressKey address = key ∨ key ∈ points.map := by
  rw [CanonicalPoints.insert, ExtTreeMap.mem_insert, LawfulEqCmp.compare_eq_iff_eq]

theorem size_insert_map (h : addressKey address ∉ points.map) :
    (points.insert address).map.size = points.map.size + 1 := by
  rw [CanonicalPoints.insert, ExtTreeMap.size_insert, if_neg]
  exact h

/-- The loop goes through when there is no repetition and no more addresses than slots. -/
theorem retain_eq_ok_iff {maxSlots : ℕ} {result : CanonicalPoints} :
    retain maxSlots points addresses = .ok result ↔
      addresses.Nodup ∧ (∀ address ∈ addresses, addressKey address ∉ points.map) ∧
        (addresses = [] ∨ points.map.size + addresses.length ≤ maxSlots) ∧
        result = points.collect addresses := by
  induction addresses generalizing points with
  | nil => simp [retain, CanonicalPoints.collect, eq_comm]
  | cons address rest ih =>
    unfold retain
    by_cases hfull : maxSlots ≤ points.map.size
    · rw [if_pos hfull]
      constructor
      · intro h; cases h
      · rintro ⟨-, -, hnil | hlen, -⟩
        · cases hnil
        · rw [length_cons] at hlen
          omega
    rw [if_neg hfull]
    by_cases hdup : addressKey address ∈ points.map
    · rw [if_pos hdup]
      constructor
      · intro h; cases h
      · rintro ⟨-, hfr, -⟩
        exact absurd hdup (hfr address mem_cons_self)
    rw [if_neg hdup, ih, nodup_cons, size_insert_map hdup, length_cons]
    constructor
    · rintro ⟨hnodup, hfr, hlen, hres⟩
      refine ⟨⟨fun hmem => ?_, hnodup⟩, ?_, .inr ?_, hres⟩
      · exact hfr address hmem (mem_insert_map.2 (.inl rfl))
      · intro a ha hmem
        rcases mem_cons.1 ha with rfl | ha
        · exact hdup hmem
        · exact hfr a ha (mem_insert_map.2 (.inr hmem))
      · rcases hlen with rfl | hlen
        · simp only [length_nil]
          omega
        · omega
    · rintro ⟨⟨hnotmem, hnodup⟩, hfr, hlen, hres⟩
      refine ⟨hnodup, ?_, .inr ?_, hres⟩
      · intro a ha hmem
        rcases mem_insert_map.1 hmem with hkey | hmem
        · rw [addressKey_injective hkey] at hnotmem
          exact hnotmem ha
        · exact hfr a (mem_cons_of_mem _ ha) hmem
      · rcases hlen with hnil | hlen
        · cases hnil
        · omega

/-- The slots that a topology takes. -/
def slotsNeeded (addresses : List PhysicalPointAddress) : ℕ :=
  (allocateSlots (CanonicalPoints.empty.collect addresses).values).nextSlot

theorem length_le_slotsNeeded (h : addresses.Nodup) : addresses.length ≤ slotsNeeded addresses := by
  have hle := length_le_nextSlot (CanonicalPoints.empty.collect addresses).values
  have hsub : addresses ⊆ (CanonicalPoints.empty.collect addresses).values :=
    fun address hmem => (CanonicalPoints.mem_values_collect h).2 hmem
  exact Nat.le_trans (h.length_le_of_subset hsub) hle

variable {fxHasher}

theorem compile_eq_ok_iff {maxSlots : ℕ} {manifest : ChannelPointManifest} :
    compile fxHasher addresses maxSlots = .ok manifest ↔
      addresses.Nodup ∧ slotsNeeded addresses ≤ maxSlots ∧
        manifest = layout fxHasher (CanonicalPoints.empty.collect addresses) := by
  unfold compile
  rw [bind_eq_ok]
  constructor
  · rintro ⟨canonical, hretain, h⟩
    obtain ⟨hnodup, -, -, rfl⟩ := retain_eq_ok_iff.1 hretain
    dsimp only at h
    split_ifs at h with hcnt
    exact ⟨hnodup, Nat.le_of_not_lt hcnt, (Except.ok.inj h).symm⟩
  · rintro ⟨hnodup, hcnt, rfl⟩
    refine ⟨_, retain_eq_ok_iff.2 ⟨hnodup, ?_, ?_, rfl⟩, ?_⟩
    · intro address _ hmem
      simp [CanonicalPoints.empty] at hmem
    · right
      have hsize : CanonicalPoints.empty.map.size = 0 := by simp [CanonicalPoints.empty]
      have := length_le_slotsNeeded hnodup
      omega
    · exact if_neg (Nat.not_lt.2 hcnt)

/-- `compile` rejects a topology exactly when an address occurs twice or it takes more slots than
    there may be. What it returns otherwise gives every declared address its own slot, below the
    slot count, and no other slot a point; it is the same for every order of the addresses. -/
theorem compile_faithful (fxHasher : List HashWrite → UInt64)
    (addresses : List PhysicalPointAddress) (maxSlots : ℕ) :
    ((∃ error, compile fxHasher addresses maxSlots = .error error) ↔
      ¬addresses.Nodup ∨ maxSlots < slotsNeeded addresses) ∧
    ∀ manifest, compile fxHasher addresses maxSlots = .ok manifest →
      (∀ address, address ∈ addresses ↔ ∃ slot, manifest.slotFor address = some slot) ∧
      (∀ address slot,
        manifest.slotFor address = some slot ↔ manifest.physicalPointAt slot = some address) ∧
      (∀ address slot, manifest.slotFor address = some slot → slot < manifest.slotCount) ∧
      manifest.slotCount ≤ maxSlots ∧
      (∀ slot, (∀ address ∈ addresses, manifest.slotFor address ≠ some slot) →
        manifest.physicalPointAt slot = none) ∧
      ∀ addresses', addresses'.Perm addresses →
        compile fxHasher addresses' maxSlots = .ok manifest := by
  refine ⟨?_, fun manifest hcompile => ?_⟩
  · cases hcompile : compile fxHasher addresses maxSlots with
    | error error =>
      refine ⟨fun _ => ?_, fun _ => ⟨error, rfl⟩⟩
      by_contra hfits
      rw [not_or, not_not, Nat.not_lt] at hfits
      rw [compile_eq_ok_iff.2 ⟨hfits.1, hfits.2, rfl⟩] at hcompile
      cases hcompile
    | ok manifest =>
      obtain ⟨hnodup, hcount, -⟩ := compile_eq_ok_iff.1 hcompile
      constructor
      · rintro ⟨error, h⟩
        cases h
      · rintro (hdup | hfull)
        · exact absurd hnodup hdup
        · omega
  · obtain ⟨hnodup, hcount, rfl⟩ := compile_eq_ok_iff.1 hcompile
    have hdeclared : ∀ address, address ∈ addresses ↔ ∃ slot,
        (layout fxHasher (CanonicalPoints.empty.collect addresses)).slotFor address = some slot := by
      intro address
      rw [ChannelPointManifest.exists_slotFor_iff]
      exact (CanonicalPoints.mem_values_collect hnodup).symm
    refine ⟨hdeclared, fun _ _ => ChannelPointManifest.slotFor_eq_some_iff_physicalPointAt _,
      fun _ _ => ChannelPointManifest.lt_slotCount_of_slotFor _, hcount, ?_, ?_⟩
    · intro slot hpadding
      by_contra hpoint
      obtain ⟨address, haddress⟩ := ne_none_iff_exists'.1 hpoint
      have hslot := (ChannelPointManifest.slotFor_eq_some_iff_physicalPointAt _).2 haddress
      exact hpadding address ((hdeclared address).2 ⟨slot, hslot⟩) hslot
    · intro addresses' hperm
      have hsame := CanonicalPoints.collect_eq_of_perm hnodup hperm
      refine compile_eq_ok_iff.2 ⟨hperm.nodup_iff.2 hnodup, ?_, ?_⟩
      · rwa [slotsNeeded, hsame]
      · rw [hsame]

/-- The command slot of channel 1 is aligned, and slot 1 is padding. -/
example :
    (compile (fun _ => 0) [⟨1, .command, 5⟩, ⟨1, .telemetry, 9⟩, ⟨2, .action, 0⟩] 8).toOption.map
      (fun manifest => (manifest.slotsByAddress, manifest.slotCount, manifest.physicalPointAt 1)) =
    some ([0, 2, 3], 4, none) := by
  decide +kernel

/-! ## Cache lines -/

/-- The slots keep the order of the points, and the two owners of a channel share no cache line of
    two slots. -/
structure Separated (a b : ℕ × PhysicalPointAddress) : Prop where
  order : keyCmp (addressKey a.2) (addressKey b.2) = compare a.1 b.1
  apart : a.2.channelId = b.2.channelId →
    a.2.kind.isAcquisitionOwned ≠ b.2.kind.isAcquisitionOwned → a.1 / 2 ≠ b.1 / 2

instance : Symm Separated where
  symm a b h := by
    refine ⟨?_, fun hsame howner => (h.apart hsame.symm howner.symm).symm⟩
    have hswap : keyCmp (addressKey b.2) (addressKey a.2) = _ := OrientedCmp.eq_swap
    rw [hswap, h.order, Nat.compare_swap]

variable {p q : PhysicalPointAddress} {slot slot' : ℕ} {s : Allocation}

section

variable (hlt : keyCmp (addressKey p) (addressKey q) = .lt)

include hlt

/-- The points are sorted by their channels, and within one the acquisition-owned come first. -/
theorem channel_of_lt : p.channelId ≤ q.channelId ∧ (p.channelId = q.channelId →
    q.kind.isAcquisitionOwned = true → p.kind.isAcquisitionOwned = true) := by
  rcases Ordering.then_eq_lt.1 hlt with hchannel | ⟨hchannel, hrest⟩
  · have hlt : p.channelId < q.channelId := Std.compare_eq_lt.1 hchannel
    exact ⟨UInt32.le_of_lt hlt, fun heq => absurd (heq ▸ hlt) (UInt32.lt_irrefl _)⟩
  have heq : p.channelId = q.channelId := LawfulEqOrd.eq_of_compare hchannel
  have hkind : kindIndex p.kind ≤ kindIndex q.kind := by
    rcases Ordering.then_eq_lt.1 hrest with hlt | ⟨heq, -⟩
    · exact UInt8.le_of_lt (Std.compare_eq_lt.1 hlt)
    · exact UInt8.le_of_eq (LawfulEqOrd.eq_of_compare heq)
  refine ⟨UInt32.le_of_eq heq, fun _ => ?_⟩
  revert hkind
  cases p.kind <;> cases q.kind <;> decide

theorem Separated.lt (h : Separated (slot, p) (slot', q)) : slot < slot' :=
  Nat.compare_eq_lt.1 (h.order.symm.trans hlt)

/-- Aligned where the owner changes, the next slot is the least that keeps the points apart. -/
theorem alignedSlot_separates (slot : ℕ) {align : Bool} (halign : align = true ↔ p.channelId = q.channelId ∧
      p.kind.isAcquisitionOwned ≠ q.kind.isAcquisitionOwned) :
    Separated (slot, p) (alignedSlot align (slot + 1), q) ∧
      ∀ a b, Separated (a, p) (b, q) → slot ≤ a → alignedSlot align (slot + 1) ≤ b := by
  have hslot : alignedSlot true (slot + 1) = slot + 1 + (slot + 1) % 2 := by
    unfold alignedSlot
    split <;> simp at * <;> omega
  refine ⟨⟨hlt.trans (Nat.compare_eq_lt.2 (le_alignedSlot _ _)).symm, fun hsame howner => ?_⟩,
    fun a b h hle => ?_⟩
  · rw [halign.2 ⟨hsame, howner⟩, hslot]
    omega
  · have hab : a < b := h.lt hlt
    cases align with
    | false => exact Nat.le_trans (Nat.succ_le_succ hle) hab
    | true =>
      obtain ⟨hsame, howner⟩ := halign.1 rfl
      have hapart : a / 2 ≠ b / 2 := h.apart hsame howner
      omega

/-- Between sorted points it is enough that neighbours are apart. -/
theorem Separated.trans {e : ℕ × PhysicalPointAddress} (h : Separated (slot, p) (slot', q))
    (hlt' : keyCmp (addressKey q) (addressKey e.2) = .lt) (h' : Separated (slot', q) e) :
    Separated (slot, p) e := by
  have hle := h.lt hlt
  have hle' : slot' < e.1 := h'.lt hlt'
  refine ⟨(TransCmp.lt_trans hlt hlt').trans (Nat.compare_eq_lt.2 (hle.trans hle')).symm,
    fun hsame howner => ?_⟩
  have hmiddle : p.channelId = q.channelId :=
    UInt32.le_antisymm (channel_of_lt hlt).1 (hsame ▸ (channel_of_lt hlt').1)
  by_cases howner' : p.kind.isAcquisitionOwned = q.kind.isAcquisitionOwned
  · have hapart : slot' / 2 ≠ e.1 / 2 := h'.apart (hmiddle.symm.trans hsame) (howner' ▸ howner)
    show slot / 2 ≠ _
    omega
  · have hapart : slot / 2 ≠ slot' / 2 := h.apart hmiddle howner'
    show slot / 2 ≠ _
    omega

end

/-- The loop after the point `p`: the owner of its channel may change exactly if it is
    acquisition-owned. -/
structure Allocation.After (s : Allocation) (p : PhysicalPointAddress) (slot : ℕ) : Prop where
  channel : s.previousChannel = some p.channelId
  pending : (s.channelHasAcquisition && !s.commandBoundaryAligned) = p.kind.isAcquisitionOwned
  aligned : s.commandBoundaryAligned = true → p.kind.isAcquisitionOwned = false
  nextSlot : s.nextSlot = slot + 1

theorem Allocation.After.push (h : s.After p slot)
    (hlt : keyCmp (addressKey p) (addressKey q) = .lt) :
    ∃ slot', (s.push q).After q slot' ∧ (s.push q).slots = s.slots ++ [slot'] ∧
      Separated (slot, p) (slot', q) ∧
      ∀ a b, Separated (a, p) (b, q) → slot ≤ a → slot' ≤ b := by
  -- the two flags as they are at the start of the turn
  obtain ⟨acquired, hacquired⟩ : ∃ acquired, acquired =
    if s.previousChannel ≠ some q.channelId then false else s.channelHasAcquisition := ⟨_, rfl⟩
  obtain ⟨aligned, haligned⟩ : ∃ aligned, aligned =
    if s.previousChannel ≠ some q.channelId then false else s.commandBoundaryAligned := ⟨_, rfl⟩
  have howner := (channel_of_lt hlt).2
  have hpend : (acquired && !aligned) =
      (p.channelId == q.channelId && p.kind.isAcquisitionOwned) := by
    rw [hacquired, haligned, h.channel, ← h.pending]
    by_cases hsame : p.channelId = q.channelId <;> simp [hsame]
  have hcmd : aligned = true → q.kind.isAcquisitionOwned = false := by
    by_cases hsame : p.channelId = q.channelId
    · rw [haligned, h.channel, hsame, if_neg (not_not.2 rfl), ← Bool.not_eq_true]
      intro htrue hq
      exact Bool.false_ne_true ((h.aligned htrue).symm.trans (howner hsame hq))
    · simp [haligned, h.channel, hsame]
  have halign : (!q.kind.isAcquisitionOwned && acquired && !aligned) = true ↔
      p.channelId = q.channelId ∧ p.kind.isAcquisitionOwned ≠ q.kind.isAcquisitionOwned := by
    rw [Bool.and_assoc, hpend]
    revert howner
    cases p.kind.isAcquisitionOwned <;> cases q.kind.isAcquisitionOwned <;> simp
  have hflags : ∀ owner acquired aligned : Bool, (aligned = true → owner = false) →
      ((owner || acquired) && !(!owner && acquired && !aligned || aligned)) = owner ∧
        ((!owner && acquired && !aligned || aligned) = true → owner = false) := by decide
  obtain ⟨hpend', haligned'⟩ := hflags _ _ _ hcmd
  obtain ⟨hsep, hleast⟩ := alignedSlot_separates hlt slot halign
  rw [Allocation.push, ← hacquired, ← haligned, h.nextSlot]
  exact ⟨_, ⟨rfl, hpend', haligned', rfl⟩, rfl, hsep, hleast⟩

/-- What the rest of the loop gives out: the points are apart, and no slot could be smaller. -/
theorem Allocation.After.foldl {rest : List PhysicalPointAddress} (h : s.After p slot)
    (hsort : ((p :: rest).map addressKey).Pairwise fun a b => keyCmp a b = .lt) :
    ∃ slots, (rest.foldl Allocation.push s).slots = s.slots ++ slots ∧
      ((slot, p) :: slots.zip rest).Pairwise Separated ∧
      ∀ assign : PhysicalPointAddress → ℕ,
        (∀ a ∈ p :: rest, ∀ b ∈ p :: rest, Separated (assign a, a) (assign b, b)) →
        slot ≤ assign p →
        ∃ last ∈ p :: rest, (rest.foldl Allocation.push s).nextSlot ≤ assign last + 1 := by
  induction rest generalizing s p slot with
  | nil =>
    refine ⟨[], by simp, pairwise_singleton _ _, fun assign _ hle => ?_⟩
    exact ⟨p, mem_cons_self, h.nextSlot.le.trans (Nat.succ_le_succ hle)⟩
  | cons q rest ih =>
    rw [map_cons, pairwise_cons] at hsort
    have hlt := hsort.1 _ mem_cons_self
    obtain ⟨slot', haft, hslots, hsep, hleast⟩ := h.push hlt
    obtain ⟨slots, hfold, hpairwise, hrest⟩ := ih haft hsort.2
    refine ⟨slot' :: slots, ?_, ?_, fun assign hall hle => ?_⟩
    · rw [foldl_cons, hfold, hslots, append_assoc]
      rfl
    · rw [zip_cons_cons, pairwise_cons]
      refine ⟨fun e he => ?_, hpairwise⟩
      rcases mem_cons.1 he with rfl | he
      · exact hsep
      · have hkey := (pairwise_cons.1 hsort.2).1 _ (List.mem_map_of_mem (of_mem_zip he).2)
        exact hsep.trans hlt hkey ((pairwise_cons.1 hpairwise).1 e he)
    · have hnext := hleast _ _ (hall p mem_cons_self q (by simp)) hle
      obtain ⟨last, hmem, hlast⟩ := hrest assign
        (fun a ha b hb => hall a (mem_cons_of_mem _ ha) b (mem_cons_of_mem _ hb)) hnext
      exact ⟨last, mem_cons_of_mem _ hmem, hlast⟩

theorem after_push_start (p : PhysicalPointAddress) :
    (Allocation.push ⟨[], 0, none, false, false⟩ p).After p 0 ∧
      (Allocation.push ⟨[], 0, none, false, false⟩ p).slots = [0] := by
  unfold Allocation.push
  cases hkind : p.kind.isAcquisitionOwned <;>
    exact ⟨⟨rfl, by simp [hkind], by simp [hkind], by simp [alignedSlot]⟩, by simp [alignedSlot]⟩

/-- In every accepted manifest the slots keep the order of the points, and the two owners of a
    channel share no cache line. No assignment with this property gets by with fewer slots. -/
theorem compile_separates_least (fxHasher : List HashWrite → UInt64)
    (addresses : List PhysicalPointAddress) (maxSlots : ℕ) (manifest : ChannelPointManifest)
    (hcompile : compile fxHasher addresses maxSlots = .ok manifest) :
    (∀ a b slot slot', manifest.slotFor a = some slot → manifest.slotFor b = some slot' →
      Separated (slot, a) (slot', b)) ∧
    ∀ (assign : PhysicalPointAddress → ℕ) (count : ℕ),
      (∀ a ∈ addresses, ∀ b ∈ addresses, Separated (assign a, a) (assign b, b)) →
      (∀ a ∈ addresses, assign a < count) → manifest.slotCount ≤ count := by
  obtain ⟨hnodup, -, rfl⟩ := compile_eq_ok_iff.1 hcompile
  have hsorted := (CanonicalPoints.empty.collect addresses).sorted_values
  simp only [← ChannelPointManifest.mem_iterPhysicalPoints,
    ← CanonicalPoints.mem_values_collect hnodup, ChannelPointManifest.iterPhysicalPoints, layout]
  generalize (CanonicalPoints.empty.collect addresses).values = points at hsorted
  rcases points with _ | ⟨p, rest⟩
  · exact ⟨fun _ _ _ _ h => by simp at h, fun _ _ _ _ => Nat.zero_le _⟩
  obtain ⟨hafter, hstart⟩ := after_push_start p
  obtain ⟨slots, hfold, hpairwise, hleast⟩ := hafter.foldl hsorted
  rw [hstart] at hfold
  refine ⟨fun a b slot slot' ha hb => ?_, fun assign count hall hcount => ?_⟩
  · rw [allocateSlots, foldl_cons, hfold] at ha hb
    exact hpairwise.forall_of_forall (fun e _ => ⟨by simp [ReflCmp.compare_self], by simp⟩) ha hb
  · obtain ⟨last, hmem, hlast⟩ := hleast assign hall (Nat.zero_le _)
    exact hlast.trans (hcount last hmem)

/-- A telemetry and a command point of one channel, and an action point of another. -/
def threePoints : List PhysicalPointAddress :=
  [⟨1, .command, 5⟩, ⟨1, .telemetry, 9⟩, ⟨2, .action, 0⟩]

theorem three_points_need_four_slots :
    ∃ manifest, compile (fun _ => 0) threePoints 8 = .ok manifest ∧ manifest.slotCount = 4 ∧
      ∀ (assign : PhysicalPointAddress → ℕ) (count : ℕ),
        (∀ a ∈ threePoints, ∀ b ∈ threePoints, Separated (assign a, a) (assign b, b)) →
        (∀ a ∈ threePoints, assign a < count) → 4 ≤ count := by
  have hcompile : compile (fun _ => 0) threePoints 8 = .ok _ :=
    compile_eq_ok_iff.2 ⟨by decide, by decide +kernel, rfl⟩
  have hcount : (layout (fun _ => 0) (CanonicalPoints.empty.collect threePoints)).slotCount = 4 := by
    decide +kernel
  refine ⟨_, hcompile, hcount, fun assign count hall hlt => ?_⟩
  rw [← hcount]
  exact (compile_separates_least _ _ _ _ hcompile).2 assign count hall hlt

end AetherEdge.Shm
