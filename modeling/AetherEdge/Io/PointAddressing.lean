import AetherEdge.Io.Iec104
import AetherEdge.Io.OpcUa

/-!
# The points that commands reach

The adapters look a point up by its id among the mapped points of all types, and of several under an
id they take the last: an adjustment point before a control point, that before a signal point, and
that before a telemetry point.

* `commands_addressed_iff`: when the ids are unique within each type, every command goes to the object
  of its own point, with that point's transform, exactly for the configurations in which no other
  mapped point gets in the way (`ControlClear`, `AdjustmentClear`).
* `command_misdirected`: a control command that operates the object of an adjustment point.
-/

namespace AetherEdge.Io

open List Option

section Lookup

variable {A : Type} (protocol : String) (parse : String → Except GatewayError A)

/-- The address a mapping gives. -/
def mappedAddress (base : Point) : Option A :=
  (mappedProtocolJson base).bind fun mapping => (parse mapping).toOption

/-- The point of the adapter. -/
def convertedPoint (point : Convertible) : Option (PointConfig A) :=
  (mappedAddress parse point.base).map fun address =>
    ⟨point.base.pointId, point.pointType, address, point.transform⟩

variable {protocol parse}

theorem convertMappedPoints_eq {points : List Convertible} {result : List (PointConfig A)}
    (h : convertMappedPoints protocol parse points = .ok result) :
    result = points.filterMap (convertedPoint parse) := by
  induction points generalizing result with
  | nil =>
    cases h
    rfl
  | cons point points ih =>
    unfold convertMappedPoints at h
    rw [filterMap_cons] at h ⊢
    rcases hjson : mappedProtocolJson point.base with _ | mapping
    · simp only [convertPoint, convertedPoint, mappedAddress, hjson, map_none,
        bind_none] at h ⊢
      exact ih h
    rcases hparse : parse mapping with error | address
    · simp only [convertPoint, hjson, map_some, hparse] at h
      rw [mapM_cons] at h
      cases h
    simp only [convertPoint, convertedPoint, mappedAddress, hjson, map_some, hparse,
      bind_some, Except.toOption] at h ⊢
    rw [mapM_cons] at h
    obtain ⟨first, hfst, h⟩ := bind_eq_ok.1 h
    obtain ⟨rest, hrest, h⟩ := bind_eq_ok.1 h
    cases hfst
    cases h
    rw [ih hrest]

/-! ## Looking a point up -/

theorem findPoint_append (first second : List (PointConfig A)) (id : UInt32) :
    findPoint (first ++ second) id = (findPoint second id).or (findPoint first id) := by
  unfold findPoint
  rw [map_append, lastEntry_append]

variable (parse) in
/-- The mapped point of one type that the index holds under an id. -/
def lookup (points : List Convertible) (id : UInt32) : Option (PointConfig A) :=
  findPoint (points.filterMap (convertedPoint parse)) id

/-- The adjustment points come last, then the control, signal and telemetry points. -/
theorem findPoint_converted {config : RuntimeChannelConfig} {points : List (PointConfig A)}
    (h : convertAllMappedPoints protocol parse config = .ok points) (id : UInt32) :
    findPoint points id =
      (lookup parse (config.adjustmentPoints.map AdjustmentPoint.convertible) id).or
        ((lookup parse (config.controlPoints.map ControlPoint.convertible) id).or
          ((lookup parse (config.signalPoints.map SignalPoint.convertible) id).or
            (lookup parse (config.telemetryPoints.map TelemetryPoint.convertible) id))) := by
  unfold convertAllMappedPoints at h
  obtain ⟨telemetry, htel, h⟩ := bind_eq_ok.1 h
  obtain ⟨signal, hsignal, h⟩ := bind_eq_ok.1 h
  obtain ⟨control, hctl, h⟩ := bind_eq_ok.1 h
  obtain ⟨adjustment, hadj, h⟩ := bind_eq_ok.1 h
  cases h
  rw [convertMappedPoints_eq htel, convertMappedPoints_eq hsignal,
    convertMappedPoints_eq hctl, convertMappedPoints_eq hadj]
  simp only [findPoint_append, lookup]

variable {points : List Convertible} {id : UInt32}

theorem ids_sublist (points : List Convertible) :
    ((points.filterMap (convertedPoint parse)).map PointConfig.id).Sublist
      (points.map fun point => point.base.pointId) := by
  induction points with
  | nil => exact List.Sublist.slnil
  | cons point points ih =>
    rw [filterMap_cons, map_cons]
    cases hmap : mappedAddress parse point.base with
    | none =>
      simp only [convertedPoint, hmap, map_none]
      exact ih.cons _
    | some address =>
      simp only [convertedPoint, hmap, map_some, map_cons]
      exact ih.cons_cons _

theorem exists_of_lookup {found : PointConfig A} (h : lookup parse points id = some found) :
    ∃ point ∈ points, point.base.pointId = id ∧ convertedPoint parse point = some found := by
  obtain ⟨converted, hconv, heq⟩ := List.mem_map.1 (mem_of_lastEntry h)
  obtain ⟨point, hpt, hconvert⟩ := mem_filterMap.1 hconv
  obtain ⟨rfl, rfl⟩ := Prod.mk.inj heq
  refine ⟨point, hpt, ?_, hconvert⟩
  obtain ⟨address, -, rfl⟩ := map_eq_some_iff.1 hconvert
  rfl

theorem mem_entries {point : Convertible} (hpt : point ∈ points) {address : A}
    (haddr : mappedAddress parse point.base = some address) :
    (point.base.pointId,
        (⟨point.base.pointId, point.pointType, address, point.transform⟩ : PointConfig A)) ∈
      (points.filterMap (convertedPoint parse)).map fun point => (point.id, point) := by
  refine List.mem_map.2 ⟨⟨point.base.pointId, point.pointType, address, point.transform⟩, ?_, rfl⟩
  refine mem_filterMap.2 ⟨point, hpt, ?_⟩
  rw [convertedPoint, haddr, map_some]

theorem lookup_eq_none :
    lookup parse points id = none ↔
      ∀ point ∈ points, point.base.pointId = id → mappedAddress parse point.base = none := by
  unfold lookup findPoint
  rw [lastEntry_eq_none]
  constructor
  · intro h point hpt hid
    by_contra hmap
    obtain ⟨address, haddr⟩ := ne_none_iff_exists'.1 hmap
    subst hid
    exact h _ (mem_entries hpt haddr)
  · intro h found hmem
    obtain ⟨converted, hconv, heq⟩ := List.mem_map.1 hmem
    obtain ⟨point, hpt, hconvert⟩ := mem_filterMap.1 hconv
    obtain ⟨rfl, rfl⟩ := Prod.mk.inj heq
    obtain ⟨address, haddr, rfl⟩ := map_eq_some_iff.1 hconvert
    rw [h point hpt rfl] at haddr
    cases haddr

/-- Where the ids are unique, a mapped point is found under its own. -/
theorem lookup_of_mapped (huniq : (points.map fun point => point.base.pointId).Nodup)
    {point : Convertible} (hpt : point ∈ points) {address : A}
    (haddr : mappedAddress parse point.base = some address) :
    lookup parse points point.base.pointId =
      some ⟨point.base.pointId, point.pointType, address, point.transform⟩ := by
  unfold lookup findPoint
  apply lastEntry_of_mem
  · rw [List.map_map]
    exact (ids_sublist points).nodup huniq
  · exact mem_entries hpt haddr

end Lookup

/-! ## Messages -/

section Messages

variable {A B φ : Type} (parse : String → Except GatewayError A) (key : A → B) (transforms : Bool)
  (arith : F64.Arithmetic) (round : F64 → φ)

/-- The control message of an adapter that addresses a point by a part of its address, and that applies
    the transform of the point or does not. -/
def controlMessageOf (points : List (PointConfig A)) (command : UInt32 × F64) : Option (B × Bool) :=
  (findPoint points command.1).map fun point =>
    (key point.address,
      if transforms then point.transform.applyBool (!command.2.eq .zero) else !command.2.eq .zero)

/-- The adjustment message of such an adapter. -/
def adjustmentMessageOf (points : List (PointConfig A)) (command : UInt32 × F64) : Option (B × φ) :=
  match findPoint points command.1 with
  | none => none
  | some point =>
    match point.transform.reverseApply arith command.2 with
    | .error _ => none
    | .ok raw => some (key point.address, round raw)

/-- What is sent for the control point goes to its own object, with its own transform. -/
def ControlAddressed (points : List (PointConfig A)) (point : ControlPoint) : Prop :=
  ∀ value sent, controlMessageOf key transforms points (point.base.pointId, value) = some sent →
    ∃ address, mappedAddress parse point.base = some address ∧
      sent = (key address, point.convertible.transform.applyBool (!value.eq .zero))

/-- What is sent for the adjustment point goes to its own object, with its own transform. -/
def AdjustmentAddressed (points : List (PointConfig A)) (point : AdjustmentPoint) : Prop :=
  ∀ value sent, adjustmentMessageOf key arith round points (point.base.pointId, value) = some sent →
    ∃ address raw, mappedAddress parse point.base = some address ∧
      point.convertible.transform.reverseApply arith value = .ok raw ∧ sent = (key address, round raw)

/-- No point of the list with the id is mapped. -/
def NoneMapped (points : List Convertible) (id : UInt32) : Prop :=
  ∀ other ∈ points, other.base.pointId = id → mappedAddress parse other.base = none

/-- Nothing gets in the way of the control point. If it is mapped, every mapped adjustment point with
    its id shares its object, and it is not reversed if there is one or if the adapter does not apply
    transforms; if it is not mapped, no other point with its id is. -/
def ControlClear (config : RuntimeChannelConfig) (point : ControlPoint) : Prop :=
  match mappedAddress parse point.base with
  | some address =>
    (transforms = false → point.reverse = false) ∧
      ∀ other ∈ config.adjustmentPoints, other.base.pointId = point.base.pointId →
        ∀ otherAddress, mappedAddress parse other.base = some otherAddress →
          key otherAddress = key address ∧ point.reverse = false
  | none =>
    NoneMapped parse (config.adjustmentPoints.map AdjustmentPoint.convertible) point.base.pointId ∧
      NoneMapped parse (config.signalPoints.map SignalPoint.convertible) point.base.pointId ∧
      NoneMapped parse (config.telemetryPoints.map TelemetryPoint.convertible) point.base.pointId

/-- Nothing gets in the way of the adjustment point: it is mapped, or no control or signal point with
    its id is, and a mapped telemetry point with its id has the scale zero, which cannot be
    reversed. -/
def AdjustmentClear (config : RuntimeChannelConfig) (point : AdjustmentPoint) : Prop :=
  mappedAddress parse point.base = none →
    NoneMapped parse (config.controlPoints.map ControlPoint.convertible) point.base.pointId ∧
      NoneMapped parse (config.signalPoints.map SignalPoint.convertible) point.base.pointId ∧
      ∀ other ∈ config.telemetryPoints, other.base.pointId = point.base.pointId →
        mappedAddress parse other.base ≠ none → other.scale.eq .zero = true

/-- The ids are unique within each type. -/
structure IdsUnique (config : RuntimeChannelConfig) : Prop where
  telemetry : (config.telemetryPoints.map fun point => point.base.pointId).Nodup
  signal : (config.signalPoints.map fun point => point.base.pointId).Nodup
  control : (config.controlPoints.map fun point => point.base.pointId).Nodup
  adjustment : (config.adjustmentPoints.map fun point => point.base.pointId).Nodup

variable {parse key transforms arith round} {protocol : String} {config : RuntimeChannelConfig}
  {points : List (PointConfig A)} {others : List Convertible}

theorem lookup_none_iff {id : UInt32} :
    lookup parse others id = none ↔ NoneMapped parse others id :=
  lookup_eq_none

/-- The two values of a control command. -/
theorem forall_value {P : Bool → Prop} : (∀ value : F64, P (!value.eq .zero)) ↔ ∀ on, P on := by
  constructor
  · intro h on
    cases on with
    | false => exact h .zero
    | true => exact h .one
  · intro h value
    exact h _

variable {point : ControlPoint}

/-- With one point found, what is sent is addressed exactly if the point agrees with the own one. -/
theorem controlAddressed_of_found {found : PointConfig A} {address : A}
    (haddr : mappedAddress parse point.base = some address)
    (hfnd : findPoint points point.base.pointId = some found) :
    ControlAddressed parse key transforms points point ↔
      key found.address = key address ∧
        ∀ on, (if transforms then found.transform.applyBool on else on) =
          point.convertible.transform.applyBool on := by
  unfold ControlAddressed controlMessageOf
  simp only [hfnd, haddr, map_some, Option.some.injEq, forall_eq', exists_eq_left',
    Prod.mk.injEq]
  constructor
  · intro h
    exact ⟨(h .zero).1, forall_value.1 fun value => (h value).2⟩
  · rintro ⟨hkey, hvals⟩ value
    exact ⟨hkey, hvals _⟩

/-- Nothing may be sent for a point that is not mapped. -/
theorem controlAddressed_of_unmapped (hunm : mappedAddress parse point.base = none) :
    ControlAddressed parse key transforms points point ↔
      findPoint points point.base.pointId = none := by
  unfold ControlAddressed controlMessageOf
  constructor
  · intro h
    cases hfnd : findPoint points point.base.pointId with
    | none => rfl
    | some found =>
      obtain ⟨address, haddr, -⟩ := h .zero _ (by rw [hfnd, map_some])
      rw [hunm] at haddr
      cases haddr
  · intro h value sent hsent
    rw [h] at hsent
    cases hsent

/-- Of the points with unique ids, one that is not mapped leaves its id free. -/
theorem lookup_of_unmapped (huniq : (others.map fun point => point.base.pointId).Nodup)
    {point : Convertible} (hpt : point ∈ others)
    (hunm : mappedAddress parse point.base = none) :
    lookup parse others point.base.pointId = none := by
  refine lookup_eq_none.2 fun other hoth hid => ?_
  rw [inj_on_of_nodup_map huniq hoth hpt hid]
  exact hunm

theorem nodup_convertible {α : Type} {others : List α} (convertible : α → Convertible)
    (h : (others.map fun point => (convertible point).base.pointId).Nodup) :
    ((others.map convertible).map fun point => point.base.pointId).Nodup := by
  rw [List.map_map]
  exact h

/-- The transform of a control point does nothing exactly when the point is not reversed. -/
theorem forall_applyBool_iff :
    (∀ on, on = point.convertible.transform.applyBool on) ↔ point.reverse = false := by
  constructor
  · intro h
    cases hrev : point.reverse with
    | false => rfl
    | true =>
      have hfalse := h false
      simp [ControlPoint.convertible, TransformConfig.applyBool, hrev] at hfalse
  · intro hrev on
    simp [ControlPoint.convertible, TransformConfig.applyBool, hrev]

theorem controlAddressed_iff (hconvert : convertAllMappedPoints protocol parse config = .ok points)
    (huniq : IdsUnique config) (hpt : point ∈ config.controlPoints) :
    ControlAddressed parse key transforms points point ↔
      ControlClear parse key transforms config point := by
  have hctls := nodup_convertible ControlPoint.convertible huniq.control
  have hadjs := nodup_convertible AdjustmentPoint.convertible huniq.adjustment
  have hmem : point.convertible ∈ config.controlPoints.map ControlPoint.convertible :=
    List.mem_map_of_mem hpt
  have hfind := findPoint_converted hconvert point.convertible.base.pointId
  unfold ControlClear
  cases haddr : mappedAddress parse point.base with
  | some address =>
    rw [lookup_of_mapped hctls hmem haddr, some_or] at hfind
    dsimp only
    cases hadj : lookup parse (config.adjustmentPoints.map AdjustmentPoint.convertible)
        point.convertible.base.pointId with
    | none =>
      rw [hadj, none_or] at hfind
      have hvals : (∀ on, (if transforms then point.convertible.transform.applyBool on else on) =
          point.convertible.transform.applyBool on) ↔
            (transforms = false → point.reverse = false) := by
        rw [← forall_applyBool_iff]
        cases transforms with
        | true => exact iff_of_true (fun _ => rfl) nofun
        | false => exact ⟨fun h _ => h, fun h => h rfl⟩
      rw [controlAddressed_of_found haddr hfind, hvals]
      refine ⟨fun h => ⟨h.2, fun other hoth hid otherAddress hmap => ?_⟩,
        fun h => ⟨rfl, h.1⟩⟩
      have hnone : mappedAddress parse other.base = none :=
        lookup_eq_none.1 hadj _ (List.mem_map_of_mem hoth) hid
      rw [hnone] at hmap
      cases hmap
    | some found =>
      rw [hadj, some_or] at hfind
      obtain ⟨converted, hconv, hid, hfnd⟩ := exists_of_lookup hadj
      obtain ⟨other, hoth, rfl⟩ := List.mem_map.1 hconv
      obtain ⟨otherAddress, hotherAddr, rfl⟩ := map_eq_some_iff.1 hfnd
      have hplain : ∀ on, (if transforms then other.convertible.transform.applyBool on else on) =
          on := by
        intro on
        split <;> rfl
      simp only [controlAddressed_of_found haddr hfind, hplain, forall_applyBool_iff]
      constructor
      · rintro ⟨hkey, hrev⟩
        refine ⟨fun _ => hrev, fun another hanother hanotherId address' haddr' => ?_⟩
        have hsame := lookup_of_mapped hadjs (List.mem_map_of_mem hanother) haddr'
        rw [show another.convertible.base.pointId = point.convertible.base.pointId from hanotherId,
          hadj] at hsame
        obtain rfl : otherAddress = address' := congrArg PointConfig.address (Option.some.inj hsame)
        exact ⟨hkey, hrev⟩
      · rintro ⟨-, hall⟩
        exact hall other hoth hid otherAddress hotherAddr
  | none =>
    rw [lookup_of_unmapped hctls hmem haddr, none_or] at hfind
    dsimp only [ControlPoint.convertible] at hfind
    rw [controlAddressed_of_unmapped haddr, hfind, or_eq_none_iff,
      or_eq_none_iff, lookup_none_iff, lookup_none_iff, lookup_none_iff]

/-- A point that is found under the id of an adjustment point without a mapping must not be able to
    reverse a value. -/
theorem adjustmentAddressed_of_unmapped {point : AdjustmentPoint}
    (hunm : mappedAddress parse point.base = none) :
    AdjustmentAddressed parse key arith round points point ↔
      ∀ found, findPoint points point.base.pointId = some found →
        found.transform.scale.eq .zero = true := by
  unfold AdjustmentAddressed adjustmentMessageOf
  constructor
  · intro h found hfnd
    by_contra hscale
    have hraw : found.transform.reverseApply arith .zero =
        .ok (arith.div (arith.sub .zero found.transform.offset) found.transform.scale) := if_neg hscale
    have hsent := h .zero (key found.address, round _) (by simp only [hfnd, hraw]; rfl)
    obtain ⟨address, -, haddr, -⟩ := hsent
    rw [hunm] at haddr
    cases haddr
  · intro h value sent hsent
    rcases hfnd : findPoint points point.base.pointId with _ | found
    · rw [hfnd] at hsent
      cases hsent
    have herr : found.transform.reverseApply arith value =
        .error (.dataConversion "Cannot reverse transform: scale is zero") := if_pos (h found hfnd)
    simp only [hfnd, herr] at hsent
    cases hsent

theorem adjustmentAddressed_of_mapped {point : AdjustmentPoint} {address : A} {pointType : PointType}
    (haddr : mappedAddress parse point.base = some address)
    (hfnd : findPoint points point.base.pointId =
      some ⟨point.base.pointId, pointType, address, point.convertible.transform⟩) :
    AdjustmentAddressed parse key arith round points point := by
  intro value sent hsent
  unfold adjustmentMessageOf at hsent
  simp only [hfnd] at hsent
  split at hsent
  · cases hsent
  next raw hraw =>
    cases hsent
    exact ⟨address, raw, haddr, hraw, rfl⟩

/-- Of points that can reverse values none may be found where only those that cannot may. -/
theorem lookup_of_reversible {id : UInt32}
    (hreversible : ∀ other ∈ others, other.transform.scale.eq .zero = false)
    (h : ∀ found, lookup parse others id = some found → found.transform.scale.eq .zero = true) :
    lookup parse others id = none := by
  rcases hfnd : lookup parse others id with _ | found
  · rfl
  obtain ⟨other, hoth, -, hconv⟩ := exists_of_lookup hfnd
  have htransform : found.transform = other.transform := by
    obtain ⟨address, -, rfl⟩ := map_eq_some_iff.1 hconv
    rfl
  have hzero := h found hfnd
  rw [htransform, hreversible other hoth] at hzero
  cases hzero

/-- The control and the signal points have the scale one. -/
theorem reversible_of_scale {α : Type} {convertible : α → Convertible}
    (h : ∀ point, (convertible point).transform.scale = .one) {others : List α} :
    ∀ other ∈ others.map convertible, other.transform.scale.eq .zero = false := by
  intro other hoth
  obtain ⟨point, -, rfl⟩ := List.mem_map.1 hoth
  rw [h]
  decide

theorem adjustmentAddressed_iff
    (hconvert : convertAllMappedPoints protocol parse config = .ok points)
    (huniq : IdsUnique config) {point : AdjustmentPoint}
    (hpt : point ∈ config.adjustmentPoints) :
    AdjustmentAddressed parse key arith round points point ↔
      AdjustmentClear parse config point := by
  have hadjs := nodup_convertible AdjustmentPoint.convertible huniq.adjustment
  have htelemetries := nodup_convertible TelemetryPoint.convertible huniq.telemetry
  have hmem : point.convertible ∈ config.adjustmentPoints.map AdjustmentPoint.convertible :=
    List.mem_map_of_mem hpt
  have hfind := findPoint_converted hconvert point.convertible.base.pointId
  cases haddr : mappedAddress parse point.base with
  | some address =>
    rw [lookup_of_mapped hadjs hmem haddr, some_or] at hfind
    refine iff_of_true (adjustmentAddressed_of_mapped haddr hfind) fun hnone => ?_
    rw [haddr] at hnone
    cases hnone
  | none =>
    rw [lookup_of_unmapped hadjs hmem haddr, none_or] at hfind
    dsimp only [AdjustmentPoint.convertible] at hfind
    rw [adjustmentAddressed_of_unmapped haddr, hfind, AdjustmentClear, ← lookup_none_iff,
      ← lookup_none_iff]
    constructor
    · intro h _
      have hctl := lookup_of_reversible (reversible_of_scale fun _ => rfl)
        fun found hfnd => h found (by rw [hfnd, some_or])
      rw [hctl, none_or] at h
      have hsignal := lookup_of_reversible (reversible_of_scale fun _ => rfl)
        fun found hfnd => h found (by rw [hfnd, some_or])
      rw [hsignal, none_or] at h
      refine ⟨hctl, hsignal, fun other hoth hid hmap => ?_⟩
      obtain ⟨otherAddress, hotherAddr⟩ := ne_none_iff_exists'.1 hmap
      have hconv : other.convertible ∈ config.telemetryPoints.map TelemetryPoint.convertible :=
        List.mem_map_of_mem hoth
      have hfnd := lookup_of_mapped htelemetries hconv hotherAddr
      rw [show other.convertible.base.pointId = point.base.pointId from hid] at hfnd
      have hzero := h _ hfnd
      exact hzero
    · intro h found hfnd
      obtain ⟨hctl, hsignal, htel⟩ := h haddr
      rw [hctl, hsignal, none_or, none_or] at hfnd
      obtain ⟨converted, hconv, hid, hconvertedPoint⟩ := exists_of_lookup hfnd
      obtain ⟨other, hoth, rfl⟩ := List.mem_map.1 hconv
      obtain ⟨otherAddress, hotherAddr, rfl⟩ := map_eq_some_iff.1 hconvertedPoint
      have hmap : mappedAddress parse other.base ≠ none := by
        rw [show mappedAddress parse other.base = some otherAddress from hotherAddr]
        exact some_ne_none _
      have hzero := htel other hoth hid hmap
      exact hzero

end Messages

/-! ## The two adapters -/

section Adapters

variable {κ ι φ δ : Type} (lib : Iec104Library κ ι φ δ)
  (parse104 : String → Except GatewayError Iec104Address)
  (parseUa : String → Except GatewayError OpcUaAddress) (config : RuntimeChannelConfig)

/-- Whatever the IEC 104 adapter sends for a configured point goes to the information object of that
    point, with its transform. -/
structure Iec104Addressed (points : List (PointConfig Iec104Address)) : Prop where
  control : ∀ point ∈ config.controlPoints, ∀ value sent,
    Iec104Channel.controlMessage points (point.base.pointId, value) = some sent →
      ∃ address, mappedAddress parse104 point.base = some address ∧
        sent = (address.ioa, point.convertible.transform.applyBool (!value.eq .zero))
  adjustment : ∀ point ∈ config.adjustmentPoints, ∀ value sent,
    Iec104Channel.adjustmentMessage lib points (point.base.pointId, value) = some sent →
      ∃ address raw, mappedAddress parse104 point.base = some address ∧
        point.convertible.transform.reverseApply lib.arith value = .ok raw ∧
        sent = (address.ioa, lib.asF32 raw)

/-- The same for the OPC UA adapter and its nodes. -/
structure OpcUaAddressed (arith : F64.Arithmetic) (points : List (PointConfig OpcUaAddress)) :
    Prop where
  control : ∀ point ∈ config.controlPoints, ∀ value sent,
    OpcUaChannel.controlMessage points (point.base.pointId, value) = some sent →
      ∃ address, mappedAddress parseUa point.base = some address ∧
        sent = (address, point.convertible.transform.applyBool (!value.eq .zero))
  adjustment : ∀ point ∈ config.adjustmentPoints, ∀ value sent,
    OpcUaChannel.adjustmentMessage arith points (point.base.pointId, value) = some sent →
      ∃ address raw, mappedAddress parseUa point.base = some address ∧
        point.convertible.transform.reverseApply arith value = .ok raw ∧ sent = (address, raw)

/-- Nothing gets in the way of a point that can be written. -/
def PointsClear {A B : Type} (parse : String → Except GatewayError A) (key : A → B)
    (transforms : Bool) : Prop :=
  (∀ point ∈ config.controlPoints, ControlClear parse key transforms config point) ∧
    ∀ point ∈ config.adjustmentPoints, AdjustmentClear parse config point

theorem addressed_iff_clear {A B ψ : Type} {parse : String → Except GatewayError A} {key : A → B}
    {transforms : Bool} {arith : F64.Arithmetic} {round : F64 → ψ} {protocol : String}
    {points : List (PointConfig A)} (huniq : IdsUnique config)
    (hconv : convertAllMappedPoints protocol parse config = .ok points) :
    ((∀ point ∈ config.controlPoints, ControlAddressed parse key transforms points point) ∧
        ∀ point ∈ config.adjustmentPoints, AdjustmentAddressed parse key arith round points point) ↔
      PointsClear config parse key transforms := by
  refine and_congr (forall₂_congr fun point hpt => ?_) (forall₂_congr fun point hpt => ?_)
  · exact controlAddressed_iff hconv huniq hpt
  · exact adjustmentAddressed_iff hconv huniq hpt

theorem iec104_controlMessage :
    Iec104Channel.controlMessage = controlMessageOf Iec104Address.ioa false := rfl

theorem iec104_adjustmentMessage :
    Iec104Channel.adjustmentMessage lib =
      adjustmentMessageOf Iec104Address.ioa lib.arith lib.asF32 := by
  funext points command
  unfold Iec104Channel.adjustmentMessage adjustmentMessageOf
  cases findPoint points command.1 with
  | none => rfl
  | some point => cases point.transform.reverseApply lib.arith command.2 <;> rfl

theorem opcUa_controlMessage : OpcUaChannel.controlMessage = controlMessageOf id true := rfl

theorem opcUa_adjustmentMessage (arith : F64.Arithmetic) :
    OpcUaChannel.adjustmentMessage arith = adjustmentMessageOf id arith id := by
  funext points command
  unfold OpcUaChannel.adjustmentMessage adjustmentMessageOf
  cases findPoint points command.1 with
  | none => rfl
  | some point => cases point.transform.reverseApply arith command.2 <;> rfl

theorem iec104Addressed_iff (points : List (PointConfig Iec104Address)) :
    Iec104Addressed lib parse104 config points ↔
      (∀ point ∈ config.controlPoints,
          ControlAddressed parse104 Iec104Address.ioa false points point) ∧
        ∀ point ∈ config.adjustmentPoints,
          AdjustmentAddressed parse104 Iec104Address.ioa lib.arith lib.asF32 points point := by
  unfold ControlAddressed AdjustmentAddressed
  rw [← iec104_controlMessage, ← iec104_adjustmentMessage]
  exact ⟨fun h => ⟨h.control, h.adjustment⟩, fun h => ⟨h.1, h.2⟩⟩

theorem opcUaAddressed_iff (arith : F64.Arithmetic) (points : List (PointConfig OpcUaAddress)) :
    OpcUaAddressed parseUa config arith points ↔
      (∀ point ∈ config.controlPoints, ControlAddressed parseUa id true points point) ∧
        ∀ point ∈ config.adjustmentPoints,
          AdjustmentAddressed parseUa id arith id points point := by
  unfold ControlAddressed AdjustmentAddressed
  rw [← opcUa_controlMessage, ← opcUa_adjustmentMessage]
  exact ⟨fun h => ⟨h.control, h.adjustment⟩, fun h => ⟨h.1, h.2⟩⟩

/-- When the ids are unique within each type, the commands of each adapter reach their own points, with
    the transforms of those points, exactly if nothing gets in the way. The IEC 104 adapter does not
    apply the transform of a control point, the OPC UA adapter does. -/
theorem commands_addressed_iff (config104 configUa : RuntimeChannelConfig)
    (points104 : List (PointConfig Iec104Address)) (pointsUa : List (PointConfig OpcUaAddress))
    (hunique104 : IdsUnique config104) (huniqueUa : IdsUnique configUa)
    (h104 : convertAllMappedPoints "IEC 104" parse104 config104 = .ok points104)
    (hUa : convertAllMappedPoints "OPC UA" parseUa configUa = .ok pointsUa) :
    (Iec104Addressed lib parse104 config104 points104 ↔
        PointsClear config104 parse104 Iec104Address.ioa false) ∧
      (OpcUaAddressed parseUa configUa lib.arith pointsUa ↔ PointsClear configUa parseUa id true) := by
  rw [iec104Addressed_iff, opcUaAddressed_iff]
  exact ⟨addressed_iff_clear config104 hunique104 h104, addressed_iff_clear configUa huniqueUa hUa⟩

end Adapters

/-! ## A control and an adjustment point -/

/-- The decoder of IEC 104 mappings on two texts. -/
def parseTwo104 (mapping : String) : Except GatewayError Iec104Address :=
  if mapping = "\"100\"" then .ok ⟨100, 0⟩
  else if mapping = "\"200\"" then .ok ⟨200, 0⟩
  else .error (.config "invalid IEC 104 point mapping")

/-- The decoder of OPC UA mappings on two texts. -/
def parseTwoNodes (mapping : String) : Except GatewayError OpcUaAddress :=
  if mapping = "\"i=100\"" then .ok ⟨"i=100", 0⟩
  else if mapping = "\"i=200\"" then .ok ⟨"i=200", 0⟩
  else .error (.config "invalid OPC UA point mapping")

/-- A control point at the first address and an adjustment point with this id at the second. -/
def pointsAt (own other : String) (adjustmentId : UInt32) : RuntimeChannelConfig :=
  ⟨1, [], [], [⟨⟨5, some own⟩, false, 1, 0⟩],
    [⟨⟨adjustmentId, some other⟩, none, none, .one, .one, .zero⟩]⟩

/-- On IEC 104. -/
def twoPoints : UInt32 → RuntimeChannelConfig := pointsAt "\"100\"" "\"200\""

/-- What the IEC 104 adapter makes of them. -/
def twoPoints104 (adjustmentId : UInt32) : List (PointConfig Iec104Address) :=
  [⟨5, .control, ⟨100, 0⟩, ⟨.one, .zero, false⟩⟩,
    ⟨adjustmentId, .adjustment, ⟨200, 0⟩, ⟨.one, .zero, false⟩⟩]

/-- On OPC UA. -/
def twoNodes : UInt32 → RuntimeChannelConfig := pointsAt "\"i=100\"" "\"i=200\""

/-- What the OPC UA adapter makes of them. -/
def twoNodesUa (adjustmentId : UInt32) : List (PointConfig OpcUaAddress) :=
  [⟨5, .control, ⟨"i=100", 0⟩, ⟨.one, .zero, false⟩⟩,
    ⟨adjustmentId, .adjustment, ⟨"i=200", 0⟩, ⟨.one, .zero, false⟩⟩]

theorem convert_twoPoints (adjustmentId : UInt32) :
    convertAllMappedPoints "IEC 104" parseTwo104 (twoPoints adjustmentId) =
        .ok (twoPoints104 adjustmentId) ∧
      convertAllMappedPoints "OPC UA" parseTwoNodes (twoNodes adjustmentId) =
        .ok (twoNodesUa adjustmentId) := ⟨rfl, rfl⟩

theorem idsUnique_pointsAt (own other : String) (adjustmentId : UInt32) :
    IdsUnique (pointsAt own other adjustmentId) :=
  ⟨nodup_nil, nodup_nil, nodup_singleton _, nodup_singleton _⟩

/-- A client that takes every command; the arithmetic plays no part. -/
def plainLibrary : Iec104Library Unit Unit F64 Unit where
  client :=
    { connect := fun _ => (.ok (), ())
      disconnect := fun _ => (.ok (), ())
      startDt := fun _ => (.ok (), ())
      stopDt := fun _ => (.ok (), ())
      generalInterrogation := fun _ _ => (.ok (), ())
      poll := fun _ => (.ok none, ())
      singleCommand := fun _ _ _ _ _ => (.ok (), ())
      setpointFloat := fun _ _ _ _ _ => (.ok (), ()) }
  arith := ⟨fun value _ => value, fun value _ => value, fun value _ => value⟩
  asF32 := id
  convertDataPoints _ := ⟨[], []⟩

theorem pointsClear_pointsAt {A B : Type} (parse : String → Except GatewayError A) (key : A → B)
    (transforms : Bool) {own other : String} {ownAt otherAt : A}
    (hown : mappedAddress parse ⟨5, some own⟩ = some ownAt)
    (hoth : mappedAddress parse ⟨6, some other⟩ = some otherAt) :
    PointsClear (pointsAt own other 6) parse key transforms := by
  constructor
  · intro point hpt
    obtain rfl := mem_singleton.1 hpt
    unfold ControlClear
    rw [hown]
    refine ⟨fun _ => rfl, fun adjustment hadj hid => ?_⟩
    obtain rfl := mem_singleton.1 hadj
    cases hid
  · intro point hpt hunm
    obtain rfl := mem_singleton.1 hpt
    rw [hoth] at hunm
    cases hunm

/-- Under different ids every command reaches its own point. -/
theorem commands_addressed_apart :
    Iec104Addressed plainLibrary parseTwo104 (twoPoints 6) (twoPoints104 6) ∧
      OpcUaAddressed parseTwoNodes (twoNodes 6) plainLibrary.arith (twoNodesUa 6) := by
  have h := commands_addressed_iff plainLibrary parseTwo104 parseTwoNodes (twoPoints 6) (twoNodes 6)
    (twoPoints104 6) (twoNodesUa 6) (idsUnique_pointsAt _ _ 6) (idsUnique_pointsAt _ _ 6)
    (convert_twoPoints 6).1 (convert_twoPoints 6).2
  exact ⟨h.1.2 (pointsClear_pointsAt parseTwo104 _ _ rfl rfl),
    h.2.2 (pointsClear_pointsAt parseTwoNodes _ _ rfl rfl)⟩

/-- Under the same id the control command operates the object of the adjustment point. -/
theorem command_misdirected :
    IdsUnique (twoPoints 5) ∧
      convertAllMappedPoints "IEC 104" parseTwo104 (twoPoints 5) = .ok (twoPoints104 5) ∧
      Iec104Channel.controlMessage (twoPoints104 5) (5, .one) = some (200, true) ∧
      ∀ point ∈ (twoPoints 5).controlPoints,
        point.base.pointId = 5 ∧ mappedAddress parseTwo104 point.base = some ⟨100, 0⟩ := by
  refine ⟨idsUnique_pointsAt _ _ 5, (convert_twoPoints 5).1, by decide +kernel, ?_⟩
  intro point hpoint
  obtain rfl := mem_singleton.1 hpoint
  exact ⟨rfl, rfl⟩

end AetherEdge.Io
