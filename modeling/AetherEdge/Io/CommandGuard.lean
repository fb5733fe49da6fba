import AetherEdge.Common.LastEntry
import AetherEdge.Domain.Constraints
import AetherEdge.Io.ChannelConfig

/-!
# The command guard

Model of `CommandGuard` (`services/io/src/core/channels/command_guard.rs`): the last check of a
command before a protocol adapter sees it.

* `validate_spec`: what passes the check was in time, and its value passes the constraints of a
  configured point;
* `validate_permitted`: these constraints say what the configuration says, for controls always and
  for adjustments near the origin of their grid.
-/

namespace AetherEdge.Io

open Domain List

/-- Lines 16-24. -/
inductive CommandGuardError where
  | unknownWritablePoint (pointType : PointType) (pointId : UInt32)
  | invalidCommand (error : DomainError)
  deriving DecidableEq, Repr

/-- `CommandGuard`. The maps are the entries they are collected from. -/
structure CommandGuard where
  channelId : UInt32
  controls : List (UInt32 × CommandConstraints)
  adjustments : List (UInt32 × CommandConstraints)

/-- `CommandGuardError::from` (lines 46-48). -/
def CommandGuardError.ofDomain {α : Type} : Except DomainError α → Except CommandGuardError α
  | .ok value => .ok value
  | .error error => .error (.invalidCommand error)

/-- In `from_runtime` (lines 61-89). -/
def ControlPoint.constraints (point : ControlPoint) : Except DomainError CommandConstraints :=
  let minimum := F64.ofNat (min point.onValue point.offValue).toNat
  let maximum := F64.ofNat (max point.onValue point.offValue).toNat
  let step := if minimum.lt maximum then some (maximum.sub minimum) else none
  CommandConstraints.new (some minimum) (some maximum) step

/-- In `from_runtime` (lines 61-89). -/
def AdjustmentPoint.constraints (point : AdjustmentPoint) :
    Except DomainError CommandConstraints :=
  CommandConstraints.new point.minValue point.maxValue (some point.step)

/-- `from_runtime` (lines 61-89). -/
def CommandGuard.fromRuntime (config : RuntimeChannelConfig) :
    Except CommandGuardError CommandGuard := do
  let controls ← config.controlPoints.mapM fun point => do
    let constraints ← CommandGuardError.ofDomain point.constraints
    return (point.base.pointId, constraints)
  let adjustments ← config.adjustmentPoints.mapM fun point => do
    let constraints ← CommandGuardError.ofDomain point.constraints
    return (point.base.pointId, constraints)
  return ⟨config.id, controls, adjustments⟩

/-- `u64::try_from`. -/
def u64TryFrom (value : Int64) : Option ℕ :=
  if 0 ≤ value.toInt then some value.toInt.toNat else none

/-- The lookup in `validate` (lines 92-129). -/
def CommandGuard.constraints (guard : CommandGuard) : PointType → UInt32 → Option CommandConstraints
  | .control, pointId => lastEntry guard.controls pointId
  | .adjustment, pointId => lastEntry guard.adjustments pointId
  | _, _ => none

/-- `validate` (lines 92-129). -/
def CommandGuard.validate (guard : CommandGuard) (pointType : PointType) (pointId : UInt32)
    (value : F64) (issuedAtMs expiresAtMs nowMs : Int64) : Except CommandGuardError Unit :=
  match guard.constraints pointType pointId with
  | none => .error (.unknownWritablePoint pointType pointId)
  | some constraints =>
    match u64TryFrom issuedAtMs, u64TryFrom expiresAtMs, u64TryFrom nowMs with
    | some issuedAt, some expiresAt, some now => CommandGuardError.ofDomain do
      let target := ⟨guard.channelId, .action, pointId⟩
      let command ← ControlCommand.new 0 target value issuedAt expiresAt
      command.validateAt now constraints
    | _, _, _ => .error (.invalidCommand .invalidCommandWindow)

/-! ## What passes the check -/

theorem u64TryFrom_eq_some {value : Int64} {n : ℕ} (h : u64TryFrom value = some n) :
    value.toInt = n := by
  unfold u64TryFrom at h
  split_ifs at h with hnonneg
  cases h
  exact (Int.toNat_of_nonneg hnonneg).symm

variable {value : F64}

/-- A command that passes is in time, and its value passes the constraints of its point. -/
theorem CommandGuard.validate_spec {guard : CommandGuard} {pointType : PointType} {pointId : UInt32}
    {issuedAtMs expiresAtMs nowMs : Int64}
    (h : guard.validate pointType pointId value issuedAtMs expiresAtMs nowMs = .ok ()) :
    nowMs.toInt < expiresAtMs.toInt ∧ ∃ constraints,
      guard.constraints pointType pointId = some constraints ∧
        constraints.validateValue value = .ok () := by
  unfold CommandGuard.validate at h
  rcases hconstr : guard.constraints pointType pointId with _ | constraints
  · rw [hconstr] at h
    cases h
  rw [hconstr] at h
  dsimp only at h
  split at h
  · next issuedAt expiresAt now hissued hexp hnow =>
    unfold CommandGuardError.ofDomain at h
    split at h
    · next hval =>
      obtain ⟨command, hnew, hat⟩ := bind_eq_ok.1 hval
      unfold ControlCommand.new at hnew
      split_ifs at hnew
      cases hnew
      unfold ControlCommand.validateAt at hat
      split_ifs at hat with hlate
      dsimp only at hlate
      rw [u64TryFrom_eq_some hnow, u64TryFrom_eq_some hexp]
      exact ⟨by omega, constraints, rfl, hat⟩
    · cases h
  · cases h

/-! ## What the configuration permits -/

/-- The value lies within the bounds of the control point, and within a millionth of their span of
    its on or off value. -/
def ControlPoint.Permits (point : ControlPoint) (value : F64) : Prop :=
  (min point.onValue point.offValue).toNat ≤ value.toRat ∧
    value.toRat ≤ (max point.onValue point.offValue).toNat ∧
    ∃ target ∈ [point.onValue, point.offValue],
      |value.toRat - target.toNat| ≤ |(point.onValue.toNat : ℚ) - point.offValue.toNat| / 10 ^ 6

/-- The origin of its grid. -/
def AdjustmentPoint.origin (point : AdjustmentPoint) : F64 := point.minValue.getD .zero

/-- The value lies within the bounds of the adjustment point, and within a millionth of a step of its
    grid. -/
def AdjustmentPoint.Permits (point : AdjustmentPoint) (value : F64) : Prop :=
  (∀ minimum, point.minValue = some minimum → minimum.toRat ≤ value.toRat) ∧
    (∀ maximum, point.maxValue = some maximum → value.toRat ≤ maximum.toRat) ∧
    ∃ k : ℤ, |value.toRat - (point.origin.toRat + k * point.step.toRat)| ≤
      point.step.toRat / 10 ^ 6

/-- The configuration permits the value. -/
def RuntimeChannelConfig.Permits (config : RuntimeChannelConfig) :
    PointType → UInt32 → F64 → Prop
  | .control, pointId, value =>
    ∃ point ∈ config.controlPoints, point.base.pointId = pointId ∧ point.Permits value
  | .adjustment, pointId, value =>
    ∃ point ∈ config.adjustmentPoints, point.base.pointId = pointId ∧ point.Permits value
  | _, _, _ => False

/-- The value is at most `2 ^ 27` steps from the origin of the grid of every adjustment point with the
    id, and their difference does not overflow. -/
def RuntimeChannelConfig.NearOrigin (config : RuntimeChannelConfig) (pointId : UInt32)
    (value : F64) : Prop :=
  ∀ point ∈ config.adjustmentPoints, point.base.pointId = pointId →
    |value.toRat - point.origin.toRat| ≤ 2 ^ 27 * point.step.toRat ∧
      |value.toRat - point.origin.toRat| < 2 ^ 1022

theorem exists_of_mem_mapM {α β ε : Type} {f : α → Except ε β} {l : List α} {result : List β}
    (h : l.mapM f = .ok result) {b : β} (hb : b ∈ result) : ∃ a ∈ l, f a = .ok b := by
  induction l generalizing result with
  | nil =>
    rw [mapM_nil] at h
    cases h
    cases hb
  | cons a l ih =>
    rw [mapM_cons] at h
    obtain ⟨first, hfst, htail⟩ := bind_eq_ok.1 h
    obtain ⟨rest, hrest, hres⟩ := bind_eq_ok.1 htail
    cases hres
    rcases mem_cons.1 hb with rfl | hb
    · exact ⟨a, mem_cons_self, hfst⟩
    · obtain ⟨a', ha', hf⟩ := ih hrest hb
      exact ⟨a', mem_cons_of_mem _ ha', hf⟩

variable {constraints : CommandConstraints}

theorem constraints_eq_of_new {minimum maximum step : Option F64}
    (h : CommandConstraints.new minimum maximum step = .ok constraints) :
    constraints.minimum = minimum ∧ constraints.maximum = maximum ∧ constraints.step = step := by
  unfold CommandConstraints.new at h
  split_ifs at h
  cases h
  exact ⟨rfl, rfl, rfl⟩

theorem AdjustmentPoint.permits_of_validateValue {point : AdjustmentPoint}
    (hconstr : point.constraints = .ok constraints)
    (h : constraints.validateValue value = .ok ())
    (hnear : |value.toRat - point.origin.toRat| ≤ 2 ^ 27 * point.step.toRat ∧ |value.toRat -
      point.origin.toRat| < 2 ^ 1022) :
    point.Permits value := by
  obtain ⟨hmin, hmax, hstep⟩ := constraints_eq_of_new hconstr
  obtain ⟨-, hlow, hhigh⟩ := validateValue_range h
  have horigin : constraints.origin = point.origin := by
    rw [CommandConstraints.origin, hmin]
    rfl
  have hgrid := validateValue_grid h hstep (by rw [NearOrigin, horigin]; exact hnear)
  rw [OnGrid, horigin] at hgrid
  rw [hmin] at hlow
  rw [hmax] at hhigh
  exact ⟨hlow, hhigh, hgrid⟩

/-- Between the two ends of one step, a value near the grid is near an end. -/
theorem near_end {value low high : ℚ} (hlow : low ≤ value) (hhigh : value ≤ high)
    (hlt : low < high) {k : ℤ} (hk : |value - (low + k * (high - low))| ≤ (high - low) / 10 ^ 6) :
    |value - low| ≤ (high - low) / 10 ^ 6 ∨ |value - high| ≤ (high - low) / 10 ^ 6 := by
  obtain ⟨hbel, habv⟩ := abs_le.1 hk
  have hspan : 0 < high - low := sub_pos.2 hlt
  have hpart : (high - low) / 10 ^ 6 < high - low := div_lt_self hspan (by norm_num)
  have hnonneg : 0 ≤ k := by
    by_contra hneg
    have hcast : (k : ℚ) ≤ -1 := by exact_mod_cast Int.le_sub_one_of_lt (not_le.1 hneg)
    have hmul := mul_le_mul_of_nonneg_right hcast hspan.le
    linarith
  have hle : k ≤ 1 := by
    by_contra hgt
    have hcast : (2 : ℚ) ≤ k := by exact_mod_cast not_le.1 hgt
    have hmul := mul_le_mul_of_nonneg_right hcast hspan.le
    linarith
  obtain rfl | rfl : k = 0 ∨ k = 1 := by omega
  · left
    rw [Int.cast_zero, zero_mul, add_zero] at hk
    exact hk
  · right
    rw [Int.cast_one, one_mul, add_sub_cancel] at hk
    exact hk

theorem ends_of_values (on off : UInt16) :
    ((max on off).toNat : ℚ) - (min on off).toNat = |(on.toNat : ℚ) - off.toNat| ∧
      min on off ∈ [on, off] ∧ max on off ∈ [on, off] := by
  by_cases hle : on ≤ off
  · have hcast : (on.toNat : ℚ) ≤ off.toNat := Nat.cast_le.2 (UInt16.le_iff_toNat_le.1 hle)
    rw [show min on off = on from if_pos hle, show max on off = off from if_pos hle,
      abs_of_nonpos (sub_nonpos.2 hcast), neg_sub]
    simp
  · have hlt : off.toNat < on.toNat := not_le.1 fun h => hle (UInt16.le_iff_toNat_le.2 h)
    have hcast : (off.toNat : ℚ) ≤ on.toNat := Nat.cast_le.2 hlt.le
    rw [show min on off = off from if_neg hle, show max on off = on from if_neg hle,
      abs_of_nonneg (sub_nonneg.2 hcast)]
    simp

/-- The constraints of a control point accept values near its two ends only: the grid has no other
    point between them, and they are one step apart. -/
theorem ControlPoint.permits_of_validateValue {point : ControlPoint}
    (hconstr : point.constraints = .ok constraints)
    (h : constraints.validateValue value = .ok ()) : point.Permits value := by
  obtain ⟨hmin, hmax, hstep⟩ := constraints_eq_of_new hconstr
  obtain ⟨-, hlow, hhigh⟩ := validateValue_range h
  obtain ⟨hspan, hlowMem, hhighMem⟩ := ends_of_values point.onValue point.offValue
  have hlow := hlow _ hmin
  have hhigh := hhigh _ hmax
  unfold ControlPoint.Permits
  rw [← hspan]
  have hspanNonneg : 0 ≤ ((max point.onValue point.offValue).toNat : ℚ) -
      (min point.onValue point.offValue).toNat := hspan ▸ abs_nonneg _
  generalize min point.onValue point.offValue = low at *
  generalize max point.onValue point.offValue = high at *
  have hlowLt : low.toNat < 2 ^ 53 := (UInt16.toNat_lt _).trans (by decide)
  have hhighLt : high.toNat < 2 ^ 16 := UInt16.toNat_lt _
  rw [F64.toRat_ofNat hlowLt] at hlow
  rw [F64.toRat_ofNat (hhighLt.trans (by decide))] at hhigh
  refine ⟨hlow, hhigh, ?_⟩
  obtain ⟨hlowFinite, hlowUnits⟩ := F64.ofNat_spec hlowLt
  obtain ⟨hhighFinite, hhighUnits⟩ := F64.ofNat_spec (hhighLt.trans (by decide))
  have hiff : (F64.ofNat low.toNat).lt (F64.ofNat high.toNat) = true ↔ low.toNat < high.toNat := by
    rw [F64.lt_iff_units (F64.isNan_of_isFinite hlowFinite) (F64.isNan_of_isFinite hhighFinite),
      hlowUnits, hhighUnits, mul_lt_mul_iff_left₀ (by positivity), Nat.cast_lt]
  by_cases hlt : low.toNat < high.toNat
  · rw [if_pos (hiff.2 hlt), F64.ofNat_sub (hhighLt.trans (by decide)) hlt] at hstep
    have hcast : (low.toNat : ℚ) < high.toNat := Nat.cast_lt.2 hlt
    have hbd : (high.toNat : ℚ) < 2 ^ 16 := by exact_mod_cast hhighLt
    have hstepRat : (F64.ofNat (high.toNat - low.toNat)).toRat = (high.toNat : ℚ) - low.toNat := by
      rw [F64.toRat_ofNat (by omega), Nat.cast_sub hlt.le]
    have horigin : constraints.origin.toRat = low.toNat := by
      rw [CommandConstraints.origin, hmin]
      exact F64.toRat_ofNat hlowLt
    have hnear : NearOrigin constraints (F64.ofNat (high.toNat - low.toNat)) value := by
      rw [NearOrigin, horigin, hstepRat, abs_of_nonneg (sub_nonneg.2 hlow)]
      refine ⟨by linarith, ?_⟩
      refine lt_of_lt_of_le (b := 2 ^ 16) ?_ (pow_le_pow_right₀ one_le_two (by decide))
      have hnonneg : (0 : ℚ) ≤ low.toNat := Nat.cast_nonneg _
      linarith
    obtain ⟨k, hk⟩ := validateValue_grid h hstep hnear
    rw [horigin, hstepRat] at hk
    rcases near_end hlow hhigh hcast hk with hend | hend
    · exact ⟨low, hlowMem, hend⟩
    · exact ⟨high, hhighMem, hend⟩
  · have hcast : (high.toNat : ℚ) ≤ low.toNat := Nat.cast_le.2 (not_lt.1 hlt)
    refine ⟨low, hlowMem, ?_⟩
    rw [show value.toRat = low.toNat from le_antisymm (hhigh.trans hcast) hlow, sub_self, abs_zero]
    exact div_nonneg hspanNonneg (by norm_num)

theorem CommandGuard.validate_permitted {config : RuntimeChannelConfig} {guard : CommandGuard}
    (hgd : CommandGuard.fromRuntime config = .ok guard) {pointType : PointType}
    {pointId : UInt32} {issuedAtMs expiresAtMs nowMs : Int64}
    (h : guard.validate pointType pointId value issuedAtMs expiresAtMs nowMs = .ok ())
    (hnear : pointType = .adjustment → config.NearOrigin pointId value) :
    nowMs.toInt < expiresAtMs.toInt ∧ config.Permits pointType pointId value := by
  obtain ⟨htime, constraints, hconstr, hvl⟩ := validate_spec h
  refine ⟨htime, ?_⟩
  unfold CommandGuard.fromRuntime at hgd
  obtain ⟨controls, hctls, hgd⟩ := bind_eq_ok.1 hgd
  obtain ⟨adjustments, hadjs, hgd⟩ := bind_eq_ok.1 hgd
  cases hgd
  have hent {α : Type} {base : α → UInt32} {constraintsOf : α → Except DomainError CommandConstraints}
      {points : List α} {entries : List (UInt32 × CommandConstraints)}
      (hents : points.mapM (fun point => do
        let constraints ← CommandGuardError.ofDomain (constraintsOf point)
        return (base point, constraints)) = .ok entries)
      (hlast : lastEntry entries pointId = some constraints) :
      ∃ point ∈ points, base point = pointId ∧ constraintsOf point = .ok constraints := by
    obtain ⟨point, hpt, hbuilt⟩ := exists_of_mem_mapM hents (mem_of_lastEntry hlast)
    obtain ⟨built, hofDomain, hreturn⟩ := bind_eq_ok.1 hbuilt
    cases hreturn
    unfold CommandGuardError.ofDomain at hofDomain
    split at hofDomain
    · next hok =>
      cases hofDomain
      exact ⟨point, hpt, rfl, hok⟩
    · cases hofDomain
  cases pointType with
  | telemetry | signal => cases hconstr
  | control =>
    obtain ⟨point, hpt, hid, hok⟩ := hent hctls hconstr
    exact ⟨point, hpt, hid, point.permits_of_validateValue hok hvl⟩
  | adjustment =>
    obtain ⟨point, hpt, hid, hok⟩ := hent hadjs hconstr
    exact ⟨point, hpt, hid, point.permits_of_validateValue hok hvl (hnear rfl point hpt hid)⟩

end AetherEdge.Io
