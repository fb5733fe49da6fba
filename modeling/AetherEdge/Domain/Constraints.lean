import AetherEdge.Common.Binary64
import AetherEdge.Domain

/-!
# Command constraints

Model of `CommandConstraints` and of the checks of `ControlCommand`
(`crates/aether-domain/src/command.rs`), with the arithmetic of the step check as the machine does
it.

The check works on the rounded difference of the value and the origin of the grid. A difference of
many steps is rounded to multiples of what may be a large part of a step, and one that overflows
has no remainder at all, so that the check says something about the exact value only near the
origin.

* `validateValue_range`: an accepted value lies within the bounds;
* `validateValue_grid`: one that is at most `2 ^ 27` steps from the origin lies within a millionth
  of a step of the grid;
* `accepted_between_steps`: farther away it may lie anywhere between two steps.
-/

namespace AetherEdge

namespace F64

/-- `1.0e-9`. -/
def billionth : F64 := ⟨0x3e112e0be826d695⟩

/-- `1.0e-6`. -/
def millionth : F64 := ⟨0x3eb0c6f7a0b5ed8d⟩

/-- `8.0`. -/
def eight : F64 := ⟨0x4020000000000000⟩

end F64

namespace Domain

/-- The errors of `DomainError` that a command can meet. -/
inductive DomainError where
  | pointNotWritable (kind : PointKind)
  | nonFiniteCommandValue
  | invalidCommandWindow
  | commandExpired
  | invalidCommandConstraints
  | commandValueOutOfRange
  | commandValueOffStep
  deriving DecidableEq, Repr

/-- The test of `CommandConstraints::new` (lines 20-38). -/
def constraintsValid (minimum maximum step : Option F64) : Bool :=
  minimum.all F64.isFinite && maximum.all F64.isFinite &&
    step.all (fun value => value.isFinite && !value.le .zero) &&
    minimum.all fun min => maximum.all fun max => !max.lt min

/-- Lines 12-16. -/
structure CommandConstraints where
  minimum : Option F64
  maximum : Option F64
  step : Option F64
  valid : constraintsValid minimum maximum step = true
  deriving DecidableEq

/-- `new` (lines 20-38). -/
def CommandConstraints.new (minimum maximum step : Option F64) :
    Except DomainError CommandConstraints :=
  if h : constraintsValid minimum maximum step = true then .ok ⟨minimum, maximum, step, h⟩
  else .error .invalidCommandConstraints

/-- The distance to the next multiple of the step. -/
def stepDistance (step remainder : F64) : F64 :=
  if remainder.lt (step.sub remainder).abs then remainder else (step.sub remainder).abs

/-- What an offset may be away from the grid. -/
def stepTolerance (step offset : F64) : F64 :=
  let representationTolerance := (F64.epsilon.mul offset.abs).mul .eight
  let baseTolerance := step.mul .billionth
  let candidate :=
    if baseTolerance.lt representationTolerance then representationTolerance else baseTolerance
  let maximumTolerance := step.mul .millionth
  if candidate.lt maximumTolerance then candidate else maximumTolerance

/-- The origin of the grid. -/
def CommandConstraints.origin (constraints : CommandConstraints) : F64 :=
  constraints.minimum.getD .zero

/-- `validate_value` (lines 69-108). -/
def CommandConstraints.validateValue (constraints : CommandConstraints) (value : F64) :
    Except DomainError Unit :=
  if !value.isFinite then .error .nonFiniteCommandValue
  else if constraints.minimum.any (fun minimum => value.lt minimum) ||
      constraints.maximum.any (fun maximum => maximum.lt value) then
    .error .commandValueOutOfRange
  else
    match constraints.step with
    | none => .ok ()
    | some step =>
      let offset := value.sub constraints.origin
      if (stepTolerance step offset).lt (stepDistance step (offset.rem step).abs) then
        .error .commandValueOffStep
      else .ok ()

/-- `point.rs:129-133`. -/
structure PointAddress where
  instanceId : UInt32
  kind : PointKind
  pointId : UInt32
  deriving DecidableEq, Repr

/-- `ControlCommand`. What its constructor checks is a field of the type. -/
structure ControlCommand where
  id : ℕ
  target : PointAddress
  value : F64
  issuedAt : ℕ
  expiresAt : ℕ
  writable : target.kind.isWritable = true
  finite : value.isFinite = true
  window : issuedAt < expiresAt

/-- `new` (lines 123-147). -/
def ControlCommand.new (id : ℕ) (target : PointAddress) (value : F64) (issuedAt expiresAt : ℕ) :
    Except DomainError ControlCommand :=
  if hwritable : target.kind.isWritable = true then
    if hfinite : value.isFinite = true then
      if hwindow : issuedAt < expiresAt then
        .ok ⟨id, target, value, issuedAt, expiresAt, hwritable, hfinite, hwindow⟩
      else .error .invalidCommandWindow
    else .error .nonFiniteCommandValue
  else .error (.pointNotWritable target.kind)

/-- `validate_at` (lines 150-159). -/
def ControlCommand.validateAt (command : ControlCommand) (now : ℕ)
    (constraints : CommandConstraints) : Except DomainError Unit :=
  if command.expiresAt ≤ now then .error .commandExpired
  else constraints.validateValue command.value

/-! ## The tolerance -/

section Step

variable {step offset : F64}

theorem isFinite_billionth : F64.billionth.isFinite = true := by decide

theorem size_epsilon : F64.epsilon.size * 2 ^ 52 = 2 ^ 1074 := by decide +kernel

theorem size_eight : F64.eight.size = 8 * 2 ^ 1074 := by decide +kernel

theorem size_billionth : F64.billionth.size * 999999999 ≤ 2 ^ 1074 := by decide +kernel

theorem representationTolerance_le (hoff : offset.isFinite = true)
    (hsmall : offset.size < 2 ^ 2097) :
    ((F64.epsilon.mul offset.abs).mul .eight).isFinite = true ∧
      2 ^ 47 * ((F64.epsilon.mul offset.abs).mul .eight).size ≤ offset.size := by
  have hmag : offset.abs.isFinite = true := (F64.isFinite_abs offset).trans hoff
  have hscaled : F64.epsilon.size * offset.abs.size * 2 ^ 52 ≤ offset.size * 2 ^ 1074 := by
    rw [F64.size_abs, ← size_epsilon]
    exact le_of_eq (by ring)
  obtain ⟨hfst, hfirstLe⟩ := F64.mul_spec (by decide) hmag hscaled (by omega)
  generalize F64.epsilon.mul offset.abs = first at *
  have htimes : first.size * F64.eight.size * 1 ≤ 8 * first.size * 2 ^ 1074 := by
    rw [size_eight]
    exact le_of_eq (by ring)
  obtain ⟨hsecond, hsecondLe⟩ := F64.mul_spec hfst (by decide) htimes (by omega)
  exact ⟨hsecond, by omega⟩

theorem baseTolerance_le (hstep : step.isFinite = true) :
    (step.mul .billionth).isFinite = true ∧
      999999999 * (step.mul .billionth).size ≤ 2 * step.size := by
  have hscaled : step.size * F64.billionth.size * 999999999 ≤ step.size * 2 ^ 1074 := by
    rw [Nat.mul_assoc]
    exact Nat.mul_le_mul_left _ size_billionth
  have hlt : step.size < 999999999 * 2 ^ 2097 := by
    have hle : step.size < F64.unitsOf F64.infinityPattern :=
      F64.unitsOf_strictMono ((F64.isFinite_iff step).1 hstep)
    refine hle.trans_le ?_
    decide +kernel
  obtain ⟨hfin, hle⟩ := F64.mul_spec hstep isFinite_billionth hscaled hlt
  exact ⟨hfin, by omega⟩

/-- The tolerance is a part in `2 ^ 47` of the offset at most, or two billionths of the step. -/
theorem stepTolerance_le (hstep : step.isFinite = true) (hoff : offset.isFinite = true)
    (hsmall : offset.size < 2 ^ 2097) :
    (stepTolerance step offset).isNan = false ∧
      (2 ^ 47 * (stepTolerance step offset).units ≤ offset.size ∨
        999999999 * (stepTolerance step offset).units ≤ 2 * step.size) := by
  obtain ⟨hrepresentation, hrepresentationLe⟩ := representationTolerance_le hoff hsmall
  obtain ⟨hbase, hbaseLe⟩ := baseTolerance_le hstep
  have hmax : (step.mul .millionth).isNan = false := F64.isNan_mul hstep (by decide)
  unfold stepTolerance
  dsimp only
  generalize (F64.epsilon.mul offset.abs).mul .eight = representation at *
  generalize step.mul .billionth = base at *
  generalize step.mul .millionth = maximum at *
  have hrepresentationUnits := representation.units_le_size
  have hbaseUnits := base.units_le_size
  have hcand : (if base.lt representation then representation else base).isNan = false ∧
      (2 ^ 47 * (if base.lt representation then representation else base).units ≤ offset.size ∨
        999999999 * (if base.lt representation then representation else base).units ≤
          2 * step.size) := by
    split_ifs
    · exact ⟨F64.isNan_of_isFinite hrepresentation, .inl (by omega)⟩
    · exact ⟨F64.isNan_of_isFinite hbase, .inr (by omega)⟩
  generalize (if base.lt representation then representation else base) = candidate at *
  split_ifs with hlt
  · exact hcand
  refine ⟨hmax, ?_⟩
  rw [F64.lt_iff_units hcand.1 hmax, not_lt] at hlt
  rcases hcand.2 with hle | hle
  · exact .inl (by omega)
  · exact .inr (by omega)

/-! ## The distance -/

/-- The distance of a number from a multiple of the step is that of its size. -/
theorem exists_multiple (offset : F64) (step j : ℤ) :
    ∃ k : ℤ, |offset.units - k * step| = |(offset.size : ℤ) - j * step| := by
  unfold F64.units
  split_ifs
  · refine ⟨-j, ?_⟩
    rw [← abs_neg]
    congr 1
    ring
  · exact ⟨j, rfl⟩

/-- The distance bounds that of the offset from a multiple of the step. -/
theorem stepDistance_spec (hstep : step.isFinite = true) (hpos : 0 < step.units)
    (hoff : offset.isFinite = true) (hsmall : offset.size < 2 ^ 2097) :
    (stepDistance step (offset.rem step).abs).isNan = false ∧ ∃ k : ℤ,
      2 ^ 53 * |offset.units - k * step.units| ≤
        2 ^ 53 * (stepDistance step (offset.rem step).abs).units +
          2 * (stepDistance step (offset.rem step).abs).units + step.units := by
  have hsize : (step.size : ℤ) = step.units := by
    rw [← F64.abs_units, abs_of_pos hpos]
  have hzero : step.pattern ≠ 0 := by
    intro hzero
    rw [F64.size, hzero] at hsize
    rw [← hsize] at hpos
    exact absurd hpos (by decide)
  obtain ⟨hrem, hlow, hhigh⟩ := F64.rem_spec hoff hstep hzero hsmall
  have hdivision : offset.size / step.size * step.size + offset.size % step.size = offset.size :=
    Nat.div_add_mod' _ _
  have hmod : offset.size % step.size < step.size := Nat.mod_lt _ (by omega)
  have hremainder : (offset.rem step).abs.isFinite = true := (F64.isFinite_abs _).trans hrem
  have hremainderUnits := F64.units_abs (offset.rem step)
  obtain ⟨hdiff, hexact⟩ := F64.sub_spec hstep hremainder
  have hoth : (step.sub (offset.rem step).abs).abs.isNan = false := by
    rw [F64.isNan_eq_false, F64.pattern_abs, ← F64.isNan_eq_false]
    exact hdiff
  have hotherUnits := F64.units_abs (step.sub (offset.rem step).abs)
  rw [hremainderUnits] at hexact
  generalize hquotient : offset.size / step.size = quotient at hdivision
  have hmultiple : ((quotient * step.size : ℕ) : ℤ) = quotient * step.units := by
    rw [Nat.cast_mul, hsize]
  unfold stepDistance
  by_cases hlt : (offset.rem step).abs.lt (step.sub (offset.rem step).abs).abs = true
  · rw [if_pos hlt, hremainderUnits]
    refine ⟨F64.isNan_of_isFinite hremainder, ?_⟩
    obtain ⟨k, hk⟩ := exists_multiple offset step.units quotient
    refine ⟨k, ?_⟩
    rw [hk, abs_of_nonneg (by omega)]
    omega
  · rw [if_neg hlt, hotherUnits]
    refine ⟨hoth, ?_⟩
    rw [F64.lt_iff_units (F64.isNan_of_isFinite hremainder) hoth, not_lt, hotherUnits,
      hremainderUnits, Nat.cast_le] at hlt
    have hfin := F64.isFinite_of_size_le hlt hrem
    have hbd := hexact hfin
    have habs := F64.abs_units (step.sub (offset.rem step).abs)
    obtain ⟨k, hk⟩ := exists_multiple offset step.units (quotient + 1)
    refine ⟨k, ?_⟩
    rw [hk, add_mul, one_mul, ← hmultiple, abs_of_nonpos (by omega)]
    generalize hexactValue : step.units - ((offset.rem step).size : ℤ) = exactValue at *
    have htriangle : |exactValue| ≤ |(step.sub (offset.rem step).abs).units| +
        |(step.sub (offset.rem step).abs).units - exactValue| := by
      have h := abs_sub_abs_le_abs_sub exactValue (step.sub (offset.rem step).abs).units
      rw [abs_sub_comm] at h
      linarith
    have hle := le_abs_self exactValue
    rw [habs] at htriangle
    omega

end Step

/-! ## What an accepted value is -/

section Accepted

variable {constraints : CommandConstraints} {value : F64}

theorem isFinite_minimum (constraints : CommandConstraints) {minimum : F64}
    (h : constraints.minimum = some minimum) : minimum.isFinite = true := by
  have hval := constraints.valid
  rw [constraintsValid, h] at hval
  simp only [Option.all_some, Bool.and_eq_true] at hval
  exact hval.1.1.1

theorem isFinite_maximum (constraints : CommandConstraints) {maximum : F64}
    (h : constraints.maximum = some maximum) : maximum.isFinite = true := by
  have hval := constraints.valid
  rw [constraintsValid, h] at hval
  simp only [Option.all_some, Bool.and_eq_true] at hval
  exact hval.1.1.2

theorem step_pos (constraints : CommandConstraints) {step : F64}
    (h : constraints.step = some step) : step.isFinite = true ∧ 0 < step.units := by
  have hval := constraints.valid
  rw [constraintsValid, h] at hval
  simp only [Option.all_some, Bool.and_eq_true, Bool.not_eq_true'] at hval
  obtain ⟨⟨-, hfin, hpos⟩, -⟩ := hval
  refine ⟨hfin, ?_⟩
  rw [← Bool.not_eq_true, F64.le_iff_units (F64.isNan_of_isFinite hfin) (by decide), not_le] at hpos
  exact hpos

theorem isFinite_origin (constraints : CommandConstraints) :
    constraints.origin.isFinite = true := by
  unfold CommandConstraints.origin
  cases h : constraints.minimum with
  | none => decide
  | some minimum => exact isFinite_minimum constraints h

theorem validateValue_range (h : constraints.validateValue value = .ok ()) :
    value.isFinite = true ∧
      (∀ minimum, constraints.minimum = some minimum → minimum.toRat ≤ value.toRat) ∧
      ∀ maximum, constraints.maximum = some maximum → value.toRat ≤ maximum.toRat := by
  unfold CommandConstraints.validateValue at h
  by_cases hfin : value.isFinite = true
  · have hnan := F64.isNan_of_isFinite hfin
    rw [if_neg (by simpa using hfin)] at h
    split_ifs at h with hrange
    simp only [Bool.or_eq_true, Option.any_eq_true, not_or, not_exists, not_and] at hrange
    refine ⟨hfin, fun minimum hmin => ?_, fun maximum hmax => ?_⟩
    · have hlt := hrange.1 minimum hmin
      rw [F64.lt_iff_units hnan (F64.isNan_of_isFinite (isFinite_minimum constraints hmin)),
        not_lt] at hlt
      exact (F64.toRat_le_iff _ _).2 hlt
    · have hlt := hrange.2 maximum hmax
      rw [F64.lt_iff_units (F64.isNan_of_isFinite (isFinite_maximum constraints hmax)) hnan,
        not_lt] at hlt
      exact (F64.toRat_le_iff _ _).2 hlt
  · rw [if_pos (by simpa using hfin)] at h
    cases h

/-- The value is at most `2 ^ 27` steps from the origin of the grid, and their difference does not
    overflow. -/
def NearOrigin (constraints : CommandConstraints) (step value : F64) : Prop :=
  |value.toRat - constraints.origin.toRat| ≤ 2 ^ 27 * step.toRat ∧
    |value.toRat - constraints.origin.toRat| < 2 ^ 1022

/-- The value lies within a millionth of a step of the grid. -/
def OnGrid (constraints : CommandConstraints) (step value : F64) : Prop :=
  ∃ k : ℤ, |value.toRat - (constraints.origin.toRat + k * step.toRat)| ≤ step.toRat / 10 ^ 6

/-- The arithmetic of the check on the exact values. -/
theorem near_multiple {step origin value : F64} (hvl : value.isFinite = true)
    (horigin : origin.isFinite = true) (hstep : step.isFinite = true) (hpos : 0 < step.units)
    (hsteps : |value.units - origin.units| ≤ 2 ^ 27 * step.units)
    (hsmall : |value.units - origin.units| < 2 ^ 2096)
    (hacc : ¬(stepTolerance step (value.sub origin)).lt
      (stepDistance step ((value.sub origin).rem step).abs) = true) :
    ∃ k : ℤ, 10 ^ 6 * |value.units - (origin.units + k * step.units)| ≤ step.units := by
  have hdouble : (2 : ℤ) ^ 2097 = 2 * 2 ^ 2096 := by rw [pow_succ, mul_comm]
  have hoff : (value.sub origin).isFinite = true :=
    F64.sub_isFinite hvl horigin (hsmall.trans (pow_lt_pow_right₀ one_lt_two (by decide)))
  have hrounded := (F64.sub_spec hvl horigin).2 hoff
  have hsize := F64.abs_units (value.sub origin)
  generalize value.sub origin = offset at *
  have htriangle : |offset.units| ≤ |value.units - origin.units| +
      |offset.units - (value.units - origin.units)| := by
    have h := abs_sub_abs_le_abs_sub offset.units (value.units - origin.units)
    linarith
  have hoffsetSmall : offset.size < 2 ^ 2097 := by
    have hcast : (offset.size : ℤ) < 2 ^ 2097 := by
      have hnonneg := abs_nonneg (offset.units - (value.units - origin.units))
      rw [← hsize, hdouble]
      generalize (2 : ℤ) ^ 2096 = limit at hsmall ⊢
      linarith
    exact_mod_cast hcast
  obtain ⟨htol, htoleranceLe⟩ := stepTolerance_le hstep hoff hoffsetSmall
  obtain ⟨hdistance, k, hk⟩ := stepDistance_spec hstep hpos hoff hoffsetSmall
  rw [F64.lt_iff_units htol hdistance, not_lt] at hacc
  refine ⟨k, ?_⟩
  have hsum : |value.units - (origin.units + k * step.units)| ≤
      |offset.units - (value.units - origin.units)| + |offset.units - k * step.units| := by
    have h := abs_sub_le (value.units - origin.units) offset.units (k * step.units)
    rw [abs_sub_comm _ offset.units, sub_sub] at h
    exact h
  have hstepSize := step.units_le_size
  have hstepAbs : (step.size : ℤ) = step.units := by rw [← F64.abs_units, abs_of_pos hpos]
  rcases htoleranceLe with hle | hle
  · linarith
  · linarith

theorem div_le_div_div {a b unit : ℚ} (hunit : 0 < unit) (h : 10 ^ 6 * a ≤ b) :
    a / unit ≤ b / unit / 10 ^ 6 := by
  rw [div_div, mul_comm unit, ← div_div, div_le_div_iff_of_pos_right hunit,
    le_div_iff₀ (by positivity), mul_comm]
  exact h

/-- Near the origin an accepted value is on the grid. -/
theorem validateValue_grid (h : constraints.validateValue value = .ok ()) {step : F64}
    (hstep : constraints.step = some step) (hnear : NearOrigin constraints step value) :
    OnGrid constraints step value := by
  obtain ⟨hfin, -⟩ := validateValue_range h
  obtain ⟨hstepFinite, hpos⟩ := step_pos constraints hstep
  obtain ⟨hsteps, hsmall⟩ := hnear
  have hunit : (0 : ℚ) < 2 ^ 1074 := by positivity
  have hacc : ¬(stepTolerance step (value.sub constraints.origin)).lt
      (stepDistance step ((value.sub constraints.origin).rem step).abs) = true := by
    unfold CommandConstraints.validateValue at h
    rw [hstep, hfin] at h
    intro hlt
    split_ifs at h
    simp only [if_pos hlt] at h
    cases h
  rw [F64.toRat_sub, abs_div, abs_of_pos hunit, ← Int.cast_abs] at hsteps hsmall
  have hstepsUnits : |value.units - constraints.origin.units| ≤ 2 ^ 27 * step.units := by
    rw [F64.toRat, mul_div_assoc', div_le_div_iff_of_pos_right hunit] at hsteps
    exact_mod_cast hsteps
  have hsmallUnits : |value.units - constraints.origin.units| < 2 ^ 2096 := by
    rw [div_lt_iff₀ hunit, ← pow_add] at hsmall
    exact_mod_cast hsmall
  obtain ⟨k, hk⟩ := near_multiple hfin (isFinite_origin constraints) hstepFinite hpos hstepsUnits
    hsmallUnits hacc
  refine ⟨k, ?_⟩
  have hdiff : value.toRat - (constraints.origin.toRat + k * step.toRat) =
      ((value.units - (constraints.origin.units + k * step.units) : ℤ) : ℚ) / 2 ^ 1074 := by
    unfold F64.toRat
    push_cast
    ring
  rw [hdiff, abs_div, abs_of_pos hunit, ← Int.cast_abs, F64.toRat]
  exact div_le_div_div hunit (by exact_mod_cast hk)

end Accepted

/-! ## Far from the origin -/

/-- `0.1`. -/
def tenth : F64 := ⟨0x3fb999999999999a⟩

/-- `2 ^ 53`. -/
def farValue : F64 := ⟨0x4340000000000000⟩

/-- Steps of `1` from `0.1` on. -/
def tenthGrid : CommandConstraints := ⟨some tenth, none, some .one, by decide⟩

theorem toRat_tenth : tenth.toRat = 3602879701896397 / 2 ^ 55 := by
  have hunits : tenth.units = 3602879701896397 * 2 ^ 1019 := by decide +kernel
  rw [F64.toRat, hunits, show (1074 : ℕ) = 55 + 1019 from rfl, pow_add]
  push_cast
  rw [mul_div_mul_right _ _ (by positivity)]

theorem toRat_one : F64.one.toRat = 1 := by
  have hunits : F64.one.units = 2 ^ 1074 := by decide +kernel
  rw [F64.toRat, hunits]
  push_cast
  exact div_self (by positivity)

theorem toRat_farValue : farValue.toRat = 2 ^ 53 := by
  have hunits : farValue.units = 2 ^ 53 * 2 ^ 1074 := by decide +kernel
  rw [F64.toRat, hunits]
  push_cast
  exact mul_div_cancel_right₀ _ (by positivity)

/-- The difference `2 ^ 53 - 0.1` is rounded to `2 ^ 53`, and the value passes the check a tenth of a
    step off the grid. -/
theorem accepted_between_steps :
    tenthGrid.validateValue farValue = .ok () ∧ ¬OnGrid tenthGrid .one farValue := by
  refine ⟨by decide +kernel, ?_⟩
  rintro ⟨k, hk⟩
  rw [show tenthGrid.origin = tenth from rfl, toRat_tenth, toRat_one, toRat_farValue, abs_le] at hk
  obtain ⟨hlow, hhigh⟩ := hk
  have hbel : ((2 ^ 53 - k : ℤ) : ℚ) < 1 := by
    push_cast
    linarith
  have habv : (0 : ℚ) < ((2 ^ 53 - k : ℤ) : ℚ) := by
    push_cast
    linarith
  norm_cast at hbel habv
  omega

end Domain

end AetherEdge
