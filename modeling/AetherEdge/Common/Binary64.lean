import Mathlib.Algebra.Order.Field.Basic
import Mathlib.Algebra.Order.Ring.Abs
import Mathlib.Data.Nat.Log
import Mathlib.Data.Rat.Cast.Order
import Mathlib.Tactic.Linarith
import Mathlib.Tactic.NormNum
import Mathlib.Tactic.Ring
import AetherEdge.Common.Float64

/-!
# Rounded arithmetic on binary64 numbers

Every finite number is an integer multiple of the least positive one, `2 ^ (-1074)`. In this unit
sums, differences and remainders of numbers are integers, and products are integers over `2 ^ 1074`.
The rounded operations compute these exactly and round once, to the nearest number, ties to the even
one, overflow to infinity.

* `units_round`: the size of a rounded quotient, up to half a place;
* `units_round_one`, `units_round_le`: the two bounds that follow, relative to the exact value;
* `lt_iff_units`: the comparisons are those of the exact values.
-/

namespace AetherEdge.F64

/-! ## The number of a pattern -/

/-- The pattern without its sign. -/
def pattern (value : F64) : ℕ := value.bits.toNat % 2 ^ 63

/-- The sign bit. -/
def isNegative (value : F64) : Bool := decide (2 ^ 63 ≤ value.bits.toNat)

/-- The bits of infinity. -/
def infinityPattern : ℕ := 2047 * 2 ^ 52

/-- The value with these bits and this sign. -/
def ofPattern (negative : Bool) (pattern : ℕ) : F64 :=
  ⟨UInt64.ofNat ((if negative then 2 ^ 63 else 0) + pattern)⟩

/-- The number of a pattern in units of `2 ^ (-1074)`. -/
def unitsOf (pattern : ℕ) : ℕ :=
  if pattern < 2 ^ 52 then pattern else (2 ^ 52 + pattern % 2 ^ 52) * 2 ^ (pattern / 2 ^ 52 - 1)

/-- The size of the number in units of `2 ^ (-1074)`. -/
def size (value : F64) : ℕ := unitsOf value.pattern

/-- The number in units of `2 ^ (-1074)`. -/
def units (value : F64) : ℤ := if value.isNegative then -(value.size : ℤ) else value.size

/-- The number. -/
def toRat (value : F64) : ℚ := value.units / 2 ^ 1074

/-- `is_infinite`. -/
def isInfinite (value : F64) : Bool := !value.isFinite && !value.isNan

/-! ## Rounding -/

/-- The integer nearest to `n / d`, the even one of two. -/
def roundDiv (n d : ℕ) : ℕ :=
  if 2 * (n % d) < d then n / d
  else if d < 2 * (n % d) then n / d + 1
  else n / d + n / d % 2

/-- The pattern of the number nearest to `n / d`. The place of its last digit is `e`; a carry into
    the next place is a carry of the pattern. -/
def roundPattern (n d : ℕ) : ℕ :=
  let e := Nat.log2 (n / d) - 52
  min (e * 2 ^ 52 + roundDiv n (d * 2 ^ e)) infinityPattern

/-- The number nearest to a fraction. -/
def ofRatio (negative : Bool) (n d : ℕ) : F64 := ofPattern negative (roundPattern n d)

/-- `f64::from(n)`. -/
def ofNat (n : ℕ) : F64 := ofRatio false (n * 2 ^ 1074) 1

/-- IEEE subtraction. -/
def sub (a b : F64) : F64 :=
  if a.isNan || b.isNan then nan
  else if a.isInfinite then
    if b.isInfinite && a.isNegative == b.isNegative then nan else a
  else if b.isInfinite then ofPattern (!b.isNegative) infinityPattern
  else if a.units = b.units then ofPattern (a.isNegative && !b.isNegative) 0
  else ofRatio (decide (a.units < b.units)) (a.units - b.units).natAbs 1

/-- IEEE multiplication. -/
def mul (a b : F64) : F64 :=
  if a.isNan || b.isNan then nan
  else if a.isInfinite || b.isInfinite then
    if a.pattern = 0 ∨ b.pattern = 0 then nan
    else ofPattern (a.isNegative != b.isNegative) infinityPattern
  else ofRatio (a.isNegative != b.isNegative) (a.size * b.size) (2 ^ 1074)

/-- `a % b`, the remainder of the division that truncates. -/
def rem (a b : F64) : F64 :=
  if a.isNan || b.isNan || a.isInfinite || b.pattern == 0 then nan
  else if b.isInfinite then a
  else ofRatio a.isNegative (a.size % b.size) 1

/-- `-a`. -/
def neg (a : F64) : F64 := ofPattern (!a.isNegative) a.pattern

/-- IEEE addition. -/
def add (a b : F64) : F64 := a.sub b.neg

/-- IEEE division. -/
def div (a b : F64) : F64 :=
  let negative := a.isNegative != b.isNegative
  if a.isNan || b.isNan || (a.isInfinite && b.isInfinite) then nan
  else if a.isInfinite then ofPattern negative infinityPattern
  else if b.isInfinite then ofPattern negative 0
  else if b.pattern = 0 then if a.pattern = 0 then nan else ofPattern negative infinityPattern
  else ofRatio negative (a.size * 2 ^ 1074) b.size

/-! ## What rounding does -/

variable (n : ℕ)

/-- Half a place at most. -/
theorem roundDiv_spec {d : ℕ} (hd : 0 < d) :
    2 * n ≤ 2 * (roundDiv n d * d) + d ∧ 2 * (roundDiv n d * d) ≤ 2 * n + d := by
  have hn : n / d * d + n % d = n := Nat.div_add_mod' n d
  have hlt := Nat.mod_lt n hd
  unfold roundDiv
  split_ifs with hlow hhigh
  · omega
  · rw [Nat.add_mul]
    omega
  · rcases Nat.mod_two_eq_zero_or_one (n / d) with heven | hodd
    · rw [heven, Nat.add_zero]
      omega
    · rw [hodd, Nat.add_mul]
      omega

theorem roundDiv_le (d : ℕ) : roundDiv n d ≤ n / d + 1 := by
  unfold roundDiv
  split_ifs
  · omega
  · omega
  · omega

theorem div_le_roundDiv (d : ℕ) : n / d ≤ roundDiv n d := by
  unfold roundDiv
  split_ifs
  · omega
  · omega
  · omega

theorem unitsOf_place {m e : ℕ} (hm : m ≤ 2 ^ 53) (he : e = 0 ∨ 2 ^ 52 ≤ m) :
    unitsOf (e * 2 ^ 52 + m) = m * 2 ^ e := by
  unfold unitsOf
  by_cases hsmall : m < 2 ^ 52
  · obtain rfl : e = 0 := by omega
    rw [Nat.zero_mul, Nat.zero_add, if_pos hsmall, Nat.pow_zero, Nat.mul_one]
  rw [if_neg (by omega)]
  by_cases hcarry : m = 2 ^ 53
  · subst hcarry
    have hdiv : (e * 2 ^ 52 + 2 ^ 53) / 2 ^ 52 - 1 = e + 1 := by omega
    have hmod : (e * 2 ^ 52 + 2 ^ 53) % 2 ^ 52 = 0 := by omega
    rw [hdiv, hmod, Nat.add_zero, pow_succ]
    ring
  · have hdiv : (e * 2 ^ 52 + m) / 2 ^ 52 - 1 = e := by omega
    have hmod : 2 ^ 52 + (e * 2 ^ 52 + m) % 2 ^ 52 = m := by omega
    rw [hdiv, hmod]

/-- The significand of a rounded quotient, and its place. -/
theorem roundDiv_place (n d : ℕ) :
    let e := Nat.log2 (n / d) - 52
    roundDiv n (d * 2 ^ e) ≤ 2 ^ 53 ∧
      (e = 0 ∨ 2 ^ 52 ≤ roundDiv n (d * 2 ^ e) ∧ d * 2 ^ e * 2 ^ 52 ≤ n) := by
  intro e
  have hquot : n / (d * 2 ^ e) = n / d / 2 ^ e := (Nat.div_div_eq_div_mul n d (2 ^ e)).symm
  have hlt : n / d < 2 ^ 53 * 2 ^ e := by
    rw [← Nat.pow_add]
    refine (Nat.lt_log2_self).trans_le (Nat.pow_le_pow_right (by decide) ?_)
    omega
  refine ⟨?_, ?_⟩
  · refine (roundDiv_le n _).trans ?_
    rw [hquot]
    exact Nat.div_lt_of_lt_mul (by rwa [Nat.mul_comm])
  by_cases he : e = 0
  · exact .inl he
  have hpos : n / d ≠ 0 := by
    intro hzero
    apply he
    show Nat.log2 (n / d) - 52 = 0
    rw [hzero]
    rfl
  have hge : 2 ^ e * 2 ^ 52 ≤ n / d := by
    rw [← Nat.pow_add]
    refine le_trans (Nat.pow_le_pow_right (by decide) ?_) (Nat.log2_self_le hpos)
    omega
  refine .inr ⟨?_, ?_⟩
  · refine le_trans ?_ (div_le_roundDiv n _)
    rw [hquot, Nat.le_div_iff_mul_le (Nat.two_pow_pos e), Nat.mul_comm]
    exact hge
  · calc d * 2 ^ e * 2 ^ 52 = 2 ^ e * 2 ^ 52 * d := by ring
      _ ≤ n / d * d := Nat.mul_le_mul_right d hge
      _ ≤ n := Nat.div_mul_le_self n d

theorem roundPattern_eq {n d : ℕ} (hfin : roundPattern n d < infinityPattern) :
    roundPattern n d =
      (Nat.log2 (n / d) - 52) * 2 ^ 52 + roundDiv n (d * 2 ^ (Nat.log2 (n / d) - 52)) := by
  refine min_eq_left (le_of_lt (not_le.1 fun hle => ?_))
  exact absurd hfin (not_lt.2 (le_min hle le_rfl))

/-- The size of a rounded quotient is exact up to half a unit, or up to a part in `2 ^ 53`. -/
theorem units_round {d : ℕ} (hd : 0 < d) (hfin : roundPattern n d < infinityPattern) :
    (2 * n ≤ 2 * (unitsOf (roundPattern n d) * d) + d ∧
      2 * (unitsOf (roundPattern n d) * d) ≤ 2 * n + d) ∨
    (2 ^ 53 * n ≤ 2 ^ 53 * (unitsOf (roundPattern n d) * d) + n ∧
      2 ^ 53 * (unitsOf (roundPattern n d) * d) ≤ 2 ^ 53 * n + n) := by
  obtain ⟨hm, hplace⟩ := roundDiv_place n d
  set e := Nat.log2 (n / d) - 52 with he
  have hunits : unitsOf (roundPattern n d) * d = roundDiv n (d * 2 ^ e) * (d * 2 ^ e) := by
    rw [roundPattern_eq hfin, unitsOf_place hm (hplace.imp_right And.left)]
    ring
  rw [hunits]
  obtain ⟨hlow, hhigh⟩ := roundDiv_spec n (Nat.mul_pos hd (Nat.two_pow_pos e))
  rcases hplace with hzero | ⟨-, hlarge⟩
  · rw [hzero, Nat.pow_zero, Nat.mul_one] at hlow hhigh ⊢
    exact .inl ⟨hlow, hhigh⟩
  refine .inr ⟨?_, ?_⟩
  · generalize d * 2 ^ e = place at *
    omega
  · generalize d * 2 ^ e = place at *
    omega

/-- An integer is exact up to a part in `2 ^ 53`. -/
theorem units_round_one {n : ℕ} (hfin : roundPattern n 1 < infinityPattern) :
    2 ^ 53 * n ≤ 2 ^ 53 * unitsOf (roundPattern n 1) + n ∧
      2 ^ 53 * unitsOf (roundPattern n 1) ≤ 2 ^ 53 * n + n := by
  have h := units_round n one_pos hfin
  rw [Nat.mul_one] at h
  omega

/-- Zero is a number, so that a quotient is at most doubled. -/
theorem units_round_le {d : ℕ} (hd : 0 < d) (hfin : roundPattern n d < infinityPattern) :
    unitsOf (roundPattern n d) * d ≤ 2 * n := by
  rcases units_round n hd hfin with ⟨-, hhigh⟩ | ⟨-, hhigh⟩
  · rcases Nat.eq_zero_or_pos (unitsOf (roundPattern n d)) with hzero | hpos
    · rw [hzero, Nat.zero_mul]
      exact Nat.zero_le _
    · have hge : d ≤ unitsOf (roundPattern n d) * d := Nat.le_mul_of_pos_left d hpos
      generalize unitsOf (roundPattern n d) * d = size at *
      omega
  · omega

/-- What is a multiple of its last place is exact. -/
theorem units_round_exact {n : ℕ} (hdvd : 2 ^ (Nat.log2 n - 52) ∣ n)
    (hfin : roundPattern n 1 < infinityPattern) : unitsOf (roundPattern n 1) = n := by
  obtain ⟨hm, hplace⟩ := roundDiv_place n 1
  rw [Nat.div_one, Nat.one_mul] at hm hplace
  have hround : roundDiv n (2 ^ (Nat.log2 n - 52)) = n / 2 ^ (Nat.log2 n - 52) := by
    unfold roundDiv
    rw [Nat.mod_eq_zero_of_dvd hdvd, if_pos]
    exact Nat.two_pow_pos _
  have hpattern : roundPattern n 1 =
      (Nat.log2 n - 52) * 2 ^ 52 + roundDiv n (2 ^ (Nat.log2 n - 52)) := by
    rw [roundPattern_eq hfin, Nat.div_one, Nat.one_mul]
  rw [hpattern, unitsOf_place hm (hplace.imp_right And.left), hround, Nat.div_mul_cancel hdvd]

/-- A quotient below `2 ^ 2097` units, that is below `2 ^ 1023`, does not overflow. -/
theorem roundPattern_lt {n d : ℕ} (h : n / d < 2 ^ 2097) :
    roundPattern n d < infinityPattern := by
  obtain ⟨hm, -⟩ := roundDiv_place n d
  have hlog : Nat.log2 (n / d) ≤ 2096 := by
    by_cases hzero : n / d = 0
    · rw [hzero]
      exact Nat.zero_le _
    · have hlt := (Nat.log2_lt hzero).2 h
      omega
  refine lt_of_le_of_lt (min_le_left _ _) ?_
  unfold infinityPattern
  omega

/-! ## Patterns and numbers -/

variable (value : F64)

theorem pattern_lt : value.pattern < 2 ^ 63 := Nat.mod_lt _ (by decide)

theorem toNat_bits :
    value.bits.toNat = (if value.isNegative then 2 ^ 63 else 0) + value.pattern := by
  have hlt : value.bits.toNat < 2 ^ 64 := value.bits.toNat_lt
  unfold isNegative pattern
  split_ifs with hneg
  · rw [decide_eq_true_eq] at hneg
    omega
  · rw [decide_eq_true_eq] at hneg
    omega

variable (negative : Bool)

@[simp] theorem pattern_ofPattern {pattern : ℕ} (h : pattern < 2 ^ 63) :
    (ofPattern negative pattern).pattern = pattern := by
  unfold ofPattern F64.pattern
  dsimp only
  rw [UInt64.toNat_ofNat']
  cases negative with
  | false =>
    simp only [Bool.false_eq_true, if_false]
    omega
  | true =>
    simp only [if_true]
    omega

@[simp] theorem isNegative_ofPattern {pattern : ℕ} (h : pattern < 2 ^ 63) :
    (ofPattern negative pattern).isNegative = negative := by
  unfold ofPattern isNegative
  dsimp only
  rw [UInt64.toNat_ofNat']
  cases negative with
  | false =>
    simp only [Bool.false_eq_true, if_false, decide_eq_false_iff_not]
    omega
  | true =>
    simp only [if_true, decide_eq_true_eq]
    omega

theorem isFinite_iff : value.isFinite = true ↔ value.pattern < infinityPattern := by
  have hbits := toNat_bits value
  have hlt := pattern_lt value
  have hfield : ((value.bits >>> 52) % 2048).toNat = value.pattern / 2 ^ 52 := by
    rw [UInt64.toNat_mod, UInt64.toNat_shiftRight, hbits]
    show ((if value.isNegative then 2 ^ 63 else 0) + value.pattern) >>> 52 % 2048 = _
    rw [Nat.shiftRight_eq_div_pow]
    split_ifs
    · omega
    · omega
  unfold isFinite infinityPattern
  rw [bne_iff_ne, ne_eq, ← UInt64.toNat_inj, hfield]
  show ¬value.pattern / 2 ^ 52 = 2047 ↔ _
  omega

theorem isNan_iff : value.isNan = true ↔ infinityPattern < value.pattern := by
  have hbits := toNat_bits value
  have hlt := pattern_lt value
  have hfrac : (value.bits % 0x10000000000000).toNat = value.pattern % 2 ^ 52 := by
    rw [UInt64.toNat_mod, hbits]
    show ((if value.isNegative then 2 ^ 63 else 0) + value.pattern) % 2 ^ 52 = _
    split_ifs
    · omega
    · omega
  unfold isNan
  rw [Bool.and_eq_true, Bool.not_eq_true', ← Bool.not_eq_true, isFinite_iff, bne_iff_ne, ne_eq,
    ← UInt64.toNat_inj, hfrac]
  unfold infinityPattern
  show ¬value.pattern < 2047 * 2 ^ 52 ∧ ¬value.pattern % 2 ^ 52 = 0 ↔ _
  omega

theorem isNan_eq_false : value.isNan = false ↔ value.pattern ≤ infinityPattern := by
  rw [← Bool.not_eq_true, isNan_iff, not_lt]

theorem isNan_of_isFinite {value : F64} (h : value.isFinite = true) : value.isNan = false :=
  (isNan_eq_false value).2 ((isFinite_iff value).1 h).le

theorem isInfinite_of_isFinite {value : F64} (h : value.isFinite = true) :
    value.isInfinite = false := by
  unfold isInfinite
  rw [h]
  rfl

theorem magnitude_eq :
    value.magnitude = if value.isNegative then -(value.pattern : ℤ) else value.pattern := by
  have hbits := toNat_bits value
  have hlt := pattern_lt value
  unfold magnitude isNegative at *
  by_cases hneg : 2 ^ 63 ≤ value.bits.toNat
  · rw [if_neg (not_lt.2 hneg), if_pos (decide_eq_true hneg)]
    rw [if_pos (decide_eq_true hneg)] at hbits
    omega
  · rw [if_pos (not_le.1 hneg), if_neg (by simpa using hneg)]
    rw [if_neg (by simpa using hneg)] at hbits
    omega

/-- The numbers are in the order of their patterns. -/
theorem unitsOf_strictMono : StrictMono unitsOf := by
  refine strictMono_nat_of_lt_succ fun p => ?_
  unfold unitsOf
  by_cases hsmall : p + 1 < 2 ^ 52
  · rw [if_pos (by omega), if_pos hsmall]
    omega
  by_cases hedge : p < 2 ^ 52
  · obtain rfl : p = 2 ^ 52 - 1 := by omega
    norm_num
  rw [if_neg hedge, if_neg (by omega)]
  by_cases hcarry : p % 2 ^ 52 = 2 ^ 52 - 1
  · have hdiv : (p + 1) / 2 ^ 52 - 1 = p / 2 ^ 52 - 1 + 1 := by omega
    have hmod : (p + 1) % 2 ^ 52 = 0 := by omega
    rw [hdiv, hmod, hcarry, pow_succ]
    have hplace (place : ℕ) (hpos : 0 < place) :
        (2 ^ 52 + (2 ^ 52 - 1)) * place < (2 ^ 52 + 0) * (place * 2) := by omega
    exact hplace _ (Nat.two_pow_pos _)
  · have hdiv : (p + 1) / 2 ^ 52 - 1 = p / 2 ^ 52 - 1 := by omega
    have hmod : (p + 1) % 2 ^ 52 = p % 2 ^ 52 + 1 := by omega
    rw [hdiv, hmod]
    exact Nat.mul_lt_mul_of_pos_right (by omega) (Nat.two_pow_pos _)

theorem unitsOf_zero : unitsOf 0 = 0 := rfl

theorem magnitude_lt_iff (a b : F64) : a.magnitude < b.magnitude ↔ a.units < b.units := by
  have hmono {p q : ℕ} : unitsOf p < unitsOf q ↔ p < q := unitsOf_strictMono.lt_iff_lt
  have hpos {p : ℕ} : 0 < unitsOf p ↔ 0 < p := by
    have h := hmono (p := 0) (q := p)
    rwa [unitsOf_zero] at h
  have ha := hpos (p := a.pattern)
  have hb := hpos (p := b.pattern)
  have hab := hmono (p := a.pattern) (q := b.pattern)
  have hba := hmono (p := b.pattern) (q := a.pattern)
  rw [magnitude_eq, magnitude_eq]
  unfold units size
  split_ifs
  · omega
  · omega
  · omega
  · omega

/-- The comparisons are those of the exact values. -/
theorem lt_iff_units {a b : F64} (ha : a.isNan = false) (hb : b.isNan = false) :
    a.lt b = true ↔ a.units < b.units := by
  unfold lt
  rw [ha, hb, ← magnitude_lt_iff]
  simp only [Bool.not_false, Bool.true_and, decide_eq_true_eq]

theorem le_iff_units {a b : F64} (ha : a.isNan = false) (hb : b.isNan = false) :
    a.le b = true ↔ a.units ≤ b.units := by
  have h := not_congr (magnitude_lt_iff b a)
  rw [not_lt, not_lt] at h
  unfold le
  rw [ha, hb, ← h]
  simp only [Bool.not_false, Bool.true_and, decide_eq_true_eq]

theorem toRat_le_iff (a b : F64) : a.toRat ≤ b.toRat ↔ a.units ≤ b.units := by
  unfold toRat
  rw [div_le_div_iff_of_pos_right (by positivity), Int.cast_le]

theorem toRat_sub (a b : F64) :
    a.toRat - b.toRat = ((a.units - b.units : ℤ) : ℚ) / 2 ^ 1074 := by
  unfold toRat
  rw [Int.cast_sub, sub_div]

/-! ## The operations on finite numbers -/

theorem pattern_abs : value.abs.pattern = value.pattern := by
  unfold abs pattern
  dsimp only
  rw [UInt64.toNat_mod]
  exact Nat.mod_mod _ _

theorem units_abs : value.abs.units = value.size := by
  have hsign : value.abs.isNegative = false := by
    unfold abs isNegative
    dsimp only
    rw [UInt64.toNat_mod, decide_eq_false_iff_not, not_le]
    exact Nat.mod_lt _ (by decide)
  unfold units size
  rw [hsign, pattern_abs]
  rfl

theorem abs_units : |value.units| = value.size := by
  unfold units
  split_ifs
  · rw [abs_neg, Nat.abs_cast]
  · exact Nat.abs_cast _

theorem units_le_size : value.units ≤ value.size :=
  (le_abs_self _).trans_eq (abs_units value)

theorem isFinite_abs : value.abs.isFinite = value.isFinite := by
  rw [Bool.eq_iff_iff, isFinite_iff, isFinite_iff, pattern_abs]

theorem size_abs : value.abs.size = value.size := by
  rw [size, pattern_abs, size]

theorem isFinite_of_size_le {a b : F64} (hle : a.size ≤ b.size) (hb : b.isFinite = true) :
    a.isFinite = true :=
  (isFinite_iff a).2 ((unitsOf_strictMono.le_iff_le.1 hle).trans_lt ((isFinite_iff b).1 hb))

theorem roundPattern_le (d : ℕ) : roundPattern n d ≤ infinityPattern := min_le_right _ _

theorem pattern_ofRatio (n d : ℕ) : (ofRatio negative n d).pattern = roundPattern n d :=
  pattern_ofPattern negative (lt_of_le_of_lt (roundPattern_le n d) (by decide))

theorem size_ofRatio (n d : ℕ) : (ofRatio negative n d).size = unitsOf (roundPattern n d) := by
  rw [size, pattern_ofRatio]

theorem isNan_ofRatio (n d : ℕ) : (ofRatio negative n d).isNan = false := by
  rw [isNan_eq_false, pattern_ofRatio]
  exact roundPattern_le n d

theorem isFinite_ofRatio (n d : ℕ) :
    (ofRatio negative n d).isFinite = true ↔ roundPattern n d < infinityPattern := by
  rw [isFinite_iff, pattern_ofRatio]

theorem two_pow_dvd_mul {j k : ℕ} (n : ℕ) (h : j ≤ k) : 2 ^ j ∣ n * 2 ^ k :=
  Dvd.dvd.mul_left (pow_dvd_pow 2 h) n

theorem log2_mul_two_pow_lt {n j : ℕ} (k : ℕ) (hj : 0 < j) (h : n < 2 ^ j) :
    Nat.log2 (n * 2 ^ k) < j + k := by
  by_cases hzero : n * 2 ^ k = 0
  · rw [hzero, show Nat.log2 0 = 0 from rfl]
    omega
  · rw [Nat.log2_lt hzero, pow_add]
    exact Nat.mul_lt_mul_of_pos_right h (pow_pos two_pos k)

/-- Small integers are exact. -/
theorem ofNat_spec {n : ℕ} (h : n < 2 ^ 53) :
    (ofNat n).isFinite = true ∧ (ofNat n).units = n * 2 ^ 1074 := by
  have hlog : Nat.log2 (n * 2 ^ 1074) < 53 + 1074 := log2_mul_two_pow_lt 1074 (by decide) h
  have hfin : roundPattern (n * 2 ^ 1074) 1 < infinityPattern := by
    refine roundPattern_lt ?_
    rw [Nat.div_one]
    refine (Nat.lt_log2_self).trans_le (Nat.pow_le_pow_right two_pos ?_)
    omega
  have hplace : Nat.log2 (n * 2 ^ 1074) - 52 ≤ 1074 := by omega
  have hexact : unitsOf (roundPattern (n * 2 ^ 1074) 1) = n * 2 ^ 1074 :=
    units_round_exact (two_pow_dvd_mul n hplace) hfin
  refine ⟨(isFinite_ofRatio _ _ _).2 hfin, ?_⟩
  unfold ofNat units
  rw [size_ofRatio, hexact, ofRatio,
    isNegative_ofPattern _ (lt_of_le_of_lt (roundPattern_le _ _) (by decide))]
  push_cast
  rfl

theorem toRat_ofNat {n : ℕ} (h : n < 2 ^ 53) : (ofNat n).toRat = n := by
  rw [toRat, (ofNat_spec h).2]
  push_cast
  exact mul_div_cancel_right₀ _ (by positivity)

section Finite

variable {a b : F64} (ha : a.isFinite = true) (hb : b.isFinite = true)

include ha hb

theorem sub_of_isFinite :
    a.sub b = if a.units = b.units then ofPattern (a.isNegative && !b.isNegative) 0
      else ofRatio (decide (a.units < b.units)) (a.units - b.units).natAbs 1 := by
  unfold sub
  rw [isNan_of_isFinite ha, isNan_of_isFinite hb, isInfinite_of_isFinite ha,
    isInfinite_of_isFinite hb]
  simp only [Bool.or_false, Bool.false_eq_true, if_false]

theorem mul_of_isFinite :
    a.mul b = ofRatio (a.isNegative != b.isNegative) (a.size * b.size) (2 ^ 1074) := by
  unfold mul
  rw [isNan_of_isFinite ha, isNan_of_isFinite hb, isInfinite_of_isFinite ha,
    isInfinite_of_isFinite hb]
  simp only [Bool.or_false, Bool.false_eq_true, if_false]

theorem rem_of_isFinite (hzero : b.pattern ≠ 0) :
    a.rem b = ofRatio a.isNegative (a.size % b.size) 1 := by
  unfold rem
  rw [isNan_of_isFinite ha, isNan_of_isFinite hb, isInfinite_of_isFinite ha,
    isInfinite_of_isFinite hb, beq_eq_false_iff_ne.2 hzero]
  simp only [Bool.or_false, Bool.false_eq_true, if_false]

/-- A difference is not a NaN, and where it is finite it is exact up to a part in `2 ^ 53`. -/
theorem sub_spec : (a.sub b).isNan = false ∧ ((a.sub b).isFinite = true →
    2 ^ 53 * |(a.sub b).units - (a.units - b.units)| ≤ |a.units - b.units|) := by
  rw [sub_of_isFinite ha hb]
  by_cases heq : a.units = b.units
  · rw [if_pos heq, isNan_eq_false, pattern_ofPattern _ (by decide)]
    refine ⟨Nat.zero_le _, fun _ => ?_⟩
    have hzero : (ofPattern (a.isNegative && !b.isNegative) 0).units = 0 := by
      unfold units size
      rw [pattern_ofPattern _ (by decide), unitsOf_zero]
      simp
    rw [hzero, heq]
    simp
  · rw [if_neg heq]
    refine ⟨isNan_ofRatio _ _ _, fun hfin => ?_⟩
    rw [isFinite_ofRatio] at hfin
    obtain ⟨hlow, hhigh⟩ := units_round_one hfin
    have hunits : (ofRatio (decide (a.units < b.units)) (a.units - b.units).natAbs 1).units =
        if a.units < b.units then -(unitsOf (roundPattern (a.units - b.units).natAbs 1) : ℤ)
        else unitsOf (roundPattern (a.units - b.units).natAbs 1) := by
      unfold units
      rw [size_ofRatio, ofRatio,
        isNegative_ofPattern _ (lt_of_le_of_lt (roundPattern_le _ _) (by decide))]
      simp only [decide_eq_true_eq]
    rw [hunits]
    generalize unitsOf (roundPattern (a.units - b.units).natAbs 1) = rounded at *
    split_ifs with hlt
    · rw [abs_of_neg (sub_neg.2 hlt)]
      have hsize : ((a.units - b.units).natAbs : ℤ) = -(a.units - b.units) := by omega
      rcases abs_cases (-(rounded : ℤ) - (a.units - b.units)) with ⟨habs, -⟩ | ⟨habs, -⟩
      · rw [habs]
        omega
      · rw [habs]
        omega
    · rw [abs_of_nonneg (sub_nonneg.2 (not_lt.1 hlt))]
      have hsize : ((a.units - b.units).natAbs : ℤ) = a.units - b.units := by omega
      rcases abs_cases ((rounded : ℤ) - (a.units - b.units)) with ⟨habs, -⟩ | ⟨habs, -⟩
      · rw [habs]
        omega
      · rw [habs]
        omega

/-- A difference below `2 ^ 1023` does not overflow. -/
theorem sub_isFinite (h : |a.units - b.units| < 2 ^ 2097) : (a.sub b).isFinite = true := by
  rw [sub_of_isFinite ha hb]
  split_ifs
  · rw [isFinite_iff, pattern_ofPattern _ (by decide)]
    decide
  rw [isFinite_ofRatio]
  refine roundPattern_lt ?_
  rw [Nat.div_one]
  have hcast : ((a.units - b.units).natAbs : ℤ) < 2 ^ 2097 := by
    rw [Int.natCast_natAbs]
    exact h
  exact_mod_cast hcast

theorem isNan_mul : (a.mul b).isNan = false := by
  rw [mul_of_isFinite ha hb]
  exact isNan_ofRatio _ _ _

/-- A product of at most `n / q` is at most doubled, and does not overflow below `2 ^ 1023`. -/
theorem mul_spec {n q : ℕ} (hproduct : a.size * b.size * q ≤ n * 2 ^ 1074) (hn : n < q * 2 ^ 2097) :
    (a.mul b).isFinite = true ∧ (a.mul b).size * q ≤ 2 * n := by
  have hq : 0 < q := by
    rcases Nat.eq_zero_or_pos q with rfl | hq
    · rw [Nat.zero_mul] at hn
      exact absurd hn (Nat.not_lt_zero n)
    · exact hq
  have hunit : 0 < 2 ^ 1074 := pow_pos two_pos _
  have hlt : a.size * b.size < 2 ^ 1074 * 2 ^ 2097 := by
    refine Nat.lt_of_mul_lt_mul_right (a := q) ?_
    calc a.size * b.size * q ≤ n * 2 ^ 1074 := hproduct
      _ < q * 2 ^ 2097 * 2 ^ 1074 := Nat.mul_lt_mul_of_pos_right hn hunit
      _ = 2 ^ 1074 * 2 ^ 2097 * q := by ring
  have hfin : roundPattern (a.size * b.size) (2 ^ 1074) < infinityPattern :=
    roundPattern_lt (Nat.div_lt_of_lt_mul hlt)
  rw [mul_of_isFinite ha hb, isFinite_ofRatio, size_ofRatio]
  refine ⟨hfin, Nat.le_of_mul_le_mul_right ?_ hunit⟩
  calc unitsOf (roundPattern (a.size * b.size) (2 ^ 1074)) * q * 2 ^ 1074
      = unitsOf (roundPattern (a.size * b.size) (2 ^ 1074)) * 2 ^ 1074 * q := by ring
    _ ≤ 2 * (a.size * b.size) * q :=
      Nat.mul_le_mul_right q (units_round_le _ hunit hfin)
    _ = 2 * (a.size * b.size * q) := by ring
    _ ≤ 2 * (n * 2 ^ 1074) := Nat.mul_le_mul_left 2 hproduct
    _ = 2 * n * 2 ^ 1074 := by ring

/-- A remainder below `2 ^ 1023` is exact up to a part in `2 ^ 53`. -/
theorem rem_spec (hzero : b.pattern ≠ 0) (h : a.size < 2 ^ 2097) :
    (a.rem b).isFinite = true ∧
      2 ^ 53 * (a.size % b.size) ≤ 2 ^ 53 * (a.rem b).size + a.size % b.size ∧
      2 ^ 53 * (a.rem b).size ≤ 2 ^ 53 * (a.size % b.size) + a.size % b.size := by
  have hfin : roundPattern (a.size % b.size) 1 < infinityPattern := by
    refine roundPattern_lt ?_
    rw [Nat.div_one]
    exact lt_of_le_of_lt (Nat.mod_le _ _) h
  rw [rem_of_isFinite ha hb hzero, isFinite_ofRatio, size_ofRatio]
  exact ⟨hfin, units_round_one hfin⟩

end Finite

theorem ofNat_sub {m n : ℕ} (hm : m < 2 ^ 53) (h : n < m) : (ofNat m).sub (ofNat n) = ofNat (m - n) := by
  obtain ⟨hfin, hunits⟩ := ofNat_spec hm
  obtain ⟨hfin', hunits'⟩ := ofNat_spec (h.trans hm)
  have hdiff : (ofNat m).units - (ofNat n).units = ((m - n : ℕ) * 2 ^ 1074 : ℕ) := by
    rw [hunits, hunits', Nat.cast_mul, Nat.cast_sub h.le, sub_mul]
    push_cast
    rfl
  have hpos : (0 : ℤ) < (ofNat m).units - (ofNat n).units := by
    rw [hdiff]
    exact_mod_cast Nat.mul_pos (by omega) (pow_pos two_pos _)
  rw [sub_of_isFinite hfin hfin', if_neg (by omega), hdiff, Int.natAbs_natCast,
    decide_eq_false (by omega)]
  rfl

end AetherEdge.F64
