import AetherEdge.Common.Basic

/-!
# Binary64 numbers as bit patterns

An `f64` is its bit pattern. What the code decides by looking at the pattern (finiteness, the
total order, the IEEE comparisons) is computed from it; the rounded operations are a parameter
(`F64.Arithmetic`).
-/

namespace AetherEdge

/-- An `f64` by its bits. -/
structure F64 where
  bits : UInt64
  deriving DecidableEq, Repr

namespace F64

/-- `value.is_finite()`: the exponent field is not all ones. -/
def isFinite (value : F64) : Bool := (value.bits >>> 52) % 2048 != 2047

/-- `is_nan`. -/
def isNan (value : F64) : Bool := !value.isFinite && value.bits % 0x10000000000000 != 0

/-- `abs`. -/
def abs (value : F64) : F64 := ⟨value.bits % 0x8000000000000000⟩

/-- `f64::NAN`. -/
def nan : F64 := ⟨0x7ff8000000000000⟩

/-- `0.0`. -/
def zero : F64 := ⟨0⟩

/-- `1.0`. -/
def one : F64 := ⟨0x3ff0000000000000⟩

/-- `100.0`. -/
def hundred : F64 := ⟨0x4059000000000000⟩

/-- `f64::EPSILON`. -/
def epsilon : F64 := ⟨0x3cb0000000000000⟩

/-- The place of a pattern in the order of `total_cmp`: negative patterns come first, in
    reverse. -/
def totalKey (value : F64) : ℤ :=
  if value.bits.toNat < 2 ^ 63 then value.bits.toNat else 2 ^ 63 - 1 - value.bits.toNat

/-- `total_cmp`. -/
def totalCmp (a b : F64) : Ordering := compare a.totalKey b.totalKey

/-- The place of a number on the real line, up to a monotone map; both zeros are at `0`. -/
def magnitude (value : F64) : ℤ :=
  if value.bits.toNat < 2 ^ 63 then value.bits.toNat else 2 ^ 63 - value.bits.toNat

/-- `==`. -/
def eq (a b : F64) : Bool := !a.isNan && !b.isNan && decide (a.magnitude = b.magnitude)

/-- `<`. -/
def lt (a b : F64) : Bool := !a.isNan && !b.isNan && decide (a.magnitude < b.magnitude)

/-- `<=`. -/
def le (a b : F64) : Bool := !a.isNan && !b.isNan && decide (a.magnitude ≤ b.magnitude)

/-- `a.max(b)`: the other argument when one is not a number. -/
def max (a b : F64) : F64 := if a.isNan || a.lt b then b else a

/-- The rounded operations. -/
structure Arithmetic where
  sub : F64 → F64 → F64
  mul : F64 → F64 → F64
  div : F64 → F64 → F64

/-- `total_cmp` tells any two patterns apart. -/
theorem totalCmp_eq_iff {a b : F64} : a.totalCmp b = .eq ↔ a = b := by
  constructor
  · intro h
    have hkey : a.totalKey = b.totalKey := by simpa [totalCmp] using h
    have hbits : a.bits.toNat = b.bits.toNat := by
      unfold totalKey at hkey
      split_ifs at hkey <;> omega
    cases a
    cases b
    rw [F64.mk.injEq]
    exact UInt64.toNat_inj.1 hbits
  · rintro rfl
    simp [totalCmp]

end F64

end AetherEdge
