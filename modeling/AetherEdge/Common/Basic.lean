import Mathlib

/-!
# Machine integers, bytes and text

* `u64` counters that the code advances with `checked_add` are natural numbers; the model
  keeps the overflow check (`checkedAdd`).
* A byte buffer (`Vec<u8>`, `&[u8]`, the contents of a file) is `Bytes := List UInt8`.
* A Rust `String` is a Lean `String`; `value.len()` and `value.bytes()` look at its UTF-8
  encoding (`strLen`, `strBytes`).
-/

namespace AetherEdge

/-- The contents of a byte buffer or of a file. -/
abbrev Bytes := List UInt8

/-- `u64::MAX`. -/
def u64Max : ℕ := 2 ^ 64 - 1

/-- `value.checked_add(n)` on `u64`. -/
def checkedAdd (value n : ℕ) : Option ℕ := if value + n ≤ u64Max then some (value + n) else none

theorem checkedAdd_eq_some {value n r : ℕ} :
    checkedAdd value n = some r ↔ value + n ≤ u64Max ∧ r = value + n := by
  unfold checkedAdd
  split_ifs with h
  · simp [h, eq_comm]
  · simp [h]

theorem checkedAdd_eq_none {value n : ℕ} : checkedAdd value n = none ↔ u64Max < value + n := by
  unfold checkedAdd
  split_ifs with h
  · simp only [false_iff]; omega
  · simp only [true_iff]; omega

/-- `value.saturating_add(n)` on `usize`. -/
def saturatingAdd (value n : ℕ) : ℕ := min (value + n) u64Max

theorem ok_bind {ε : Type*} {α β : Type} (a : α) (k : α → Except ε β) :
    (.ok a : Except ε α) >>= k = k a := rfl

/-- A `?` that went through: the value it took out and the rest of the function. -/
theorem bind_eq_ok {ε : Type*} {α β : Type} {x : Except ε α} {k : α → Except ε β} {b : β} :
    x >>= k = .ok b ↔ ∃ a, x = .ok a ∧ k a = .ok b := by
  cases x with
  | error | ok => simp [bind, Except.bind]

theorem exists_unit {p : Unit → Prop} : (∃ u, p u) ↔ p () :=
  ⟨fun ⟨_, h⟩ => h, fun h => ⟨(), h⟩⟩

/-! ## Text -/

/-- The UTF-8 bytes. -/
def strBytes (value : String) : Bytes := value.toUTF8.data.toList

/-- `str::len`. -/
def strLen (value : String) : ℕ := (strBytes value).length

/-- `is_ascii_digit`. -/
def isAsciiDigit (byte : UInt8) : Bool := 48 ≤ byte && byte ≤ 57

/-- `is_ascii_alphanumeric`. -/
def isAsciiAlphanumeric (byte : UInt8) : Bool :=
  isAsciiDigit byte || (65 ≤ byte && byte ≤ 90) || (97 ≤ byte && byte ≤ 122)

/-- `is_ascii_uppercase`. -/
def isAsciiUppercase (byte : UInt8) : Bool := 65 ≤ byte && byte ≤ 90

/-- `is_ascii_hexdigit`. -/
def isAsciiHexdigit (byte : UInt8) : Bool :=
  isAsciiDigit byte || (65 ≤ byte && byte ≤ 70) || (97 ≤ byte && byte ≤ 102)

/-- The `{:?}` rendering of a text without quotes, backslashes or control characters, the
    only texts the code renders this way. -/
def debugStr (value : String) : String := "\"" ++ value ++ "\""

end AetherEdge
