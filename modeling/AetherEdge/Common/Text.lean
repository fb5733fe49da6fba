import AetherEdge.Common.Basic

/-!
# Rendering numbers and digests as text

The renderings the code compares byte by byte afterwards: `n.to_string()` for an unsigned
integer and `{:x}` for a digest. A decimal comes with the bytes of its text and the value they
denote.
-/

namespace AetherEdge

open List

/-! ## ASCII text -/

theorem strBytes_ofList (l : List Char) :
    strBytes (String.ofList l) = l.flatMap String.utf8EncodeChar := by
  simp [strBytes, String.toUTF8, utf8Encode]

/-- The single byte of an ASCII character. -/
def asciiByte (c : Char) : UInt8 := UInt8.ofNat c.toNat

theorem utf8EncodeChar_of_ascii {c : Char} (h : c.toNat ≤ 127) :
    String.utf8EncodeChar c = [asciiByte c] := by
  have hv : c.val.toNat ≤ 127 := h
  simp only [String.utf8EncodeChar, if_pos hv, asciiByte, Char.toNat]

/-- ASCII text takes one byte per character. -/
theorem strBytes_of_ascii {l : List Char} (h : ∀ c ∈ l, c.toNat ≤ 127) :
    strBytes (String.ofList l) = l.map asciiByte := by
  rw [strBytes_ofList]
  induction l with
  | nil => rfl
  | cons c l ih =>
    rw [flatMap_cons, utf8EncodeChar_of_ascii (h c mem_cons_self),
      ih fun d hd => h d (mem_cons_of_mem c hd), map_cons, singleton_append]

theorem strBytes_append (s t : String) : strBytes (s ++ t) = strBytes s ++ strBytes t := by
  simp [strBytes, String.toUTF8]

/-! ## Decimal numbers -/

/-- The number a text of decimal digits denotes. -/
def decimalValue (digits : Bytes) : ℕ :=
  digits.foldl (fun value digit => 10 * value + (digit.toNat - 48)) 0

theorem toDigits_ascii {n : ℕ} : ∀ c ∈ Nat.toDigits 10 n, c.toNat ≤ 127 := by
  intro c hc
  have hd := Nat.isDigit_of_mem_toDigits (by omega) (le_refl 10) hc
  have := (Char.isDigit_iff_toNat.1 hd).2
  have h9 : '9'.toNat = 57 := rfl
  omega

variable (n : ℕ)

theorem strBytes_decimal : strBytes (toString n) = (Nat.toDigits 10 n).map asciiByte :=
  strBytes_of_ascii toDigits_ascii

theorem isAsciiDigit_asciiByte {c : Char} (h : c.isDigit = true) :
    isAsciiDigit (asciiByte c) = true := by
  obtain ⟨hlo, hhi⟩ := Char.isDigit_iff_toNat.1 h
  have h0 : '0'.toNat = 48 := rfl
  have h9 : '9'.toNat = 57 := rfl
  have hmod : c.toNat % 256 = c.toNat := Nat.mod_eq_of_lt (by omega)
  simp only [isAsciiDigit, asciiByte, UInt8.le_iff_toNat_le, Bool.and_eq_true, decide_eq_true_eq,
    UInt8.toNat_ofNat', UInt8.toNat_ofNat]
  omega

theorem all_digits_decimal : (strBytes (toString n)).all isAsciiDigit = true := by
  rw [strBytes_decimal, all_map, all_eq_true]
  intro c hc
  exact isAsciiDigit_asciiByte (Nat.isDigit_of_mem_toDigits (by omega) (le_refl 10) hc)

theorem decimalValue_append (l : Bytes) (d : UInt8) :
    decimalValue (l ++ [d]) = 10 * decimalValue l + (d.toNat - 48) := by
  simp [decimalValue]

theorem toNat_digit {n : ℕ} (h : n < 10) : (asciiByte n.digitChar).toNat - 48 = n := by
  interval_cases n <;> rfl

theorem decimalValue_toString : decimalValue (strBytes (toString n)) = n := by
  rw [strBytes_decimal]
  induction n using Nat.strong_induction_on with
  | _ n ih =>
    rcases Nat.lt_or_ge n 10 with hn | hn
    · rw [Nat.toDigits_of_lt_base hn]
      simpa [decimalValue] using toNat_digit hn
    · rw [Nat.toDigits_of_base_le (by omega) hn, map_append, map_singleton,
        decimalValue_append, ih (n / 10) (by omega), toNat_digit (by omega)]
      omega

theorem decimal_inj {m n : ℕ} (h : strBytes (toString m) = strBytes (toString n)) : m = n := by
  rw [← decimalValue_toString m, h, decimalValue_toString]

/-- Two decimals with a separator between them can be told apart. -/
theorem decimal_pair_inj {m m' n n' : ℕ} {separator : UInt8}
    (hseparator : isAsciiDigit separator = false)
    (h : strBytes (toString m) ++ separator :: strBytes (toString n) =
      strBytes (toString m') ++ separator :: strBytes (toString n')) : m = m' ∧ n = n' := by
  have hnotMem : ∀ k : ℕ, separator ∉ strBytes (toString k) := by
    intro k hmem
    have := all_eq_true.1 (all_digits_decimal k) separator hmem
    rw [hseparator] at this
    cases this
  obtain ⟨hfst, -, hsecond⟩ :=
    (append_cons_inj_of_notMem (hnotMem m) (hnotMem n)).1 h
  exact ⟨decimal_inj hfst, decimal_inj hsecond⟩

/-! ## Hexadecimal digests -/

/-- One byte as two lowercase hexadecimal digits. -/
def hexPair (byte : UInt8) : List Char := [(byte.toNat / 16).digitChar, (byte.toNat % 16).digitChar]

/-- `format!("{:x}", digest)`. -/
def hexText (bytes : Bytes) : String := String.ofList (bytes.flatMap hexPair)

/-- `byte.is_ascii_hexdigit() && !byte.is_ascii_uppercase()`. -/
def isLowerHex (byte : UInt8) : Bool := isAsciiHexdigit byte && !isAsciiUppercase byte

/-- `format!("{:x}", n)`. -/
def lowerHex (n : ℕ) : String := String.ofList (Nat.toDigits 16 n)

/-- `format!("{:X}", n)`. -/
def upperHex (n : ℕ) : String := (lowerHex n).toUpper

/-- `format!("{text:0>width$}")`. -/
def padZeros (width : ℕ) (text : String) : String :=
  String.ofList (List.replicate (width - text.length) '0') ++ text

end AetherEdge
