import Mathlib.Data.Int.Notation
import Mathlib.Data.Nat.Notation
import Mathlib.Tactic.Common

/-!
# Dart's `int` and its decimal text

A Dart `int` is a 64-bit two's complement integer, `Int64` here. `int.tryParse` reads an integer
literal: surrounding whitespace is skipped, a sign is optional, and the digits are decimal or,
after `0x`, hexadecimal. A decimal literal must lie in the 64-bit range. A hexadecimal literal
without a minus sign may take up to 64 bits and is read as an unsigned number, so
`0xFFFFFFFFFFFFFFFF` is `-1`.

## Main results

* `int.tryParse_toString`: `int.tryParse` inverts `int.toString` on every 64-bit integer;
* `int.head_toString`: the first character of a printed integer;
* `int.sum_sub_sum`: sums in 64-bit arithmetic;
* `int.nonneg_iff_of_toInt_eq_bmod`: the sign of a result that has overflowed.
-/

namespace Dart

/-- The code points Dart's `String.trim` and `int.tryParse` skip: Unicode white space and the
byte order mark. -/
def isWhitespace (c : Char) : Bool :=
  let n := c.toNat
  (0x09 ≤ n && n ≤ 0x0D) || n == 0x20 || n == 0x85 || n == 0xA0 || n == 0x1680 ||
    (0x2000 ≤ n && n ≤ 0x200A) || n == 0x2028 || n == 0x2029 || n == 0x202F || n == 0x205F ||
    n == 0x3000 || n == 0xFEFF

/-- Drop the whitespace at both ends. -/
def trimWhitespace (cs : List Char) : List Char :=
  ((cs.dropWhile isWhitespace).reverse.dropWhile isWhitespace).reverse

namespace int

/-- The value of the digit `c` in base `radix`. -/
def digitValue (radix : ℕ) (c : Char) : Option ℕ :=
  let n := c.toNat
  let digit :=
    -- '0' to '9', 'a' to 'z' and 'A' to 'Z'
    if 48 ≤ n ∧ n ≤ 57 then some (n - 48)
    else if 97 ≤ n ∧ n ≤ 122 then some (n - 87)
    else if 65 ≤ n ∧ n ≤ 90 then some (n - 55)
    else none
  digit.filter (· < radix)

/-- Append the digits `cs` to the number `acc`. -/
def appendDigits (radix : ℕ) (acc : ℕ) (cs : List Char) : Option ℕ :=
  cs.foldlM (fun n c => (digitValue radix c).map (n * radix + ·)) acc

/-- The number a non-empty digit string stands for in base `radix`. -/
def magnitude (radix : ℕ) (cs : List Char) : Option ℕ :=
  if cs.isEmpty then none else appendDigits radix 0 cs

/-- `v` as a Dart `int`, if it lies in the 64-bit range. -/
def ofRange (v : ℤ) : Option Int64 :=
  if Int64.minValue.toInt ≤ v ∧ v ≤ Int64.maxValue.toInt then some (Int64.ofInt v) else none

/-- Decimal digits after an optional sign. -/
def parseDecimal (negative : Bool) (ds : List Char) : Option Int64 := do
  let n ← magnitude 10 ds
  ofRange (if negative then -n else n)

/-- Hexadecimal digits after an optional sign and `0x`. Without a minus sign they may use the
whole unsigned 64-bit range. -/
def parseHex (negative : Bool) (ds : List Char) : Option Int64 := do
  let n ← magnitude 16 ds
  if negative then ofRange (-n) else if n < UInt64.size then some (Int64.ofNat n) else none

/-- A literal after its sign. -/
def parseUnsigned (negative : Bool) : List Char → Option Int64
  | '0' :: c :: ds =>
    if c = 'x' ∨ c = 'X' then parseHex negative ds else parseDecimal negative ('0' :: c :: ds)
  | ds => parseDecimal negative ds

/-- A literal without surrounding whitespace: an optional sign, then the digits. -/
def parseSigned : List Char → Option Int64
  | [] => none
  | '+' :: cs => parseUnsigned false cs
  | '-' :: cs => parseUnsigned true cs
  | cs => parseUnsigned false cs

/-- `int.tryParse(source)`. -/
def tryParse (source : String) : Option Int64 := parseSigned (trimWhitespace source.toList)

/-- `xs.fold(0, (sum, x) => sum + x)`. -/
def sum (xs : List Int64) : Int64 := xs.foldl (· + ·) 0

/-! ## Reading back a printed integer -/

theorem digitValue_digitChar {d : ℕ} (hd : d < 10) : digitValue 10 (Nat.digitChar d) = some d := by
  have : ∀ d < 10, digitValue 10 (Nat.digitChar d) = some d := by decide
  exact this d hd

/-- Reading the decimal digits of `n` gives `n`. -/
theorem appendDigits_toDigits (n : ℕ) : appendDigits 10 0 (Nat.toDigits 10 n) = some n := by
  induction n using Nat.strongRecOn with
  | ind n ih =>
    rw [Nat.toDigits_eq_if (by decide)]
    split
    · next h => simp [appendDigits, digitValue_digitChar h]
    · next h =>
      -- the last digit is appended to those of `n / 10`
      have hrec := ih (n / 10) (by omega)
      simp only [appendDigits] at hrec ⊢
      rw [List.foldlM_append, hrec]
      simp [digitValue_digitChar (Nat.mod_lt n (by decide : 0 < 10))]
      omega

theorem magnitude_toDigits (n : ℕ) : magnitude 10 (Nat.toDigits 10 n) = some n := by
  simp [magnitude, Nat.toDigits_ne_nil, appendDigits_toDigits]

/-- A string of decimal digits is read as a decimal literal: no `0x` starts it. -/
theorem parseUnsigned_of_isDigit {negative : Bool} {cs : List Char}
    (hcs : ∀ c ∈ cs, c.isDigit = true) : parseUnsigned negative cs = parseDecimal negative cs := by
  unfold parseUnsigned
  split
  · next c ds =>
    rw [if_neg]
    rintro (rfl | rfl)
    · exact absurd (hcs 'x' (by simp)) (by decide)
    · exact absurd (hcs 'X' (by simp)) (by decide)
  · rfl

theorem parseSigned_of_isDigit {cs : List Char} (hne : cs ≠ [])
    (hcs : ∀ c ∈ cs, c.isDigit = true) : parseSigned cs = parseUnsigned false cs := by
  unfold parseSigned
  split
  · exact absurd rfl hne
  · exact absurd (hcs '+' (by simp)) (by decide)
  · exact absurd (hcs '-' (by simp)) (by decide)
  · rfl

theorem isWhitespace_of_isDigit {c : Char} (h : c.isDigit = true) : isWhitespace c = false := by
  have hc : 48 ≤ c.toNat ∧ c.toNat ≤ 57 := by
    simpa [Char.isDigit, UInt32.le_iff_toNat_le] using h
  simp only [isWhitespace, Bool.or_eq_false_iff, Bool.and_eq_false_iff, decide_eq_false_iff_not,
    beq_eq_false_iff_ne]
  omega

theorem dropWhile_isWhitespace {cs : List Char} (hcs : ∀ c ∈ cs, isWhitespace c = false) :
    cs.dropWhile isWhitespace = cs := by
  cases cs with
  | nil => rfl
  | cons c cs => simp [hcs c (by simp)]

theorem trimWhitespace_eq_self {cs : List Char} (hcs : ∀ c ∈ cs, isWhitespace c = false) :
    trimWhitespace cs = cs := by
  rw [trimWhitespace, dropWhile_isWhitespace hcs, dropWhile_isWhitespace (by simpa using hcs),
    List.reverse_reverse]

theorem ofRange_toInt (i : Int64) : ofRange i.toInt = some i := by
  rw [ofRange, if_pos ⟨i.minValue_le_toInt, i.toInt_le⟩, Int64.ofInt_toInt]

/-- `int.tryParse` inverts `int.toString` on every 64-bit integer. -/
theorem tryParse_toString (i : Int64) : tryParse (toString i) = some i := by
  have hdigits (n : ℕ) : ∀ c ∈ Nat.toDigits 10 n, c.isDigit = true := fun c hc =>
    Nat.isDigit_of_mem_toDigits (by decide) (by decide) hc
  have htext : toString i = i.toInt.repr := rfl
  rw [tryParse, htext, Int.repr_eq_if]
  split
  · next hpos =>
    -- digits only: nothing to trim, no sign and no hexadecimal prefix
    rw [Nat.toList_repr,
      trimWhitespace_eq_self fun c hc => isWhitespace_of_isDigit (hdigits _ c hc),
      parseSigned_of_isDigit Nat.toDigits_ne_nil (hdigits _),
      parseUnsigned_of_isDigit (hdigits _), parseDecimal, magnitude_toDigits]
    have habs : (i.toInt.toNat : ℤ) = i.toInt := by omega
    simp only [Option.bind_eq_bind, Option.bind_some, Bool.false_eq_true, ↓reduceIte, habs,
      ofRange_toInt]
  · next hneg =>
    -- a minus sign before the digits of the absolute value
    have hchars : ∀ c ∈ '-' :: Nat.toDigits 10 (-i.toInt).toNat, isWhitespace c = false := by
      intro c hc
      rcases List.mem_cons.mp hc with rfl | hc
      · decide
      · exact isWhitespace_of_isDigit (hdigits _ c hc)
    have hlist : ("-" ++ (-i.toInt).toNat.repr).toList =
        '-' :: Nat.toDigits 10 (-i.toInt).toNat := by
      simp
    rw [hlist, trimWhitespace_eq_self hchars, parseSigned,
      parseUnsigned_of_isDigit (hdigits _), parseDecimal, magnitude_toDigits]
    have habs : -((-i.toInt).toNat : ℤ) = i.toInt := by omega
    simp only [Option.bind_eq_bind, Option.bind_some, ↓reduceIte, habs, ofRange_toInt]

/-- A printed integer starts with a digit or a minus sign. -/
theorem head_toString (i : Int64) :
    ∃ c cs, (toString i).toList = c :: cs ∧ (c = '-' ∨ c.isDigit = true) := by
  have htext : toString i = i.toInt.repr := rfl
  rw [htext, Int.repr_eq_if]
  split
  · cases hds : Nat.toDigits 10 i.toInt.toNat with
    | nil => exact absurd hds Nat.toDigits_ne_nil
    | cons c cs =>
      refine ⟨c, cs, by rw [Nat.toList_repr, hds], Or.inr ?_⟩
      exact Nat.isDigit_of_mem_toDigits (by decide) (by decide) (hds ▸ List.mem_cons_self)
  · exact ⟨'-', Nat.toDigits 10 (-i.toInt).toNat, by simp, Or.inl rfl⟩

/-! ## Sums -/

theorem sum_cons (x : Int64) (xs : List Int64) : sum (x :: xs) = x + sum xs := by
  rw [sum, List.foldl_cons, Int64.add_comm, List.foldl_assoc]
  rfl

/-- A sum of differences is the difference of the sums, also when they overflow. -/
theorem sum_sub_sum {α : Type} (f g : α → Int64) (xs : List α) :
    sum (xs.map f) - sum (xs.map g) = sum (xs.map fun x => f x - g x) := by
  induction xs with
  | nil => simp [sum]
  | cons x xs ih =>
    simp only [List.map_cons, sum_cons, ← ih]
    grind

/-- The sign of a result that has overflowed, from the exact one. -/
theorem nonneg_iff_of_toInt_eq_bmod {n : Int64} {exact : ℤ}
    (h : n.toInt = exact.bmod UInt64.size) :
    0 ≤ n ↔ exact % UInt64.size ≤ Int64.maxValue.toInt := by
  rw [Int64.le_iff_toInt_le, h, Int64.toInt_zero, Int64.toInt_maxValue, Int.bmod_def, UInt64.size]
  omega

end int

end Dart
