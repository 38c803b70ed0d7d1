import Rs485Gateway.Lists.Numerals
import Rs485Gateway.Numbers.Rounding

namespace Rs485Gateway.Numbers

open Rs485Gateway.Lists

def signed (text : List UInt8) : Bool × List UInt8 :=
  match text with
  | 0x2D :: rest => (true, rest)
  | 0x2B :: rest => (false, rest)
  | _ => (false, text)

def negateIf {α : Type} [Neg α] (negative : Bool) (x : α) : α := if negative then -x else x

def exponentOf (mark : UInt8) (text : List UInt8) : ℤ :=
  match text with
  | [] => 0
  | first :: rest =>
      if first = mark ∨ first = mark + 0x20 then
        negateIf (signed rest).1 (digitsFrom 10 0 (signed rest).2 : ℤ)
      else 0

/-- Digits with a point among them, and an exponent: of ten, or of two behind hexadecimals. -/
def significand (base radix : ℕ) (mark : UInt8) (text : List UInt8) : ℚ :=
  let whole := text.takeWhile (isDigitOf base)
  let behind := text.dropWhile (isDigitOf base)
  let fraction := if behind.head? = some 0x2E then behind.tail.takeWhile (isDigitOf base) else []
  let ends := if behind.head? = some 0x2E then behind.tail.dropWhile (isDigitOf base) else behind
  if whole ++ fraction = [] then 0
  else digitsFrom base 0 (whole ++ fraction) / base ^ fraction.length *
    (radix : ℚ) ^ exponentOf mark ends

def startsHex (text : List UInt8) : Bool :=
  text.head?.any (isDigitOf 16) || text.head? = some 0x2E && text.tail.head?.any (isDigitOf 16)

def lower (byte : UInt8) : UInt8 := if 0x41 ≤ byte ∧ byte ≤ 0x5A then byte + 0x20 else byte

def notFinite (text : List UInt8) : Bool :=
  let front := (text.take 3).map lower
  front = [0x69, 0x6E, 0x66] || front = [0x6E, 0x61, 0x6E]

def unsignedValue : List UInt8 → ℚ
  | 0x30 :: mark :: rest =>
      if (mark = 0x78 ∨ mark = 0x58) ∧ startsHex rest then significand 16 2 0x50 rest
      else significand 10 10 0x45 (0x30 :: mark :: rest)
  | text => significand 10 10 0x45 text

/-- The number a text denotes before it is rounded, unless it is none. -/
def floatText (text : List UInt8) : Option ℚ :=
  let body := signed (text.dropWhile isSpace)
  if notFinite body.2 then none else some (negateIf body.1 (unsignedValue body.2))

/-- `strtof(text, NULL)`, rounded to the nearest `float`; beyond its range the cast that follows is
undefined anyway. -/
def strtof (text : List UInt8) : Option ℚ := (floatText text).map single.round

/-- The cast of a `float` to 16 bits, where C defines it. -/
def castUint16 (x : ℚ) : Option UInt16 :=
  if -1 < x ∧ x < 65536 then some (UInt16.ofNat ⌊x⌋₊) else none

def hundredthsText (n : ℕ) : List UInt8 :=
  decimal (n / 100) ++ [0x2E, decimalDigit (n / 10 % 10), decimalDigit (n % 10)]

/-- `%.2f` of a number that is not negative: printed exactly, then rounded. -/
def printHundredths (x : ℚ) : List UInt8 := hundredthsText (roundEven (x * 100)).toNat

section Hundredths

variable {n : ℕ}

theorem hundredthsText_split (n : ℕ) : hundredthsText n = decimal (n / 100) ++ 0x2E ::
    [decimalDigit (n / 10 % 10), decimalDigit (n % 10)] := rfl

theorem digitsFrom_hundredths (n : ℕ) : digitsFrom 10 0 (decimal (n / 100) ++
    [decimalDigit (n / 10 % 10), decimalDigit (n % 10)]) = n := by
  have tens : n / 10 % 10 < 10 := Nat.mod_lt _ (by decide)
  have ones : n % 10 < 10 := Nat.mod_lt _ (by decide)
  have split : [decimalDigit (n / 10 % 10), decimalDigit (n % 10)] =
      [decimalDigit (n / 10 % 10)] ++ [decimalDigit (n % 10)] := rfl
  rw [split, digitsFrom_append (decimal_digits _), digitsFrom_decimal, digitsFrom_append,
    digitsFrom_decimalDigit tens, digitsFrom_decimalDigit ones]
  · omega
  · rw [List.forall_mem_singleton]
    exact isDigitOf_decimalDigit tens

theorem significand_hundredths (n : ℕ) : significand 10 10 0x45 (hundredthsText n) = n / 100 := by
  have digits := decimal_digits (n / 100)
  have tens := isDigitOf_decimalDigit (Nat.mod_lt (n / 10) (show 0 < 10 by decide))
  have ones := isDigitOf_decimalDigit (Nat.mod_lt n (show 0 < 10 by decide))
  have point : isDigitOf 10 0x2E = false := rfl
  have whole : (hundredthsText n).takeWhile (isDigitOf 10) = decimal (n / 100) := by
    rw [hundredthsText_split, List.takeWhile_append_of_pos digits, List.takeWhile_cons_of_neg
      (by simp [point]), List.append_nil]
  have behind : (hundredthsText n).dropWhile (isDigitOf 10) =
      0x2E :: [decimalDigit (n / 10 % 10), decimalDigit (n % 10)] := by
    rw [hundredthsText_split, List.dropWhile_append_of_pos digits, List.dropWhile_cons_of_neg
      (by simp [point])]
  have fraction : [decimalDigit (n / 10 % 10), decimalDigit (n % 10)].takeWhile (isDigitOf 10) =
      [decimalDigit (n / 10 % 10), decimalDigit (n % 10)] := by
    simp [tens, ones]
  have ends :
      [decimalDigit (n / 10 % 10), decimalDigit (n % 10)].dropWhile (isDigitOf 10) = [] := by
    simp [tens, ones]
  have nonempty :
      decimal (n / 100) ++ [decimalDigit (n / 10 % 10), decimalDigit (n % 10)] ≠ [] := by
    simp
  simp only [significand, whole, behind, List.head?_cons, List.tail_cons, if_true, fraction, ends,
    if_neg nonempty, digitsFrom_hundredths, exponentOf]
  norm_num

section Front

variable {digit : ℕ} (small : digit < 10) (rest : List UInt8)

include small

theorem notFinite_digit : notFinite (decimalDigit digit :: rest) = false := by
  have kept : lower (decimalDigit digit) = decimalDigit digit := by
    interval_cases digit <;> rfl
  have apart : decimalDigit digit ≠ 0x69 ∧ decimalDigit digit ≠ 0x6E := by
    interval_cases digit <;> decide
  simp [notFinite, kept, apart]

theorem signed_digit :
    signed (decimalDigit digit :: rest) = (false, decimalDigit digit :: rest) := by
  interval_cases digit <;> rfl

theorem unspaced_digit : (decimalDigit digit :: rest).dropWhile isSpace =
    decimalDigit digit :: rest := by
  interval_cases digit <;> rfl

end Front

theorem unsignedValue_hundredths (n : ℕ) : unsignedValue (hundredthsText n) = n / 100 := by
  have value := significand_hundredths n
  rcases decimal_first (n / 100) with ⟨digit, rest, first, small, zero⟩
  by_cases none : digit = 0
  · have text : hundredthsText n = 0x30 :: 0x2E :: [decimalDigit (n / 10 % 10),
        decimalDigit (n % 10)] := by
      rw [hundredthsText, zero none]
      rfl
    rw [text] at value ⊢
    exact value
  · rw [hundredthsText, first] at value ⊢
    rw [List.cons_append, unsignedValue]
    · exact value
    · intro mark others same
      have leading := (List.cons.inj same).1
      interval_cases digit <;> first | exact none rfl | exact absurd leading (by decide)

theorem floatText_hundredths (n : ℕ) : floatText (hundredthsText n) = some ((n : ℚ) / 100) := by
  have value := unsignedValue_hundredths n
  rcases decimal_first (n / 100) with ⟨digit, rest, first, small, -⟩
  rw [hundredthsText, first, List.cons_append] at value ⊢
  simp only [floatText, unspaced_digit small, signed_digit small, notFinite_digit small, value,
    negateIf, Bool.false_eq_true, if_false]

end Hundredths

section Errors

variable {x : ℚ}

/-- Rounding to a `float` keeps 24 bits of anything that is not tiny. -/
theorem single_error (atLeast : 2 ^ (-126 : ℤ) ≤ |x|) : |single.round x - x| ≤ |x| / 2 ^ 24 := by
  have positive : 0 < |x| := lt_of_lt_of_le (by positivity) atLeast
  have leading : -126 ≤ Int.log 2 |x| := by
    apply (Int.zpow_le_iff_le_log (b := 2) (by decide) positive).mp
    exact_mod_cast atLeast
  apply single.round_error
  · simp only [single]
    omega
  · exact abs_pos.mp positive

theorem single_hundredths {n : ℕ} (positive : 0 < n) :
    |single.round ((n : ℚ) / 100) - n / 100| ≤ (n : ℚ) / 100 / 2 ^ 24 := by
  have one : (1 : ℚ) ≤ n := by exact_mod_cast positive
  have whole : |(n : ℚ) / 100| = n / 100 := abs_of_nonneg (by positivity)
  have error := @single_error ((n : ℚ) / 100)
  rw [whole] at error
  apply error
  calc
    (2 : ℚ) ^ (-126 : ℤ) ≤ 1 / 100 := by norm_num
    _ ≤ n / 100 := by gcongr

theorem printHundredths_single {n : ℕ} (small : n < 65536) :
    printHundredths (single.round ((n : ℚ) / 100)) = hundredthsText n := by
  have near : |single.round ((n : ℚ) / 100) * 100 - (n : ℤ)| < 1 / 2 := by
    rcases Nat.eq_zero_or_pos n with rfl | positive
    · have zero := single.round_int 0 (by norm_num [single]) (by norm_num [single])
      simp only [Int.cast_zero] at zero
      simp [zero]
    · have error := single_hundredths positive
      have bound : (n : ℚ) < 65536 := by exact_mod_cast small
      rw [abs_le] at error
      rw [abs_lt]
      push_cast
      constructor <;> linarith
  rw [printHundredths, roundEven_near near, Int.toNat_natCast]

theorem single_zero : single.round 0 = 0 := by
  have same := single.round_int 0 (by norm_num [single]) (by norm_num [single])
  exact_mod_cast same

theorem castUint16_between {n : ℕ} (small : n < 65536) (below : (n : ℚ) - 1 < x)
    (above : x < n + 1) (inside : x < 65536) :
    ∃ value, castUint16 x = some value ∧ (value.toNat = n ∨ value.toNat + 1 = n) := by
  have bottom : -1 < x := by
    have start : (0 : ℚ) ≤ n := n.cast_nonneg
    linarith
  refine ⟨UInt16.ofNat ⌊x⌋₊, if_pos ⟨bottom, inside⟩, ?_⟩
  have upper : ⌊x⌋₊ < n + 1 := by
    apply Nat.floor_lt' (Nat.succ_ne_zero n) |>.mpr
    exact_mod_cast above
  have lower : n < ⌊x⌋₊ + 2 := by
    have next := Nat.lt_floor_add_one x
    have less : (n : ℚ) < (⌊x⌋₊ + 2 : ℕ) := by
      push_cast
      linarith
    exact_mod_cast less
  rw [UInt16.toNat_ofNat_of_lt' (by omega : ⌊x⌋₊ < 2 ^ 16)]
  omega

/-- A text with two decimals times a hundred, all in `float`: the number of hundredths, or one
less where a rounding fell short. -/
theorem castUint16_hundredths {n : ℕ} (small : n < 65536) :
    ∃ value, (strtof (hundredthsText n)).bind
        (fun raw => castUint16 (single.round (raw * 100))) = some value ∧
      (value.toNat = n ∨ value.toNat + 1 = n) := by
  rw [strtof, floatText_hundredths, Option.map_some, Option.bind_some]
  rcases Nat.eq_zero_or_pos n with rfl | positive
  · rw [Nat.cast_zero, zero_div, single_zero, zero_mul, single_zero]
    exact ⟨0, rfl, .inl rfl⟩
  · have read := single_hundredths positive
    have one : (1 : ℚ) ≤ n := by exact_mod_cast positive
    have bound : (n : ℚ) ≤ 65535 := by exact_mod_cast Nat.le_of_lt_succ small
    generalize single.round ((n : ℚ) / 100) = raw at read
    rw [abs_le] at read
    have rawPositive : (0 : ℚ) < raw := by linarith
    have scaled : |raw * 100| = raw * 100 := abs_of_pos (by positivity)
    have product := @single_error (raw * 100)
    rw [scaled] at product
    have large : (2 : ℚ) ^ (-126 : ℤ) ≤ raw * 100 := by
      have tiny : (2 : ℚ) ^ (-126 : ℤ) ≤ 1 / 2 := by norm_num
      have half : 1 / 2 ≤ raw * 100 := by linarith
      exact tiny.trans half
    have error := product large
    rw [abs_le] at error
    apply castUint16_between small <;> linarith

end Errors

end Rs485Gateway.Numbers
