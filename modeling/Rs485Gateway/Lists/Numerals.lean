import Mathlib.Tactic

namespace Rs485Gateway.Lists

def digitOf (byte : UInt8) : Option Nat :=
  if 0x30 ≤ byte ∧ byte ≤ 0x39 then some (byte.toNat - 0x30)
  else if 0x41 ≤ byte ∧ byte ≤ 0x5A then some (byte.toNat - 0x41 + 10)
  else if 0x61 ≤ byte ∧ byte ≤ 0x7A then some (byte.toNat - 0x61 + 10)
  else none

def isDigitOf (base : Nat) (byte : UInt8) : Bool := (digitOf byte).any (· < base)

def digitsFrom (base : Nat) : Nat → List UInt8 → Nat
  | value, [] => value
  | value, byte :: rest =>
      if isDigitOf base byte then digitsFrom base (value * base + (digitOf byte).getD 0) rest
      else value

def isSpace (byte : UInt8) : Bool := byte = 0x20 ∨ 0x09 ≤ byte ∧ byte ≤ 0x0D

/-- The number behind the sign, in the base its prefix says. -/
def magnitude : List UInt8 → Nat
  | 0x30 :: mark :: rest =>
      if (mark = 0x78 ∨ mark = 0x58) ∧ (rest.head?.any (isDigitOf 16)) then digitsFrom 16 0 rest
      else digitsFrom 8 0 (mark :: rest)
  | text => digitsFrom 10 0 text

/-- `strtoul(text, NULL, 0)` with an `unsigned long` of 64 bits. -/
def strtoul (text : List UInt8) : UInt64 :=
  let unspaced := text.dropWhile isSpace
  let negative := unspaced.head? = some 0x2D
  let value := magnitude (if negative ∨ unspaced.head? = some 0x2B then unspaced.tail else unspaced)
  if 2 ^ 64 ≤ value then UInt64.ofNat (2 ^ 64 - 1)
  else if negative then -UInt64.ofNat value
  else UInt64.ofNat value

def decimalDigit (digit : Nat) : UInt8 := UInt8.ofNat (digit + 0x30)

def decimal (n : Nat) : List UInt8 :=
  (Nat.toDigits 10 n).map fun digit => UInt8.ofNat digit.toNat

section Digits

variable {n digit : Nat}

theorem digitChar_toNat (small : digit < 10) : digit.digitChar.toNat = digit + 0x30 := by
  interval_cases digit <;> rfl

theorem digitOf_decimalDigit (small : digit < 10) : digitOf (decimalDigit digit) = some digit := by
  interval_cases digit <;> rfl

theorem isDigitOf_decimalDigit (small : digit < 10) : isDigitOf 10 (decimalDigit digit) = true := by
  rw [isDigitOf, digitOf_decimalDigit small]
  simpa using small

theorem decimal_small (small : n < 10) : decimal n = [decimalDigit n] := by
  rw [decimal, Nat.toDigits_of_lt_base small, List.map_singleton, digitChar_toNat small]
  rfl

theorem decimal_large (large : 10 ≤ n) :
    decimal n = decimal (n / 10) ++ [decimalDigit (n % 10)] := by
  rw [decimal, Nat.toDigits_of_base_le (by decide) large, List.map_append, List.map_singleton,
    digitChar_toNat (Nat.mod_lt n (by decide))]
  rfl

theorem decimal_first (n : Nat) :
    ∃ digit rest, decimal n = decimalDigit digit :: rest ∧ digit < 10 ∧ (digit = 0 → n = 0) := by
  induction n using Nat.strongRecOn with
  | ind n ih =>
      by_cases small : n < 10
      · exact ⟨n, [], decimal_small small, small, id⟩
      · have large : 10 ≤ n := Nat.not_lt.mp small
        rcases ih (n / 10) (by omega) with ⟨digit, rest, split, below, zero⟩
        refine ⟨digit, rest ++ [decimalDigit (n % 10)], ?_, below, fun leading => ?_⟩
        · rw [decimal_large large, split, List.cons_append]
        · have few := zero leading
          omega

theorem decimal_digits (n : Nat) : ∀ byte ∈ decimal n, isDigitOf 10 byte = true := by
  induction n using Nat.strongRecOn with
  | ind n ih =>
      by_cases small : n < 10
      · rw [decimal_small small, List.forall_mem_singleton]
        exact isDigitOf_decimalDigit small
      · have large : 10 ≤ n := Nat.not_lt.mp small
        rw [decimal_large large, List.forall_mem_append, List.forall_mem_singleton]
        exact ⟨ih (n / 10) (by omega), isDigitOf_decimalDigit (Nat.mod_lt n (by decide))⟩

theorem isDigitOf_visible {base : Nat} {byte : UInt8} (digit : isDigitOf base byte = true) :
    0x20 < byte.toNat := by
  have above {bound : UInt8} (low : 0x30 ≤ bound.toNat) (range : bound ≤ byte) :
      0x20 < byte.toNat := (show 0x20 < 0x30 by decide).trans_le (low.trans range)
  unfold isDigitOf digitOf at digit
  split at digit
  · rename_i range
    exact above (by decide) range.1
  · split at digit
    · rename_i range
      exact above (by decide) range.1
    · split at digit
      · rename_i range
        exact above (by decide) range.1
      · cases digit

theorem decimal_length_le (digits : Nat) (bound : n < 10 ^ (digits + 1)) :
    (decimal n).length ≤ digits + 1 := by
  induction digits generalizing n with
  | zero =>
      rw [decimal_small (by simpa using bound)]
      exact le_rfl
  | succ digits ih =>
      by_cases small : n < 10
      · rw [decimal_small small, List.length_singleton]
        exact Nat.le_add_left _ _
      · have front := @ih (n / 10) (by
          rw [Nat.div_lt_iff_lt_mul (by decide), ← Nat.pow_succ]
          exact bound)
        rw [decimal_large (Nat.not_lt.mp small), List.length_append, List.length_singleton]
        exact Nat.add_le_add_right front 1

theorem digitsFrom_append {base : Nat} {front : List UInt8}
    (digits : ∀ byte ∈ front, isDigitOf base byte = true) (value : Nat) (back : List UInt8) :
    digitsFrom base value (front ++ back) = digitsFrom base (digitsFrom base value front) back := by
  induction front generalizing value with
  | nil => rfl
  | cons byte rest ih =>
      rw [List.forall_mem_cons] at digits
      rw [List.cons_append, digitsFrom, digitsFrom, if_pos digits.1, if_pos digits.1,
        ih digits.2]

theorem digitsFrom_decimalDigit (small : digit < 10) (value : Nat) :
    digitsFrom 10 value [decimalDigit digit] = value * 10 + digit := by
  rw [digitsFrom, if_pos (isDigitOf_decimalDigit small), digitOf_decimalDigit small]
  rfl

theorem digitsFrom_decimal (n : Nat) : digitsFrom 10 0 (decimal n) = n := by
  induction n using Nat.strongRecOn with
  | ind n ih =>
      by_cases small : n < 10
      · rw [decimal_small small, digitsFrom_decimalDigit small, Nat.zero_mul, Nat.zero_add]
      · have large : 10 ≤ n := Nat.not_lt.mp small
        rw [decimal_large large, digitsFrom_append (decimal_digits _), ih (n / 10) (by omega),
          digitsFrom_decimalDigit (Nat.mod_lt n (by decide)), Nat.div_add_mod']

end Digits

theorem magnitude_decimal (n : Nat) : magnitude (decimal n) = n := by
  rcases Nat.eq_zero_or_pos n with rfl | positive
  · rfl
  · rcases decimal_first n with ⟨digit, rest, split, small, zero⟩
    have value := digitsFrom_decimal n
    have apart : decimalDigit digit ≠ 0x30 := by
      intro same
      have digitZero : digit = 0 := by
        interval_cases digit <;> first | rfl | exact absurd same (by decide)
      omega
    rw [split] at value ⊢
    rw [magnitude]
    · exact value
    · intro mark others same
      exact apart (List.cons.inj same).1

/-- A number that does not fit is read as the greatest that does. -/
theorem strtoul_decimal (n : Nat) :
    strtoul (decimal n) = UInt64.ofNat (min n (2 ^ 64 - 1)) := by
  rcases decimal_first n with ⟨digit, rest, split, small, -⟩
  have unspaced : (decimal n).dropWhile isSpace = decimal n := by
    rw [split]
    interval_cases digit <;> rfl
  have unsigned : (decimal n).head? ≠ some 0x2D ∧ (decimal n).head? ≠ some 0x2B := by
    rw [split, List.head?_cons]
    interval_cases digit <;> decide
  simp only [strtoul, unspaced, unsigned, or_self, if_false, magnitude_decimal]
  split
  · rw [Nat.min_eq_right (by omega)]
  · rw [Nat.min_eq_left (by omega)]

example : strtoul [0x20, 0x30, 0x78, 0x31, 0x30] = 16 := by decide

end Rs485Gateway.Lists
