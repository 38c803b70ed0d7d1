import Mathlib.Data.List.GetD
import Mathlib.Data.ZMod.Basic
import Mathlib.Tactic

/-! Cyclic redundancy registers that shift towards their low bit, for any width and any
polynomial: what bits they are fed, and which changes of those bits they notice. -/

namespace Rs485Gateway.Lists

variable {w : Nat} {poly : BitVec w}

/-- One shift; `poly` has a bit for each power below the leading one, the highest power
in its low bit. -/
def crcShift (poly crc : BitVec w) : BitVec w :=
  if crc.getLsbD 0 then (crc >>> 1) ^^^ poly else crc >>> 1

def lowBit (w : Nat) (bit : Bool) : BitVec w := (BitVec.ofBool bit).setWidth w

def crcRun (poly : BitVec w) : BitVec w → List Bool → BitVec w
  | crc, [] => crc
  | crc, bit :: rest => crcRun poly (crcShift poly (crc ^^^ lowBit w bit)) rest

def packBits (w : Nat) : List Bool → BitVec w
  | [] => 0
  | bit :: rest => lowBit w bit ^^^ packBits w rest <<< 1

def flips (sent received : List Bool) : List Bool := List.zipWith xor sent received

/-- All the flipped bits lie within `w` consecutive ones. -/
def Burst (w : Nat) (error : List Bool) : Prop :=
  ∃ start, ∀ i, error[i]? = some true → start ≤ i ∧ i < start + w

section Linear

theorem crcShift_xor (left right : BitVec w) :
    crcShift poly (left ^^^ right) = crcShift poly left ^^^ crcShift poly right := by
  simp only [crcShift, BitVec.getLsbD_xor, BitVec.ushiftRight_xor_distrib]
  cases left.getLsbD 0 <;> cases right.getLsbD 0
  · simp
  · simp [BitVec.xor_assoc]
  · simp only [Bool.xor_false, if_true, Bool.false_eq_true, if_false]
    ac_rfl
  · have cancel : poly ^^^ poly = 0#w := BitVec.xor_self
    simp only [Bool.xor_true, Bool.not_true, if_true, Bool.false_eq_true, if_false]
    calc
      left >>> 1 ^^^ right >>> 1 = left >>> 1 ^^^ right >>> 1 ^^^ (poly ^^^ poly) := by
        rw [cancel, BitVec.xor_zero]
      _ = left >>> 1 ^^^ poly ^^^ (right >>> 1 ^^^ poly) := by ac_rfl

@[simp] theorem crcShift_zero : crcShift poly 0 = 0 := by simp [crcShift]

theorem lowBit_xor (left right : Bool) :
    lowBit w (xor left right) = lowBit w left ^^^ lowBit w right := by
  cases left <;> cases right <;> simp [lowBit]

theorem crcRun_append (crc : BitVec w) (first second : List Bool) :
    crcRun poly crc (first ++ second) = crcRun poly (crcRun poly crc first) second := by
  induction first generalizing crc with
  | nil => rfl
  | cons bit rest ih => exact ih _

theorem crcRun_xor (left right : BitVec w) {sent received : List Bool}
    (same : sent.length = received.length) :
    crcRun poly (left ^^^ right) (flips sent received) =
      crcRun poly left sent ^^^ crcRun poly right received := by
  induction sent generalizing left right received with
  | nil =>
      obtain rfl := List.length_eq_zero_iff.mp same.symm
      rfl
  | cons bit rest ih =>
      cases received with
      | nil => cases same
      | cons other others =>
          have later := ih (crcShift poly (left ^^^ lowBit w bit))
            (crcShift poly (right ^^^ lowBit w other)) (Nat.succ.inj same)
          rw [← crcShift_xor] at later
          rw [crcRun, crcRun, ← later]
          have mixed : left ^^^ right ^^^ lowBit w (xor bit other) =
              left ^^^ lowBit w bit ^^^ (right ^^^ lowBit w other) := by
            rw [lowBit_xor]
            ac_rfl
          exact congrArg (fun crc => crcRun poly (crcShift poly crc) _) mixed

end Linear

section Packed

theorem lowBit_getLsbD (bit : Bool) (i : Nat) :
    (lowBit w bit).getLsbD i = (decide (i < w) && decide (i = 0) && bit) := by
  rw [lowBit, BitVec.getLsbD_setWidth, BitVec.getLsbD_ofBool, Bool.and_assoc]

theorem packBits_getLsbD (bits : List Bool) {i : Nat} (inside : i < w) :
    (packBits w bits).getLsbD i = bits.getD i false := by
  induction bits generalizing i with
  | nil => simp [packBits]
  | cons bit rest ih =>
      rw [packBits, BitVec.getLsbD_xor, lowBit_getLsbD, BitVec.getLsbD_shiftLeft]
      cases i with
      | zero => simp [inside]
      | succ i => simp [inside, ih (Nat.lt_of_succ_lt inside)]

theorem crcShift_packBits (rest : List Bool) (few : rest.length < w) :
    crcShift poly (packBits w rest <<< 1) = packBits w rest := by
  have low : (packBits w rest <<< 1).getLsbD 0 = false := by simp
  rw [crcShift, if_neg (by simp [low])]
  apply BitVec.eq_of_getLsbD_eq
  intro i inside
  rw [BitVec.getLsbD_ushiftRight, BitVec.getLsbD_shiftLeft]
  by_cases top : 1 + i < w
  · simp [top]
  · have beyond : rest.length ≤ i := by omega
    rw [packBits_getLsbD rest inside, List.getD_eq_default _ _ beyond]
    simp [top]

/-- As many bits as the register is wide may as well be fed all at once. -/
theorem crcRun_packBits (crc : BitVec w) (bits : List Bool) (few : bits.length ≤ w) :
    crcRun poly crc bits = (crcShift poly)^[bits.length] (crc ^^^ packBits w bits) := by
  induction bits generalizing crc with
  | nil => simp [crcRun, packBits]
  | cons bit rest ih =>
      have shorter : rest.length < w := few
      calc
        crcRun poly crc (bit :: rest) =
            (crcShift poly)^[rest.length]
              (crcShift poly (crc ^^^ lowBit w bit) ^^^ packBits w rest) :=
          ih _ shorter.le
        _ = (crcShift poly)^[rest.length]
              (crcShift poly (crc ^^^ lowBit w bit ^^^ packBits w rest <<< 1)) := by
          rw [crcShift_xor (crc ^^^ lowBit w bit), crcShift_packBits rest shorter]
        _ = (crcShift poly)^[(bit :: rest).length] (crc ^^^ packBits w (bit :: rest)) := by
          rw [List.length_cons, Function.iterate_succ_apply, packBits, BitVec.xor_assoc]

theorem packBits_eq_zero {bits : List Bool} (few : bits.length ≤ w)
    (zero : packBits w bits = 0) : true ∉ bits := by
  intro member
  obtain ⟨i, here, set⟩ := List.getElem_of_mem member
  have clear := packBits_getLsbD bits (here.trans_le few)
  rw [zero, List.getD_eq_getElem _ _ here, set] at clear
  simp at clear

end Packed

section Burst

theorem crcShift_eq_zero (top : poly.msb = true) {crc : BitVec w} :
    crcShift poly crc = 0 ↔ crc = 0 := by
  constructor
  · intro shifted
    have wide : 0 < w := by
      by_contra none
      obtain rfl : w = 0 := by omega
      exact absurd top (by simp [BitVec.of_length_zero])
    rw [BitVec.msb_eq_getLsbD_last] at top
    have low : crc.getLsbD 0 = false := by
      by_contra set
      rw [crcShift, if_pos (by simpa using set)] at shifted
      have last := congrArg (fun crc : BitVec w => crc.getLsbD (w - 1)) shifted
      simp [top, show 1 + (w - 1) = w by omega] at last
    rw [crcShift, if_neg (by simp [low])] at shifted
    apply BitVec.eq_of_getLsbD_eq
    intro i inside
    cases i with
    | zero => simp [low]
    | succ i =>
        have moved := congrArg (fun crc : BitVec w => crc.getLsbD i) shifted
        simpa [Nat.add_comm 1 i] using moved
  · rintro rfl
    exact crcShift_zero

theorem shifts_eq_zero (top : poly.msb = true) (n : Nat) {crc : BitVec w} :
    (crcShift poly)^[n] crc = 0 ↔ crc = 0 := by
  induction n generalizing crc with
  | zero => rfl
  | succ n ih => rw [Function.iterate_succ_apply, ih, crcShift_eq_zero top]

theorem crcRun_clear (crc : BitVec w) {bits : List Bool} (clear : true ∉ bits) :
    crcRun poly crc bits = (crcShift poly)^[bits.length] crc := by
  induction bits generalizing crc with
  | nil => rfl
  | cons bit rest ih =>
      obtain ⟨apart, others⟩ := not_or.mp (fun member => clear (List.mem_cons.mpr member))
      obtain rfl : bit = false := by simpa using Ne.symm apart
      have unchanged : crc ^^^ lowBit w false = crc := by simp [lowBit]
      rw [crcRun, unchanged, ih _ others]
      rfl

theorem crcRun_burst (top : poly.msb = true) {error : List Bool} (burst : Burst w error)
    (flipped : true ∈ error) : crcRun poly 0 error ≠ 0 := by
  obtain ⟨start, within⟩ := burst
  have before : true ∉ error.take start := by
    intro member
    obtain ⟨i, here, set⟩ := List.getElem_of_mem member
    rw [List.length_take] at here
    rw [List.getElem_take] at set
    have inside := within i (by rw [List.getElem?_eq_getElem (by omega), set])
    omega
  have after : true ∉ error.drop (start + w) := by
    intro member
    obtain ⟨i, here, set⟩ := List.getElem_of_mem member
    rw [List.length_drop] at here
    rw [List.getElem_drop] at set
    have inside := within (start + w + i) (by rw [List.getElem?_eq_getElem (by omega), set])
    omega
  have parts : error = error.take start ++ ((error.drop start).take w ++
      error.drop (start + w)) := by
    rw [← List.drop_drop, List.take_append_drop, List.take_append_drop]
  have few : ((error.drop start).take w).length ≤ w := List.length_take_le _ _
  have window : true ∈ (error.drop start).take w := by
    rw [parts, List.mem_append, List.mem_append] at flipped
    exact (flipped.resolve_left before).resolve_right after
  have leading : crcRun poly 0 (error.take start) = 0 := by
    rw [crcRun_clear 0 before]
    exact (shifts_eq_zero top _).mpr rfl
  rw [parts, crcRun_append, crcRun_append, leading, crcRun_clear _ after, crcRun_packBits _ _ few]
  intro zero
  have packed := (shifts_eq_zero top _).mp ((shifts_eq_zero top _).mp zero)
  exact packBits_eq_zero few (by simpa using packed) window

end Burst

section Parity

def bitValue (bit : Bool) : ZMod 2 := if bit then 1 else 0

def bitParity (crc : BitVec w) : ZMod 2 := ∑ i ∈ Finset.range w, bitValue (crc.getLsbD i)

theorem bitValue_xor (left right : Bool) :
    bitValue (xor left right) = bitValue left + bitValue right := by
  cases left <;> cases right <;> decide

theorem bitParity_xor (left right : BitVec w) :
    bitParity (left ^^^ right) = bitParity left + bitParity right := by
  simp only [bitParity, BitVec.getLsbD_xor, bitValue_xor, Finset.sum_add_distrib]

theorem bitParity_lowBit (wide : 0 < w) (bit : Bool) : bitParity (lowBit w bit) = bitValue bit := by
  rw [bitParity, Finset.sum_eq_single 0]
  · rw [lowBit_getLsbD, decide_eq_true wide]
    rfl
  · intro i _ other
    simp [lowBit_getLsbD, other, bitValue]
  · intro absent
    exact absurd (Finset.mem_range.mpr wide) absent

/-- The bit that leaves the register is made good by an odd polynomial. -/
theorem bitParity_shift (odd : bitParity poly = 1) (crc : BitVec w) :
    bitParity (crcShift poly crc) = bitParity crc := by
  have moved : bitParity (crc >>> 1) + bitValue (crc.getLsbD 0) = bitParity crc := by
    have last : bitValue (crc.getLsbD w) = 0 := by simp [bitValue]
    calc
      bitParity (crc >>> 1) + bitValue (crc.getLsbD 0) =
          ∑ i ∈ Finset.range (w + 1), bitValue (crc.getLsbD i) := by
        simp only [bitParity, BitVec.getLsbD_ushiftRight, Nat.add_comm 1]
        exact (Finset.sum_range_succ' (fun i => bitValue (crc.getLsbD i)) w).symm
      _ = bitParity crc := by rw [Finset.sum_range_succ, last, add_zero, bitParity]
  rw [crcShift, ← moved]
  split
  · rename_i low
    rw [bitParity_xor, odd, low]
    rfl
  · rename_i low
    rw [Bool.not_eq_true] at low
    rw [low]
    exact (add_zero _).symm

theorem bitParity_run (wide : 0 < w) (odd : bitParity poly = 1) (crc : BitVec w)
    (bits : List Bool) :
    bitParity (crcRun poly crc bits) = bitParity crc + (bits.count true : ZMod 2) := by
  induction bits generalizing crc with
  | nil => simp [crcRun]
  | cons bit rest ih =>
      rw [crcRun, ih, bitParity_shift odd, bitParity_xor, bitParity_lowBit wide]
      cases bit
      · simp [bitValue]
      · simp only [bitValue, if_true, List.count_cons_self, Nat.cast_add, Nat.cast_one]
        ring

theorem crcRun_odd (wide : 0 < w) (odd : bitParity poly = 1) {error : List Bool}
    (flipped : Odd (error.count true)) : crcRun poly 0 error ≠ 0 := by
  intro zero
  have parity := bitParity_run wide odd 0 error
  rw [zero, (ZMod.natCast_eq_one_iff_odd).mpr flipped] at parity
  simp at parity

end Parity

end Rs485Gateway.Lists
