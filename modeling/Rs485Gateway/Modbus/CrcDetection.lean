import Rs485Gateway.Lists.CrcRegister
import Rs485Gateway.Modbus.Bytes

namespace Rs485Gateway

open Rs485Gateway.Lists

def byteBits (byte : UInt8) : List Bool := (List.range 8).map byte.toBitVec.getLsbD

def wireBits (frame : Bytes) : List Bool := frame.flatMap byteBits

def crcPoly : BitVec 16 := 0xA001

/-- The bits in which a frame arrives other than it was sent. -/
def lineError (sent received : Bytes) : List Bool := flips (wireBits sent) (wireBits received)

section Register

theorem crcBit_shift (crc : UInt16) : (crcBit crc).toBitVec = crcShift crcPoly crc.toBitVec := by
  have low : crc &&& 0x0001 ≠ 0 ↔ crc.toBitVec.getLsbD 0 = true := by
    have bit : (crc &&& 0x0001).toBitVec = (BitVec.ofBool (crc.toBitVec.getLsbD 0)).setWidth 16 :=
      BitVec.and_one_eq_setWidth_ofBool_getLsbD
    rw [Ne, ← UInt16.toBitVec_inj, bit]
    cases crc.toBitVec.getLsbD 0 <;> decide
  rw [crcBit, crcShift]
  by_cases set : crc.toBitVec.getLsbD 0 = true
  · rw [if_pos (low.mpr set), if_pos set]
    rfl
  · rw [if_neg (fun bit => set (low.mp bit)), if_neg set]
    rfl

theorem crcBits_shift (n : Nat) (crc : UInt16) :
    (crcBit^[n] crc).toBitVec = (crcShift crcPoly)^[n] crc.toBitVec := by
  induction n generalizing crc with
  | zero => rfl
  | succ n ih => rw [Function.iterate_succ_apply, ih, crcBit_shift, ← Function.iterate_succ_apply]

theorem byteBits_length (byte : UInt8) : (byteBits byte).length = 8 := by simp [byteBits]

theorem byteBits_getD (byte : UInt8) (i : Nat) :
    (byteBits byte).getD i false = byte.toBitVec.getLsbD i := by
  by_cases inside : i < 8
  · rw [List.getD_eq_getElem _ _ (by rwa [byteBits_length])]
    simp [byteBits]
  · rw [List.getD_eq_default _ _ (by rw [byteBits_length]; omega),
      BitVec.getLsbD_of_ge _ _ (Nat.not_lt.mp inside)]

theorem packBits_byte (byte : UInt8) : packBits 16 (byteBits byte) = byte.toUInt16.toBitVec := by
  apply BitVec.eq_of_getLsbD_eq
  intro i inside
  rw [packBits_getLsbD _ inside, byteBits_getD]
  simp [inside]

theorem packBits_word (high low : UInt8) :
    packBits 16 (byteBits low ++ byteBits high) = (word high low).toBitVec := by
  apply BitVec.eq_of_getLsbD_eq
  intro i inside
  have size := byteBits_length low
  rw [packBits_getLsbD _ inside]
  by_cases first : i < 8
  · rw [List.getD_append _ _ _ _ (by omega), byteBits_getD]
    simp [word, first, inside]
  · have beyond : low.toBitVec.getLsbD i = false :=
      BitVec.getLsbD_of_ge _ _ (Nat.not_lt.mp first)
    rw [List.getD_append_right _ _ _ _ (by omega), size, byteBits_getD]
    simp [word, inside, first, beyond]

theorem crcByte_run (crc : UInt16) (byte : UInt8) :
    (crcByte crc byte).toBitVec = crcRun crcPoly crc.toBitVec (byteBits byte) := by
  have eight := byteBits_length byte
  rw [crcRun_packBits _ _ (by omega), eight, packBits_byte, crcByte, crcBits_shift,
    UInt16.toBitVec_xor]

theorem crcBytes_run (crc : UInt16) (data : Bytes) :
    (data.foldl crcByte crc).toBitVec = crcRun crcPoly crc.toBitVec (wireBits data) := by
  induction data generalizing crc with
  | nil => rfl
  | cons byte rest ih =>
      have bits : wireBits (byte :: rest) = byteBits byte ++ wireBits rest := List.flatMap_cons
      rw [List.foldl_cons, ih, crcByte_run, bits, crcRun_append]

theorem wireBits_length (frame : Bytes) : (wireBits frame).length = 8 * frame.length := by
  induction frame with
  | nil => rfl
  | cons byte rest ih =>
      rw [wireBits, List.flatMap_cons, List.length_append, byteBits_length, ← wireBits, ih,
        List.length_cons]
      omega

theorem byteBits_inj {left right : UInt8} (same : byteBits left = byteBits right) :
    left = right := by
  apply UInt8.toBitVec_inj.mp
  apply BitVec.eq_of_getLsbD_eq
  intro i _
  rw [← byteBits_getD, same, byteBits_getD]

theorem wireBits_inj {left right : Bytes} (size : left.length = right.length)
    (same : wireBits left = wireBits right) : left = right := by
  induction left generalizing right with
  | nil => exact (List.length_eq_zero_iff.mp size.symm).symm
  | cons byte rest ih =>
      cases right with
      | nil => cases size
      | cons other others =>
          obtain ⟨first, later⟩ := List.append_inj same
            (by rw [byteBits_length, byteBits_length])
          rw [byteBits_inj first, ih (Nat.succ.inj size) later]

end Register

section Frames

theorem crcTop : crcPoly.msb = true := by decide

theorem crcOdd : bitParity crcPoly = 1 := by decide

theorem splitCrc {frame : Bytes} (enough : 2 ≤ frame.length) :
    ∃ body low high, frame = body ++ [low, high] := by
  have tail : (frame.drop (frame.length - 2)).length = 2 := by
    rw [List.length_drop]
    omega
  rcases List.length_eq_two.mp tail with ⟨low, high, same⟩
  exact ⟨frame.take (frame.length - 2), low, high, by rw [← same, List.take_append_drop]⟩

theorem verify_split (body : Bytes) (low high : UInt8) :
    verifyResponseCrc (body ++ [low, high]) = true ↔ mbRtuComputeCrc16 body = word high low := by
  have size : (body ++ [low, high]).length = body.length + 2 := by simp
  have long : ¬ body.length + 2 < modbusRtuCrcLen := Nat.not_lt.mpr (Nat.le_add_left 2 _)
  have received : word ((body ++ [low, high]).getD (body.length + 2 - 1) 0)
      ((body ++ [low, high]).getD body.length 0) = word high low := by simp
  have data : (body ++ [low, high]).take body.length = body := by simp
  rw [verifyResponseCrc, size, if_neg long]
  simp only [modbusRtuCrcLen, Nat.add_sub_cancel, data, received, beq_iff_eq]

/-- A frame passes where the register runs empty over all of it. -/
theorem verify_empties (frame : Bytes) :
    verifyResponseCrc frame = true ↔
      2 ≤ frame.length ∧ crcRun crcPoly 0xFFFF (wireBits frame) = 0 := by
  by_cases enough : 2 ≤ frame.length
  · rcases splitCrc enough with ⟨body, low, high, rfl⟩
    have bits : wireBits (body ++ [low, high]) =
        wireBits body ++ (byteBits low ++ byteBits high) := by
      simp [wireBits]
    have sixteen : (byteBits low ++ byteBits high).length = 16 := by
      rw [List.length_append, byteBits_length, byteBits_length]
    have computed : (mbRtuComputeCrc16 body).toBitVec =
        crcRun crcPoly 0xFFFF (wireBits body) := crcBytes_run 0xFFFF body
    rw [verify_split, bits, crcRun_append, crcRun_packBits _ _ sixteen.le, packBits_word,
      shifts_eq_zero crcTop, ← computed, ← UInt16.toBitVec_inj]
    simp [BitVec.xor_eq_zero_iff]
  · have short : frame.length < modbusRtuCrcLen := Nat.not_le.mp enough
    rw [verifyResponseCrc, if_pos short]
    simp [enough]

theorem lineError_flipped {sent received : Bytes} (size : received.length = sent.length)
    (differs : received ≠ sent) : true ∈ lineError sent received := by
  by_contra clear
  apply differs
  have bits : (wireBits sent).length = (wireBits received).length := by
    rw [wireBits_length, wireBits_length, size]
  apply wireBits_inj size
  apply List.ext_getElem bits.symm
  intro i here there
  have inside : i < (lineError sent received).length := by
    simp only [lineError, flips, List.length_zipWith]
    omega
  have same : ¬ (lineError sent received)[i] = true := by
    intro set
    exact clear (set ▸ List.getElem_mem inside)
  simp only [lineError, flips, List.getElem_zipWith, Bool.xor_iff_ne, ne_eq, not_not] at same
  exact same.symm

theorem lineError_run {sent received : Bytes} (size : received.length = sent.length) :
    crcRun crcPoly 0xFFFF (wireBits received) =
      crcRun crcPoly 0xFFFF (wireBits sent) ^^^ crcRun crcPoly 0 (lineError sent received) := by
  have bits : (wireBits sent).length = (wireBits received).length := by
    rw [wireBits_length, wireBits_length, size]
  have differ := @crcRun_xor 16 crcPoly 0xFFFF 0xFFFF _ _ bits
  rw [BitVec.xor_self] at differ
  rw [lineError]
  change _ = _ ^^^ crcRun crcPoly 0#16 _
  rw [differ, ← BitVec.xor_assoc, BitVec.xor_self, BitVec.zero_xor]

end Frames

/-- The CRC a frame is sent with passes, and no frame of that length passes that a burst of
up to 16 bits or an odd number of flipped bits made of it. -/
theorem corruptions_detected (message : Bytes) :
    verifyResponseCrc (appendCrc message) = true ∧
      ∀ received : Bytes, received.length = (appendCrc message).length →
        received ≠ appendCrc message →
          Burst 16 (lineError (appendCrc message) received) ∨
              Odd ((lineError (appendCrc message) received).count true) →
            verifyResponseCrc received = false := by
  have sent := verify_appendCrc message
  refine ⟨sent, fun received size differs kind => ?_⟩
  obtain ⟨-, empty⟩ := (verify_empties _).mp sent
  have noticed : crcRun crcPoly 0 (lineError (appendCrc message) received) ≠ 0 := by
    rcases kind with burst | odd
    · exact crcRun_burst crcTop burst (lineError_flipped size differs)
    · exact crcRun_odd (by decide) crcOdd odd
  have left := lineError_run size
  rw [empty] at left
  rw [Bool.eq_false_iff]
  intro passes
  obtain ⟨-, drained⟩ := (verify_empties _).mp passes
  exact noticed ((left.trans BitVec.zero_xor).symm.trans drained)

/-- A request for ten registers from 0x0000 on. -/
def tenRegisters : Bytes := [0x01, 0x03, 0x00, 0x00, 0x00, 0x0A]

/-- The request with its CRC, four bits of the address flipped within eight. -/
def burstRegisters : Bytes := [0x01, 0x03, 0x80, 0x43, 0x00, 0x0A, 0xC5, 0xCD]

theorem corruptions_detected_burst : verifyResponseCrc burstRegisters = false := by
  have flipped (i : Fin 64) : (lineError (appendCrc tenRegisters) burstRegisters)[i.val]? =
      some true → 23 ≤ i.val ∧ i.val < 23 + 16 := by
    revert i
    decide +kernel
  have burst : Burst 16 (lineError (appendCrc tenRegisters) burstRegisters) := by
    refine ⟨23, fun i set => ?_⟩
    have inside : i < (lineError (appendCrc tenRegisters) burstRegisters).length :=
      (List.getElem?_eq_some_iff.mp set).1
    exact flipped ⟨i, inside⟩ set
  exact (corruptions_detected tenRegisters).2 burstRegisters (by decide +kernel)
    (by decide +kernel) (.inl burst)

end Rs485Gateway
