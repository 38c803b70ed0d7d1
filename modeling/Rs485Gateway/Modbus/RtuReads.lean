import Rs485Gateway.Modbus.CrcDetection
import Rs485Gateway.Modbus.WriteAcks

namespace Rs485Gateway

def readReply (unitId : UInt8) (qty : UInt16) (data : Bytes) : Bytes :=
  appendCrc ([unitId, modbusFuncReadHoldingRegisters, UInt8.ofNat (2 * qty.toNat)] ++ data)

def readReplyLen (qty : UInt16) : Nat := 5 + 2 * qty.toNat

section Frames

theorem hi_word (high low : UInt8) : hi (word high low) = high := by
  apply UInt8.toBitVec_inj.mp
  apply BitVec.eq_of_getLsbD_eq
  intro i inside
  have within : 8 + i < 16 := by omega
  simp [hi, word, inside, within]

theorem lo_word (high low : UInt8) : lo (word high low) = low := by
  apply UInt8.toBitVec_inj.mp
  apply BitVec.eq_of_getLsbD_eq
  intro i inside
  have ones : ∀ j : Fin 8, (255#8).getLsbD j = true := by decide
  have mask := ones ⟨i, inside⟩
  rw [BitVec.getLsbD_eq_getElem inside] at mask
  simp [lo, word, inside, mask]

theorem verify_iff_appended (frame : Bytes) :
    verifyResponseCrc frame = true ↔ ∃ body, frame = appendCrc body := by
  constructor
  · intro passes
    rcases splitCrc ((verify_empties frame).mp passes).1 with ⟨body, low, high, rfl⟩
    have crc := (verify_split body low high).mp passes
    exact ⟨body, by rw [appendCrc, crc, hi_word, lo_word]⟩
  · rintro ⟨body, rfl⟩
    exact verify_appendCrc body

theorem bigEndian_exists {n : Nat} {data : Bytes} (size : data.length = 2 * n) :
    ∃ values : List UInt16, values.length = n ∧ bigEndian values = data := by
  induction n generalizing data with
  | zero => exact ⟨[], rfl, (List.length_eq_zero_iff.mp size).symm⟩
  | succ n ih =>
      match data with
      | [] => cases size
      | [_] =>
          rw [List.length_singleton] at size
          omega
      | high :: low :: rest =>
          rw [List.length_cons, List.length_cons] at size
          have shorter : rest.length = 2 * n := by omega
          rcases ih shorter with ⟨values, count, same⟩
          refine ⟨word high low :: values, by rw [List.length_cons, count], ?_⟩
          rw [bigEndian, List.flatMap_cons, ← bigEndian, same, hi_word, lo_word]
          rfl

theorem readReply_getD (unitId : UInt8) (qty : UInt16) (data : Bytes) :
    (readReply unitId qty data).getD 0 0 = unitId ∧
      (readReply unitId qty data).getD 1 0 = modbusFuncReadHoldingRegisters ∧
      (readReply unitId qty data).getD 2 0 = UInt8.ofNat (2 * qty.toNat) := by
  simp [readReply, appendCrc]

/-- A frame of the length of a reply is one where it passes the check and starts like one. -/
theorem readReply_iff {unitId : UInt8} {qty : UInt16} {frame : Bytes}
    (size : frame.length = readReplyLen qty) :
    (∃ data, data.length = 2 * qty.toNat ∧ frame = readReply unitId qty data) ↔
      verifyResponseCrc frame = true ∧ frame.getD 0 0 = unitId ∧
        frame.getD 1 0 = modbusFuncReadHoldingRegisters ∧
        frame.getD 2 0 = UInt8.ofNat (2 * qty.toNat) := by
  constructor
  · rintro ⟨data, -, rfl⟩
    exact ⟨verify_appendCrc _, readReply_getD unitId qty data⟩
  · rintro ⟨passes, unit, fc, count⟩
    rcases (verify_iff_appended frame).mp passes with ⟨body, rfl⟩
    rw [appendCrc_length, readReplyLen] at size
    match body with
    | [] | [_] | [_, _] =>
        simp only [List.length_cons, List.length_nil] at size
        omega
    | first :: second :: third :: data =>
        simp only [appendCrc, List.cons_append, List.getD_cons_zero, List.getD_cons_succ]
          at unit fc count
        refine ⟨data, ?_, ?_⟩
        · simp only [List.length_cons] at size
          omega
        · rw [readReply, unit, fc, count]
          rfl

end Frames

section Reads

variable {ctx : RtuClientCtx} {addr qty : UInt16} {port : SerialPort}

theorem byteCount_ofNat (qty : UInt16) : (qty * 2).toUInt8 = UInt8.ofNat (2 * qty.toNat) := by
  apply UInt8.toNat_inj.mp
  simp only [UInt16.toNat_toUInt8, UInt16.toNat_mul, UInt16.toNat_ofNat, UInt8.toNat_ofNat']
  omega

theorem judged_ok {frame : Bytes} (size : frame.length = readReplyLen qty) :
    (judgeResponse ctx frame = clientOk ∧
        ¬ (frame.getD 1 0 ≠ modbusFuncReadHoldingRegisters ∨
          frame.getD 2 0 ≠ (qty * 2).toUInt8)) ↔
      ∃ data, data.length = 2 * qty.toNat ∧ frame = readReply ctx.unitId qty data := by
  rw [readReply_iff size, byteCount_ofNat, not_or, not_not, not_not]
  constructor
  · rintro ⟨ok, fc, count⟩
    have plain : frame.getD 1 0 &&& modbusExceptionFlag = 0 := by
      rw [fc]
      decide
    have judged := (judgeResponse_ok plain).mp ok
    exact ⟨judged.1, judged.2, fc, count⟩
  · rintro ⟨passes, unit, fc, count⟩
    have plain : frame.getD 1 0 &&& modbusExceptionFlag = 0 := by
      rw [fc]
      decide
    exact ⟨(judgeResponse_ok plain).mpr ⟨passes, unit⟩, fc, count⟩

structure ReadAnswered (ctx : RtuClientCtx) (addr qty : UInt16) (port : SerialPort) (data : Bytes) :
    Prop where
  opened : ctx.opened = true
  written : port.write (rtuReadRequest ctx.unitId addr qty) =
    (rtuReadRequest ctx.unitId addr qty).length
  enough : readReplyLen qty ≤ (arrived port.events).length
  size : data.length = 2 * qty.toNat
  reply : (arrived port.events).take (readReplyLen qty) = readReply ctx.unitId qty data

theorem rtuRead_failed (asked : ¬ (qty = 0 ∨ qty.toNat > modbusMaxReadRegisters))
    (opened : ctx.opened = true)
    (failed : (doTransaction ctx port (rtuReadRequest ctx.unitId addr qty)
      (1 + 1 + 1 + qty.toNat * 2 + modbusRtuCrcLen)).1 < 0) :
    (mbRtuClientReadHoldingRegisters ctx addr qty port).1 ≠ clientOk ∧
      (mbRtuClientReadHoldingRegisters ctx addr qty port).2 = none := by
  have notOk : _ ≠ clientOk := failed.ne
  rw [mbRtuClientReadHoldingRegisters, if_neg asked, if_neg (by simp [opened])]
  simp only [if_neg notOk]
  exact ⟨notOk, trivial⟩

theorem readReplyLen_eq (qty : UInt16) :
    1 + 1 + 1 + qty.toNat * 2 + modbusRtuCrcLen = readReplyLen qty := by
  rw [modbusRtuCrcLen, readReplyLen]
  omega

theorem rtuRead_arrived (asked : ¬ (qty = 0 ∨ qty.toNat > modbusMaxReadRegisters))
    (opened : ctx.opened = true)
    (written : port.write (rtuReadRequest ctx.unitId addr qty) =
      (rtuReadRequest ctx.unitId addr qty).length)
    (enough : readReplyLen qty ≤ (arrived port.events).length) :
    let frame := (arrived port.events).take (readReplyLen qty)
    mbRtuClientReadHoldingRegisters ctx addr qty port =
      if judgeResponse ctx frame = clientOk then
        if frame.getD 1 0 ≠ modbusFuncReadHoldingRegisters ∨ frame.getD 2 0 ≠ (qty * 2).toUInt8
        then (mbRtuClientErrFrame, none)
        else (clientOk, some (registersAt frame 3 qty.toNat))
      else (judgeResponse ctx frame, none) := by
  rw [mbRtuClientReadHoldingRegisters, if_neg asked, if_neg (by simp [opened]), readReplyLen_eq]
  simp only [doTransaction_arrived written enough]

/-- Either the read was answered and gives what the reply holds, or it fails. -/
theorem rtuRead_cases (asked : ¬ (qty = 0 ∨ qty.toNat > modbusMaxReadRegisters)) :
    (∃ data, ReadAnswered ctx addr qty port data ∧
        mbRtuClientReadHoldingRegisters ctx addr qty port =
          (clientOk, some (registersAt (readReply ctx.unitId qty data) 3 qty.toNat))) ∨
      (∀ data, ¬ ReadAnswered ctx addr qty port data) ∧
        (mbRtuClientReadHoldingRegisters ctx addr qty port).1 ≠ clientOk ∧
        (mbRtuClientReadHoldingRegisters ctx addr qty port).2 = none := by
  by_cases opened : ctx.opened = true
  · by_cases written : port.write (rtuReadRequest ctx.unitId addr qty) =
        (rtuReadRequest ctx.unitId addr qty).length
    · rcases Nat.lt_or_ge (arrived port.events).length (readReplyLen qty) with short | enough
      · refine .inr ⟨fun _ answered => absurd short (Nat.not_lt.mpr answered.enough), ?_⟩
        apply rtuRead_failed asked opened
        apply doTransaction_short
        rwa [readReplyLen_eq]
      · have result := rtuRead_arrived asked opened written enough
        have accepts := @judged_ok ctx qty _ (List.length_take_of_le enough)
        have frameCode : mbRtuClientErrFrame ≠ clientOk := by decide
        simp only at result
        by_cases judged : judgeResponse ctx ((arrived port.events).take (readReplyLen qty)) =
            clientOk
        · rw [if_pos judged] at result
          split at result
          · rename_i wrong
            rw [result]
            exact .inr ⟨fun data answered =>
              (accepts.mpr ⟨data, answered.size, answered.reply⟩).2 wrong, frameCode, rfl⟩
          · rename_i right
            rcases accepts.mp ⟨judged, right⟩ with ⟨data, size, reply⟩
            rw [reply] at result
            exact .inl ⟨data, ⟨opened, written, enough, size, reply⟩, result⟩
        · rw [if_neg judged] at result
          rw [result]
          exact .inr ⟨fun data answered =>
            judged (accepts.mpr ⟨data, answered.size, answered.reply⟩).1, judged, rfl⟩
    · refine .inr ⟨fun _ answered => written answered.written, ?_⟩
      apply rtuRead_failed asked opened
      rw [doTransaction, if_pos written]
      exact (by decide : mbRtuClientErrTransport < 0)
  · have closed : mbRtuClientReadHoldingRegisters ctx addr qty port =
        (mbRtuClientErrNotOpen, none) := by
      rw [mbRtuClientReadHoldingRegisters, if_neg asked, if_pos opened]
    rw [closed]
    exact .inr ⟨fun _ answered => opened answered.opened, by decide, rfl⟩

end Reads

/-- A read succeeds exactly where its request was written and the first bytes that came are a
reply to it; it then gives the registers of that reply, and otherwise leaves `out` alone. -/
theorem rtuRead_accepts (ctx : RtuClientCtx) (addr qty : UInt16) (counted : qty ≠ 0)
    (few : qty.toNat ≤ modbusMaxReadRegisters) (port : SerialPort) :
    let call := mbRtuClientReadHoldingRegisters ctx addr qty port
    (call.1 = clientOk ↔ ∃ data, ReadAnswered ctx addr qty port data) ∧
      (∀ data, ReadAnswered ctx addr qty port data →
        ∃ values, call.2 = some values ∧ values.length = qty.toNat ∧
          bigEndian values = data) ∧
      (call.1 ≠ clientOk → call.2 = none) := by
  rcases @rtuRead_cases ctx addr qty port (read_ok counted few) with
    ⟨data, answered, result⟩ | ⟨unanswered, failed, untouched⟩
  · rw [result]
    refine ⟨iff_of_true rfl ⟨data, answered⟩, fun other answers => ?_, fun no => absurd rfl no⟩
    rcases bigEndian_exists answers.size with ⟨values, count, wire⟩
    have registers := registersAt_bigEndian
      [ctx.unitId, modbusFuncReadHoldingRegisters, UInt8.ofNat (2 * qty.toNat)]
      [lo (mbRtuComputeCrc16 ([ctx.unitId, modbusFuncReadHoldingRegisters,
          UInt8.ofNat (2 * qty.toNat)] ++ other)),
        hi (mbRtuComputeCrc16 ([ctx.unitId, modbusFuncReadHoldingRegisters,
          UInt8.ofNat (2 * qty.toNat)] ++ other))] values rfl count
    refine ⟨values, ?_, count, wire⟩
    rw [← answered.reply, answers.reply, readReply, appendCrc, List.append_assoc, ← wire]
    rw [← wire] at registers
    exact congrArg some registers
  · have none_answers : ¬ ∃ data, ReadAnswered ctx addr qty port data := by
      rintro ⟨data, answered⟩
      exact unanswered data answered
    exact ⟨iff_of_false failed none_answers,
      fun data answered => absurd answered (unanswered data), fun _ => untouched⟩

/-- One register, its reply in two pieces and a byte behind it. -/
theorem rtuRead_accepts_pieces :
    (mbRtuClientReadHoldingRegisters ⟨true, 1⟩ 0x2000 1 ⟨fun req => req.length,
      [.data [1, 3, 2], .data ((readReply 1 1 [0, 5]).drop 3 ++ [9])]⟩).1 = clientOk :=
  (rtuRead_accepts ⟨true, 1⟩ 0x2000 1 (by decide) (by decide) _).1.mpr
    ⟨[0, 5], rfl, rfl, by decide, rfl, by decide +kernel⟩

end Rs485Gateway
