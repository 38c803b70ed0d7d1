import Rs485Gateway.Modbus.RtuClient
import Rs485Gateway.Modbus.TcpClient

namespace Rs485Gateway

inductive ModbusRequest where
  | readHolding (addr qty : UInt16)
  | writeSingle (addr value : UInt16)
  | writeMultiple (addr : UInt16) (data : List UInt16)

def ModbusRequest.Valid : ModbusRequest → Prop
  | readHolding _ qty => qty ≠ 0 ∧ qty.toNat ≤ modbusMaxReadRegisters
  | writeSingle _ _ => True
  | writeMultiple _ data => data ≠ [] ∧ data.length ≤ modbusMaxWriteRegisters

def ModbusRequest.fc : ModbusRequest → UInt8
  | readHolding _ _ => modbusFuncReadHoldingRegisters
  | writeSingle _ _ => modbusFuncWriteSingleRegister
  | writeMultiple _ _ => modbusFuncWriteMultipleRegisters

/-- What a server has to say: the registers of a read, nothing for a write, or an
exception code. -/
inductive ModbusReply where
  | normal (values : List UInt16)
  | exception (code : UInt8)

def ModbusReply.Conforms : ModbusReply → ModbusRequest → Prop
  | normal values, .readHolding _ qty => values.length = qty.toNat
  | normal values, _ => values = []
  | exception code, _ => code ≠ 0

def quantity (data : List UInt16) : UInt16 := UInt16.ofNat data.length

def ModbusReply.pdu : ModbusReply → ModbusRequest → Bytes
  | normal values, .readHolding _ qty =>
      [modbusFuncReadHoldingRegisters, (qty * 2).toUInt8] ++ bigEndian values
  | normal _, .writeSingle addr value =>
      [modbusFuncWriteSingleRegister, hi addr, lo addr, hi value, lo value]
  | normal _, .writeMultiple addr data =>
      [modbusFuncWriteMultipleRegisters, hi addr, lo addr, hi (quantity data), lo (quantity data)]
  | exception code, req => [req.fc ||| modbusExceptionFlag, code]

def rtuFrame (unitId : UInt8) (pdu : Bytes) : Bytes := appendCrc (unitId :: pdu)

def tcpAdu (tid : UInt16) (unitId : UInt8) (pdu : Bytes) : Bytes :=
  mbapHeader tid (UInt16.ofNat (pdu.length + 1)) ++ unitId :: pdu

abbrev ClientOutcome := Int × Option (List UInt16)

def rtuCall (ctx : RtuClientCtx) (port : SerialPort) : ModbusRequest → ClientOutcome
  | .readHolding addr qty => mbRtuClientReadHoldingRegisters ctx addr qty port
  | .writeSingle addr value => (mbRtuClientWriteSingleRegister ctx addr value port, none)
  | .writeMultiple addr data =>
      (mbRtuClientWriteMultipleRegisters ctx addr (quantity data) data port, none)

def tcpCall (ctx : TcpClientCtx) (socket : TcpSocket) (stale : Bytes) : ModbusRequest → TcpCall
  | .readHolding addr qty => mbTcpClientReadHoldingRegisters ctx addr qty socket stale
  | .writeSingle addr value => mbTcpClientWriteSingleRegister ctx addr value socket stale
  | .writeMultiple addr data =>
      mbTcpClientWriteMultipleRegisters ctx addr (quantity data) data socket stale

/-- What both headers document for a reply. -/
def ModbusReply.outcome : ModbusReply → ModbusRequest → ClientOutcome
  | normal values, .readHolding _ _ => (clientOk, some values)
  | normal _, _ => (clientOk, none)
  | exception code, _ => ((code.toNat : Int), none)

structure FrameArrives (ctx : RtuClientCtx) (port : SerialPort) (pdu : Bytes) : Prop where
  opened : ctx.opened = true
  written : ∀ req, port.write req = req.length
  arrives : arrived port.events = rtuFrame ctx.unitId pdu
  silence : stopOf port.events = .timeout

structure AduArrives (ctx : TcpClientCtx) (socket : TcpSocket) (pdu : Bytes) : Prop where
  connected : ctx.connected = true
  sent : ∀ req, socket.send req = req.length
  arrives : socket.incoming = tcpAdu (nextTid ctx.tid) ctx.unitId pdu
  brings : ∀ j, ∃ n, socket.outcome j = .data n

section Requests

variable {req : ModbusRequest}

theorem quantity_toNat {data : List UInt16} (few : data.length ≤ modbusMaxWriteRegisters) :
    (quantity data).toNat = data.length :=
  UInt16.toNat_ofNat_of_lt' (few.trans_lt (by decide))

theorem quantity_ok {data : List UInt16} (nonempty : data ≠ [])
    (few : data.length ≤ modbusMaxWriteRegisters) :
    ¬ (quantity data = 0 ∨ (quantity data).toNat > modbusMaxWriteRegisters) := by
  have size := quantity_toNat few
  rintro (zero | many)
  · rw [zero] at size
    exact nonempty (List.eq_nil_of_length_eq_zero size.symm)
  · omega

theorem read_ok {qty : UInt16} (counted : qty ≠ 0) (few : qty.toNat ≤ modbusMaxReadRegisters) :
    ¬ (qty = 0 ∨ qty.toNat > modbusMaxReadRegisters) := by
  rintro (zero | many)
  · exact counted zero
  · exact absurd few (Nat.not_le.mpr many)

def ModbusRequest.IsWrite : ModbusRequest → Prop
  | readHolding _ _ => False
  | _ => True

theorem fc_plain (req : ModbusRequest) : req.fc &&& modbusExceptionFlag = 0 := by
  cases req <;> simp only [ModbusRequest.fc] <;> decide

theorem fc_flagged (req : ModbusRequest) :
    (req.fc ||| modbusExceptionFlag) &&& modbusExceptionFlag ≠ 0 := by
  cases req <;> simp only [ModbusRequest.fc] <;> decide

theorem pdu_write (write : req.IsWrite) (values : List UInt16) :
    ∃ echo, (ModbusReply.normal values).pdu req = req.fc :: echo ∧ echo.length = 4 := by
  cases req with
  | readHolding => exact absurd write id
  | writeSingle => exact ⟨_, rfl, rfl⟩
  | writeMultiple => exact ⟨_, rfl, rfl⟩

theorem write_or_read (req : ModbusRequest) :
    req.IsWrite ∨ ∃ addr qty, req = .readHolding addr qty := by
  cases req with
  | readHolding addr qty => exact .inr ⟨addr, qty, rfl⟩
  | writeSingle => exact .inl trivial
  | writeMultiple => exact .inl trivial

theorem outcome_write (write : req.IsWrite) (values : List UInt16) :
    (ModbusReply.normal values).outcome req = (clientOk, none) := by
  cases req with
  | readHolding => exact absurd write id
  | writeSingle => rfl
  | writeMultiple => rfl

theorem rtuCall_write {ctx : RtuClientCtx} {port : SerialPort} (write : req.IsWrite)
    (valid : req.Valid) (opened : ctx.opened = true) :
    ∃ frame : Bytes, rtuCall ctx port req = (rtuWrite ctx port req.fc frame 8, none) := by
  cases req with
  | readHolding => exact absurd write id
  | writeSingle addr value =>
      refine ⟨rtuWriteSingleRequest ctx.unitId addr value, ?_⟩
      rw [rtuCall, mbRtuClientWriteSingleRegister, if_neg (by simp [opened])]
      simp [ModbusRequest.fc, rtuWriteSingleRequest, appendCrc_length, appendUint16Be]
  | writeMultiple addr data =>
      obtain ⟨nonempty, few⟩ := valid
      refine ⟨rtuWriteMultipleRequest ctx.unitId addr (quantity data) data, ?_⟩
      rw [rtuCall, mbRtuClientWriteMultipleRegisters, if_neg (quantity_ok nonempty few),
        if_neg (by simp [opened])]
      rfl

theorem tcpCall_write {ctx : TcpClientCtx} {socket : TcpSocket} {stale : Bytes}
    (write : req.IsWrite) (valid : req.Valid) (connected : ctx.connected = true) :
    ∃ adu : Bytes, tcpCall ctx socket stale req =
      tcpTransaction (nextTid ctx.tid) adu socket stale fun resp totalLen =>
        (validateWriteResponse req.fc resp totalLen (nextTid ctx.tid), none) := by
  cases req with
  | readHolding => exact absurd write id
  | writeSingle addr value =>
      refine ⟨buildFc06Request (nextTid ctx.tid) ctx.unitId addr value, ?_⟩
      rw [tcpCall, mbTcpClientWriteSingleRegister, if_neg (by simp [connected])]
      rfl
  | writeMultiple addr data =>
      obtain ⟨nonempty, few⟩ := valid
      refine ⟨buildFc16Request (nextTid ctx.tid) ctx.unitId addr (quantity data) data, ?_⟩
      rw [tcpCall, mbTcpClientWriteMultipleRegisters, if_neg (quantity_ok nonempty few),
        if_neg (by simp [connected])]
      rfl

end Requests

section Rtu

variable {ctx : RtuClientCtx} {port : SerialPort} {pdu : Bytes}

theorem rtuFrame_length (unitId : UInt8) (pdu : Bytes) :
    (rtuFrame unitId pdu).length = pdu.length + 3 := by
  rw [rtuFrame, appendCrc_length, List.length_cons]

/-- A frame of the expected length is judged by its function code alone. -/
theorem doTransaction_frame (arrives : FrameArrives ctx port pdu) (req : Bytes) {n : Nat}
    (size : n = pdu.length + 3) :
    doTransaction ctx port req n =
      (judgeResponse ctx (rtuFrame ctx.unitId pdu), rtuFrame ctx.unitId pdu) := by
  have length_eq := rtuFrame_length ctx.unitId pdu
  have whole := @doTransaction_arrived ctx port req n (arrives.written req)
    (by rw [arrives.arrives, length_eq, size])
  rwa [arrives.arrives, List.take_of_length_le (by omega)] at whole

theorem judgeResponse_frame {fc : UInt8} {rest : Bytes} (plain : fc &&& modbusExceptionFlag = 0) :
    judgeResponse ctx (rtuFrame ctx.unitId (fc :: rest)) = clientOk := by
  rw [judgeResponse, rtuFrame, verify_appendCrc]
  simp [appendCrc, plain]

theorem doTransaction_frame_short (arrives : FrameArrives ctx port pdu) (req : Bytes) {n : Nat}
    (short : pdu.length + 3 < n) : (doTransaction ctx port req n).1 < 0 := by
  apply doTransaction_short
  rwa [arrives.arrives, rtuFrame_length]

theorem rtuWrite_frame (arrives : FrameArrives ctx port pdu) {fc : UInt8} {rest : Bytes}
    (reply : pdu = fc :: rest) (plain : fc &&& modbusExceptionFlag = 0) (req : Bytes) {n : Nat}
    (size : n = pdu.length + 3) : rtuWrite ctx port fc req n = clientOk := by
  subst reply
  rw [rtuWrite, doTransaction_frame arrives req size, judgeResponse_frame plain]
  simp [rtuFrame, appendCrc]

theorem rtuWrite_short {fc : UInt8} {req : Bytes} {n : Nat}
    (failed : (doTransaction ctx port req n).1 < 0) : rtuWrite ctx port fc req n < 0 := by
  have notOk : (doTransaction ctx port req n).1 ≠ clientOk := failed.ne
  rw [rtuWrite]
  simp only [if_neg notOk]
  exact failed

theorem rtuCall_normal {req : ModbusRequest} (valid : req.Valid) {values : List UInt16}
    (conforms : (ModbusReply.normal values).Conforms req)
    (arrives : FrameArrives ctx port ((ModbusReply.normal values).pdu req)) :
    rtuCall ctx port req = (ModbusReply.normal values).outcome req := by
  rcases write_or_read req with write | ⟨addr, qty, rfl⟩
  · obtain ⟨frame, call⟩ := @rtuCall_write req ctx port write valid arrives.opened
    obtain ⟨echo, reply, size⟩ := pdu_write write values
    have done := rtuWrite_frame arrives reply (fc_plain req) frame
      (n := 8) (by rw [reply, List.length_cons, size])
    rw [call, done, outcome_write write]
  · obtain ⟨counted, few⟩ := valid
    have size : values.length = qty.toNat := conforms
    have read := doTransaction_frame arrives (rtuReadRequest ctx.unitId addr qty)
      (n := 1 + 1 + 1 + qty.toNat * 2 + modbusRtuCrcLen) (by
        simp only [ModbusReply.pdu, List.length_append, List.length_cons, List.length_nil,
          bigEndian_length, modbusRtuCrcLen, size]
        omega)
    have plain : judgeResponse ctx (rtuFrame ctx.unitId
        ((ModbusReply.normal values).pdu (.readHolding addr qty))) = clientOk :=
      judgeResponse_frame (by decide)
    have registers : registersAt (rtuFrame ctx.unitId
        ((ModbusReply.normal values).pdu (.readHolding addr qty))) 3 qty.toNat = values := by
      have back := registersAt_bigEndian
        [ctx.unitId, modbusFuncReadHoldingRegisters, (qty * 2).toUInt8]
        [lo (mbRtuComputeCrc16 (ctx.unitId :: (ModbusReply.normal values).pdu
            (.readHolding addr qty))),
          hi (mbRtuComputeCrc16 (ctx.unitId :: (ModbusReply.normal values).pdu
            (.readHolding addr qty)))] values rfl size
      simpa [rtuFrame, appendCrc, ModbusReply.pdu] using back
    rw [rtuCall, mbRtuClientReadHoldingRegisters, if_neg (read_ok counted few),
      if_neg (by simp [arrives.opened])]
    simp only [read, plain, registers]
    simp [rtuFrame, appendCrc, ModbusReply.pdu, ModbusReply.outcome]

/-- An exception reply is shorter than what is waited for. -/
theorem rtuCall_exception {req : ModbusRequest} (valid : req.Valid) {code : UInt8}
    (arrives : FrameArrives ctx port ((ModbusReply.exception code).pdu req)) :
    (rtuCall ctx port req).1 < 0 := by
  have size : ((ModbusReply.exception code).pdu req).length = 2 := rfl
  rcases write_or_read req with write | ⟨addr, qty, rfl⟩
  · obtain ⟨frame, call⟩ := @rtuCall_write req ctx port write valid arrives.opened
    rw [call]
    exact rtuWrite_short (doTransaction_frame_short arrives frame (by rw [size]; decide))
  · obtain ⟨counted, few⟩ := valid
    have pos : 0 < qty.toNat :=
      Nat.pos_of_ne_zero fun zero => counted (UInt16.toNat_inj.mp zero)
    have failed := doTransaction_frame_short arrives (rtuReadRequest ctx.unitId addr qty)
      (n := 1 + 1 + 1 + qty.toNat * 2 + modbusRtuCrcLen) (by
        simp only [size, modbusRtuCrcLen]
        omega)
    have notOk : _ ≠ clientOk := failed.ne
    rw [rtuCall, mbRtuClientReadHoldingRegisters, if_neg (read_ok counted few),
      if_neg (by simp [arrives.opened])]
    simp only [if_neg notOk]
    exact failed

end Rtu

section Tcp

variable {ctx : TcpClientCtx} {socket : TcpSocket} {stale pdu : Bytes}

theorem tcpAdu_length (tid : UInt16) (unitId : UInt8) (pdu : Bytes) :
    (tcpAdu tid unitId pdu).length = modbusTcpMbapHeaderLen + (pdu.length + 1) := by
  simp only [tcpAdu, mbapHeader, List.length_append, List.length_cons, List.length_nil,
    modbusTcpMbapHeaderLen]

theorem mbapRemaining_adu {tid : UInt16} {unitId : UInt8} (few : pdu.length ≤ 253) (rest : Bytes) :
    mbapRemaining (tcpAdu tid unitId pdu ++ rest) = pdu.length + 1 := by
  have bound : pdu.length + 1 < UInt16.size :=
    (Nat.succ_le_succ few).trans_lt (by decide)
  calc
    mbapRemaining (tcpAdu tid unitId pdu ++ rest) =
        (word (hi (UInt16.ofNat (pdu.length + 1))) (lo (UInt16.ofNat (pdu.length + 1)))).toNat := by
      simp [mbapRemaining, tcpAdu, mbapHeader]
    _ = pdu.length + 1 := by rw [word_hi_lo, UInt16.toNat_ofNat_of_lt' bound]

/-- One ADU is received whole, judged with only what was stale behind it, and what comes after
it stays in the stream. -/
theorem tcpTransaction_front {tid : UInt16} {unitId : UInt8} {next req : Bytes}
    (sent : socket.send req = req.length) (brings : ∀ j, ∃ n, socket.outcome j = .data n)
    (arrives : socket.incoming = tcpAdu tid unitId pdu ++ next) (few : pdu.length ≤ 253)
    (own : UInt16) (stale : Bytes) (judge : Bytes → Nat → ClientOutcome) :
    let adu := tcpAdu tid unitId pdu
    tcpTransaction own req socket stale judge =
      ⟨(judge (adu ++ stale.drop adu.length) adu.length).1,
        (judge (adu ++ stale.drop adu.length) adu.length).2, own, next⟩ := by
  have remaining : mbapRemaining socket.incoming = pdu.length + 1 := by
    rw [arrives]
    exact mbapRemaining_adu few next
  have total : modbusTcpMbapHeaderLen + (pdu.length + 1) = (tcpAdu tid unitId pdu).length :=
    (tcpAdu_length tid unitId pdu).symm
  have fits : pdu.length + 1 ≤ modbusTcpMaxAduLength - modbusTcpMbapHeaderLen :=
    Nat.succ_le_succ few
  have there : (tcpAdu tid unitId pdu).length ≤ socket.incoming.length := by
    rw [arrives, List.length_append]
    exact Nat.le_add_right _ _
  have ok := @recvResponse_data socket modbusTcpMaxAduLength brings (by omega) (by omega)
    (by rwa [remaining, total])
  rcases recvResponse_ok ok with ⟨-, -, -, got, rest⟩
  rw [remaining, total, arrives, List.take_left] at got
  rw [remaining, total, arrives, List.drop_left] at rest
  rw [tcpTransaction, if_neg (not_not.mpr sent)]
  simp only [ok, got, rest, overwrite, ne_eq, not_true_eq_false, if_false]

theorem tcpTransaction_adu (arrives : AduArrives ctx socket pdu) (few : pdu.length ≤ 253)
    (req stale : Bytes) (judge : Bytes → Nat → ClientOutcome) :
    let adu := tcpAdu (nextTid ctx.tid) ctx.unitId pdu
    tcpTransaction (nextTid ctx.tid) req socket stale judge =
      ⟨(judge (adu ++ stale.drop adu.length) adu.length).1,
        (judge (adu ++ stale.drop adu.length) adu.length).2, nextTid ctx.tid, []⟩ := by
  have whole : socket.incoming = tcpAdu (nextTid ctx.tid) ctx.unitId pdu ++ [] := by
    rw [arrives.arrives, List.append_nil]
  exact tcpTransaction_front (arrives.sent req) arrives.brings whole few _ stale judge

theorem validateWrite_normal {tid : UInt16} {unitId fc : UInt8} {rest : Bytes}
    (reply : pdu = fc :: rest) (size : rest.length = 4) (plain : fc &&& modbusExceptionFlag = 0) :
    validateWriteResponse fc (tcpAdu tid unitId pdu ++ stale) (tcpAdu tid unitId pdu).length tid =
      mbTcpClientOk := by
  subst reply
  have length_eq := tcpAdu_length tid unitId (fc :: rest)
  rw [List.length_cons, size] at length_eq
  rw [validateWriteResponse, length_eq]
  simp [tcpAdu, mbapHeader, word_hi_lo, plain, minResponseLen, fc16ResponseLen,
    modbusTcpMbapHeaderLen]

theorem validateWrite_exception {tid : UInt16} {unitId fc code : UInt8} {stale : Bytes}
    (req : ModbusRequest) :
    validateWriteResponse fc (tcpAdu tid unitId [req.fc ||| modbusExceptionFlag, code] ++ stale)
      (tcpAdu tid unitId [req.fc ||| modbusExceptionFlag, code]).length tid = code.toNat := by
  have flagged := fc_flagged req
  have length_eq := tcpAdu_length tid unitId [req.fc ||| modbusExceptionFlag, code]
  rw [validateWriteResponse, length_eq]
  simp [tcpAdu, mbapHeader, word_hi_lo, flagged, minResponseLen, modbusTcpMbapHeaderLen]

theorem judgeRead_normal {tid addr qty : UInt16} {unitId : UInt8} {values : List UInt16}
    (size : values.length = qty.toNat) :
    let pdu := (ModbusReply.normal values).pdu (.readHolding addr qty)
    judgeReadResponse tid qty (tcpAdu tid unitId pdu ++ stale) (tcpAdu tid unitId pdu).length =
      (mbTcpClientOk, some values) := by
  intro pdu
  have length_eq := tcpAdu_length tid unitId pdu
  have registers : registersAt (tcpAdu tid unitId pdu ++ stale) fc03ResponseHeaderLen qty.toNat =
      values := by
    have back := registersAt_bigEndian (mbapHeader tid (UInt16.ofNat (pdu.length + 1)) ++
      [unitId, modbusFuncReadHoldingRegisters, (qty * 2).toUInt8]) stale values rfl size
    have same : tcpAdu tid unitId pdu ++ stale = mbapHeader tid (UInt16.ofNat (pdu.length + 1)) ++
        [unitId, modbusFuncReadHoldingRegisters, (qty * 2).toUInt8] ++
        (bigEndian values ++ stale) := by
      simp only [tcpAdu, List.append_assoc]
      rfl
    rw [same]
    exact back
  have long : ¬ (tcpAdu tid unitId pdu).length < fc03ResponseHeaderLen := by
    rw [length_eq]
    simp only [pdu, ModbusReply.pdu, List.length_append, List.length_cons, modbusTcpMbapHeaderLen,
      fc03ResponseHeaderLen]
    omega
  have plain : modbusFuncReadHoldingRegisters &&& modbusExceptionFlag = 0 := by decide
  rw [judgeReadResponse, registers]
  simp only [if_neg long]
  simp [pdu, tcpAdu, mbapHeader, word_hi_lo, ModbusReply.pdu, plain]

theorem tcpCall_outcome {req : ModbusRequest} (valid : req.Valid) {reply : ModbusReply}
    (conforms : reply.Conforms req) (arrives : AduArrives ctx socket (reply.pdu req)) :
    ((tcpCall ctx socket stale req).result, (tcpCall ctx socket stale req).out) =
      reply.outcome req := by
  rcases write_or_read req with write | ⟨addr, qty, rfl⟩
  · obtain ⟨adu, call⟩ := @tcpCall_write req ctx socket stale write valid arrives.connected
    rw [call]
    cases reply with
    | normal values =>
        obtain ⟨echo, pdu_eq, size⟩ := pdu_write write values
        rw [tcpTransaction_adu arrives (by rw [pdu_eq, List.length_cons, size]; decide),
          outcome_write write]
        exact Prod.ext (validateWrite_normal pdu_eq size (fc_plain req)) rfl
    | exception code =>
        rw [tcpTransaction_adu arrives (by simp [ModbusReply.pdu])]
        exact Prod.ext (validateWrite_exception req) rfl
  · obtain ⟨counted, few⟩ := valid
    rw [tcpCall, mbTcpClientReadHoldingRegisters, if_neg (read_ok counted few),
      if_neg (by simp [arrives.connected])]
    cases reply with
    | normal values =>
        have size : values.length = qty.toNat := conforms
        rw [tcpTransaction_adu arrives (by
          simp only [ModbusReply.pdu, List.length_append, List.length_cons, List.length_nil,
            bigEndian_length, size]
          simp only [modbusMaxReadRegisters] at few
          omega)]
        exact judgeRead_normal size
    | exception code =>
        have flagged := fc_flagged (.readHolding addr qty)
        rw [tcpTransaction_adu arrives (by simp [ModbusReply.pdu])]
        simp [judgeReadResponse, ModbusReply.pdu, tcpAdu, mbapHeader, word_hi_lo, flagged,
          ModbusReply.outcome]

end Tcp

/-- Both transports report a reply as documented exactly when it is no exception. -/
theorem transports_agree (req : ModbusRequest) (valid : req.Valid) (reply : ModbusReply)
    (conforms : reply.Conforms req) (rtu : RtuClientCtx) (port : SerialPort) (tcp : TcpClientCtx)
    (socket : TcpSocket) (stale : Bytes) (frame : FrameArrives rtu port (reply.pdu req))
    (adu : AduArrives tcp socket (reply.pdu req)) :
    (rtuCall rtu port req = reply.outcome req ∧
        ((tcpCall tcp socket stale req).result, (tcpCall tcp socket stale req).out) =
          reply.outcome req) ↔
      ∃ values, reply = .normal values := by
  have overTcp := @tcpCall_outcome tcp socket stale req valid reply conforms adu
  cases reply with
  | normal values =>
      exact ⟨fun _ => ⟨values, rfl⟩, fun _ => ⟨rtuCall_normal valid conforms frame, overTcp⟩⟩
  | exception code =>
      have failed := rtuCall_exception valid frame
      constructor
      · rintro ⟨overRtu, -⟩
        rw [overRtu] at failed
        exact absurd failed (Int.not_lt.mpr (Int.natCast_nonneg code.toNat))
      · rintro ⟨values, same⟩
        cases same

def answeringPort (reply : Bytes) : SerialPort := ⟨fun req => req.length, [.data reply]⟩

def answeringSocket (reply : Bytes) : TcpSocket :=
  ⟨fun req => req.length, fun _ => .data 260, reply⟩

theorem answering_frame {ctx : RtuClientCtx} (opened : ctx.opened = true) (pdu : Bytes) :
    FrameArrives ctx (answeringPort (rtuFrame ctx.unitId pdu)) pdu where
  opened := opened
  written _ := rfl
  arrives := by
    have nonempty : rtuFrame ctx.unitId pdu ≠ [] := by simp [rtuFrame, appendCrc]
    simp [answeringPort, arrived, nonempty]
  silence := by
    have nonempty : rtuFrame ctx.unitId pdu ≠ [] := by simp [rtuFrame, appendCrc]
    simp [answeringPort, stopOf, nonempty]

theorem answering_adu {ctx : TcpClientCtx} (connected : ctx.connected = true) (pdu : Bytes) :
    AduArrives ctx (answeringSocket (tcpAdu (nextTid ctx.tid) ctx.unitId pdu)) pdu where
  connected := connected
  sent _ := rfl
  arrives := rfl
  brings _ := ⟨260, rfl⟩

def oneRegister : ModbusRequest := .readHolding 0x2000 1

theorem transports_agree_answered :
    rtuCall ⟨true, 1⟩ (answeringPort (rtuFrame 1 [3, 2, 0, 5])) oneRegister = (0, some [5]) := by
  have valid : oneRegister.Valid := ⟨by decide, by decide⟩
  have agree := (transports_agree oneRegister valid (.normal [5]) rfl ⟨true, 1⟩ _ ⟨true, 1, 0⟩ _ []
    (answering_frame rfl _) (answering_adu rfl _)).mpr ⟨[5], rfl⟩
  exact agree.1

/-- The same read refused with code 2: the serial client waits for two more bytes. -/
theorem transports_disagree : ¬ ∀ (req : ModbusRequest), req.Valid → ∀ reply : ModbusReply,
    reply.Conforms req → ∀ (rtu : RtuClientCtx) (port : SerialPort) (tcp : TcpClientCtx)
    (socket : TcpSocket) (stale : Bytes), FrameArrives rtu port (reply.pdu req) →
      AduArrives tcp socket (reply.pdu req) →
        rtuCall rtu port req = reply.outcome req ∧
          ((tcpCall tcp socket stale req).result, (tcpCall tcp socket stale req).out) =
            reply.outcome req := by
  intro claim
  have valid : oneRegister.Valid := ⟨by decide, by decide⟩
  have refused : (ModbusReply.exception 2).Conforms oneRegister := by
    intro zero
    cases zero
  have both := (claim oneRegister valid (.exception 2) refused ⟨true, 1⟩ _ ⟨true, 1, 0⟩ _ []
    (answering_frame rfl _) (answering_adu rfl _)).1
  revert both
  decide +kernel

end Rs485Gateway
