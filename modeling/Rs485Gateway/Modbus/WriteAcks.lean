import Rs485Gateway.Modbus.Agreement

namespace Rs485Gateway

/-- The normal reply to a write: its function code, address and value or quantity. -/
def ModbusRequest.ack (req : ModbusRequest) : Bytes := (ModbusReply.normal []).pdu req

def RtuConfirms (ctx : RtuClientCtx) (req : ModbusRequest) (reply : Bytes) : Prop :=
  ∀ port : SerialPort, arrived port.events = reply → (rtuCall ctx port req).1 = clientOk →
    (reply.drop 1).take 5 = req.ack

def TcpConfirms (ctx : TcpClientCtx) (req : ModbusRequest) (reply : Bytes) : Prop :=
  ∀ (socket : TcpSocket) (stale : Bytes), socket.incoming = reply →
    (tcpCall ctx socket stale req).result = mbTcpClientOk → (reply.drop 7).take 5 = req.ack

/-- A whole frame of this unit and function about something else than the request. -/
structure RtuMisleads (unitId : UInt8) (req : ModbusRequest) (reply : Bytes) : Prop where
  whole : 8 ≤ reply.length
  crc : verifyResponseCrc (reply.take 8) = true
  unit : reply.getD 0 0 = unitId
  fc : reply.getD 1 0 = req.fc
  differs : (reply.drop 2).take 4 ≠ req.ack.drop 1

/-- A whole ADU of this transaction that is an exception with code byte 0, or an answer to
this function about something else than the request. -/
structure TcpMisleads (tid : UInt16) (req : ModbusRequest) (reply : Bytes) : Prop where
  sized : 3 ≤ mbapRemaining reply ∧ mbapRemaining reply ≤ 254
  whole : modbusTcpMbapHeaderLen + mbapRemaining reply ≤ reply.length
  tid : word (reply.getD 0 0) (reply.getD 1 0) = tid
  kind : reply.getD 7 0 &&& modbusExceptionFlag ≠ 0 ∧ reply.getD 8 0 = 0 ∨
    reply.getD 7 0 = req.fc ∧ 6 ≤ mbapRemaining reply ∧ (reply.drop 8).take 4 ≠ req.ack.drop 1

section Acks

variable {req : ModbusRequest}

theorem ack_eq (write : req.IsWrite) : req.ack = req.fc :: req.ack.drop 1 := by
  obtain ⟨echo, reply, -⟩ := pdu_write write []
  rw [ModbusRequest.ack, reply]
  rfl

theorem drop_take (bytes : Bytes) {i n : Nat} (inside : i < bytes.length) :
    (bytes.drop i).take (n + 1) = bytes.getD i 0 :: (bytes.drop (i + 1)).take n := by
  rw [List.drop_eq_getElem_cons inside, List.take_succ_cons, List.getD_eq_getElem _ _ inside]

theorem take_getD (bytes : Bytes) {i n : Nat} (inside : i < n) :
    (bytes.take n).getD i 0 = bytes.getD i 0 := by
  rw [List.getD_eq_getElem?_getD, List.getElem?_take_of_lt inside, List.getD_eq_getElem?_getD]

end Acks

section Rtu

variable {ctx : RtuClientCtx} {port : SerialPort} {fc : UInt8} {req : Bytes} {n : Nat}

theorem judgeResponse_ok {resp : Bytes} (plain : resp.getD 1 0 &&& modbusExceptionFlag = 0) :
    judgeResponse ctx resp = clientOk ↔
      verifyResponseCrc resp = true ∧ resp.getD 0 0 = ctx.unitId := by
  have crcCode : mbRtuClientErrCrc ≠ clientOk := by decide
  have frameCode : mbRtuClientErrFrame ≠ clientOk := by decide
  rw [judgeResponse]
  by_cases crc : verifyResponseCrc resp = true
  · by_cases unit : resp.getD 0 0 = ctx.unitId
    · rw [if_neg (not_not.mpr crc), if_neg (not_not.mpr unit), if_neg (not_not.mpr plain)]
      simp only [crc, unit, and_self]
    · rw [if_neg (not_not.mpr crc), if_pos unit]
      simp only [frameCode, unit, and_false]
  · rw [if_pos crc]
    simp [crcCode, crc]

theorem rtuWrite_ok (plain : fc &&& modbusExceptionFlag = 0) (counted : 2 ≤ n) :
    rtuWrite ctx port fc req n = clientOk ↔
      port.write req = req.length ∧ n ≤ (arrived port.events).length ∧
        verifyResponseCrc ((arrived port.events).take n) = true ∧
          (arrived port.events).getD 0 0 = ctx.unitId ∧ (arrived port.events).getD 1 0 = fc := by
  by_cases written : port.write req = req.length
  · rcases Nat.lt_or_ge (arrived port.events).length n with short | enough
    · have failed := @rtuWrite_short ctx port fc req n (doTransaction_short short)
      constructor
      · intro ok
        rw [ok] at failed
        exact absurd failed (by decide)
      · rintro ⟨-, enough, -⟩
        exact absurd short (Nat.not_lt.mpr enough)
    · have first := @take_getD (arrived port.events) 0 n (by omega)
      have second := @take_getD (arrived port.events) 1 n (by omega)
      have frameCode : mbRtuClientErrFrame ≠ clientOk := by decide
      rw [rtuWrite, doTransaction_arrived written enough]
      simp only [second]
      by_cases echoes : (arrived port.events).getD 1 0 = fc
      · have judged := @judgeResponse_ok ctx ((arrived port.events).take n)
          (by rw [second, echoes, plain])
        rw [first] at judged
        simp only [echoes, ne_eq, not_true_eq_false, if_false, written, enough, true_and, and_true]
        split
        · rename_i ok
          exact ⟨fun _ => judged.mp ok, fun _ => rfl⟩
        · exact judged
      · simp only [echoes, ne_eq, not_false_eq_true, if_true, and_false, iff_false]
        split
        · exact frameCode
        · assumption
  · have failed : (doTransaction ctx port req n).1 < 0 := by
      rw [doTransaction, if_pos written]
      exact (by decide : mbRtuClientErrTransport < 0)
    have result := @rtuWrite_short ctx port fc req n failed
    constructor
    · intro ok
      rw [ok] at result
      exact absurd result (by decide)
    · rintro ⟨done, -⟩
      exact absurd done written

theorem rtuConfirms_iff {request : ModbusRequest} (write : request.IsWrite)
    (valid : request.Valid) (opened : ctx.opened = true) (reply : Bytes) :
    RtuConfirms ctx request reply ↔ ¬ RtuMisleads ctx.unitId request reply := by
  have cut (long : 8 ≤ reply.length) : (reply.drop 1).take 5 =
      reply.getD 1 0 :: (reply.drop 2).take 4 := drop_take reply (by omega)
  have plain := fc_plain request
  constructor
  · rintro confirms ⟨whole, crc, unit, fc, differs⟩
    obtain ⟨req, call⟩ := @rtuCall_write request ctx (answeringPort reply) write valid opened
    have nonempty : reply ≠ [] := by
      intro empty
      rw [empty] at whole
      exact absurd whole (by decide)
    have arrives : arrived (answeringPort reply).events = reply := by
      simp [answeringPort, arrived, nonempty]
    have ok := (@rtuWrite_ok ctx (answeringPort reply) request.fc req 8 plain (by decide)).mpr
      (by rw [arrives]; exact ⟨rfl, whole, crc, unit, fc⟩)
    have same := confirms (answeringPort reply) arrives ((congrArg Prod.fst call).trans ok)
    rw [cut whole, ack_eq write] at same
    exact differs (List.cons.inj same).2
  · rintro honest port rfl ok
    obtain ⟨req, call⟩ := @rtuCall_write request ctx port write valid opened
    rw [call] at ok
    obtain ⟨-, whole, crc, unit, fc⟩ := (rtuWrite_ok plain (by decide)).mp ok
    rw [cut whole, ack_eq write, fc]
    by_contra differs
    exact honest ⟨whole, crc, unit, fc, fun same => differs (congrArg _ same)⟩

end Rtu

section Tcp

variable {ctx : TcpClientCtx} {socket : TcpSocket} {stale : Bytes} {tid : UInt16} {fc : UInt8}

theorem validateWrite_ok {resp : Bytes} {totalLen : Nat}
    (plain : fc &&& modbusExceptionFlag = 0) :
    validateWriteResponse fc resp totalLen tid = mbTcpClientOk ↔
      minResponseLen ≤ totalLen ∧ word (resp.getD 0 0) (resp.getD 1 0) = tid ∧
        (resp.getD 7 0 &&& modbusExceptionFlag ≠ 0 ∧ resp.getD 8 0 = 0 ∨
          resp.getD 7 0 = fc ∧ fc16ResponseLen ≤ totalLen) := by
  have frameCode : mbTcpClientErrFrame ≠ mbTcpClientOk := by decide
  have tidCode : mbTcpClientErrTid ≠ mbTcpClientOk := by decide
  rw [validateWriteResponse]
  by_cases long : minResponseLen ≤ totalLen
  · rw [if_neg (Nat.not_lt.mpr long)]
    by_cases same : word (resp.getD 0 0) (resp.getD 1 0) = tid
    · rw [if_neg (not_not.mpr same)]
      simp only [long, same, true_and]
      by_cases flagged : resp.getD 7 0 &&& modbusExceptionFlag = 0
      · rw [if_neg (not_not.mpr flagged)]
        by_cases full : fc16ResponseLen ≤ totalLen
        · rw [if_neg (Nat.not_lt.mpr full)]
          by_cases echoes : resp.getD 7 0 = fc
          · simp only [echoes, full, ne_eq, not_true_eq_false, if_false, and_self, or_true]
          · simp only [echoes, flagged, frameCode, ne_eq, not_true_eq_false, not_false_eq_true,
              if_true, false_and, or_self]
        · rw [if_pos (Nat.not_le.mp full)]
          simp only [flagged, full, frameCode, ne_eq, not_true_eq_false, false_and, and_false,
            or_self]
      · have other : resp.getD 7 0 ≠ fc := by
          intro echoes
          rw [echoes] at flagged
          exact flagged plain
        rw [if_pos flagged]
        simp only [ne_eq, flagged, not_false_eq_true, other, true_and, false_and, or_false]
        constructor
        · intro zero
          exact UInt8.toNat_inj.mp (Int.ofNat.inj zero)
        · intro zero
          rw [zero]
          rfl
    · rw [if_pos same]
      simp only [tidCode, same, false_and, and_false]
  · rw [if_pos (Nat.not_le.mp long)]
    simp only [frameCode, long, false_and]

theorem tcpTransaction_ok {req : Bytes} {judge : Bytes → Nat → ClientOutcome} :
    (tcpTransaction tid req socket stale judge).result = mbTcpClientOk ↔
      socket.send req = req.length ∧ (recvResponse socket modbusTcpMaxAduLength).rc = 0 ∧
        (judge (overwrite stale (recvResponse socket modbusTcpMaxAduLength).got)
          (recvResponse socket modbusTcpMaxAduLength).got.length).1 = mbTcpClientOk := by
  have transportCode : mbTcpClientErrTransport ≠ mbTcpClientOk := by decide
  rw [tcpTransaction]
  by_cases sent : socket.send req = req.length
  · rw [if_neg (not_not.mpr sent)]
    by_cases received : (recvResponse socket modbusTcpMaxAduLength).rc = 0
    · simp only [received, sent, ne_eq, not_true_eq_false, if_false, true_and]
    · have failed := recvErrToClientErr_ne (recvResponse socket modbusTcpMaxAduLength).rc
      simp only [received, ne_eq, not_false_eq_true, if_true, false_and, and_false, failed]
  · rw [if_pos sent]
    simp only [transportCode, sent, false_and]

theorem overwrite_getD {incoming : Bytes} {i total : Nat} (inside : i < total)
    (there : total ≤ incoming.length) :
    (overwrite stale (incoming.take total)).getD i 0 = incoming.getD i 0 := by
  rw [overwrite, List.getD_append _ _ _ _ (by rw [List.length_take]; omega), take_getD _ inside]

theorem tcpCall_write_ok {request : ModbusRequest} (write : request.IsWrite)
    (valid : request.Valid) (connected : ctx.connected = true)
    (ok : (tcpCall ctx socket stale request).result = mbTcpClientOk) :
    (3 ≤ mbapRemaining socket.incoming ∧ mbapRemaining socket.incoming ≤ 254) ∧
      modbusTcpMbapHeaderLen + mbapRemaining socket.incoming ≤ socket.incoming.length ∧
      word (socket.incoming.getD 0 0) (socket.incoming.getD 1 0) = nextTid ctx.tid ∧
      (socket.incoming.getD 7 0 &&& modbusExceptionFlag ≠ 0 ∧ socket.incoming.getD 8 0 = 0 ∨
        socket.incoming.getD 7 0 = request.fc ∧ 6 ≤ mbapRemaining socket.incoming) := by
  obtain ⟨req, call⟩ := @tcpCall_write request ctx socket stale write valid connected
  rw [call] at ok
  obtain ⟨-, received, judged⟩ := tcpTransaction_ok.mp ok
  obtain ⟨-, fits, there, got, -⟩ := recvResponse_ok received
  obtain ⟨long, same, kind⟩ := (validateWrite_ok (fc_plain request)).mp judged
  have bytes (i : Nat) (inside : i < modbusTcpMbapHeaderLen + mbapRemaining socket.incoming) :=
    @overwrite_getD stale socket.incoming i _ inside there
  rw [got, List.length_take_of_le there] at long kind
  simp only [minResponseLen, fc16ResponseLen, modbusTcpMbapHeaderLen, modbusTcpMaxAduLength] at *
  rw [got, bytes 0 (by omega), bytes 1 (by omega)] at same
  rw [bytes 7 (by omega), bytes 8 (by omega)] at kind
  exact ⟨by omega, there, same, kind.imp_right fun answer => ⟨answer.1, by omega⟩⟩

theorem tcpConfirms_iff {request : ModbusRequest} (write : request.IsWrite)
    (valid : request.Valid) (connected : ctx.connected = true) (reply : Bytes) :
    TcpConfirms ctx request reply ↔ ¬ TcpMisleads (nextTid ctx.tid) request reply := by
  have plain := fc_plain request
  have cut (long : 7 < reply.length) : (reply.drop 7).take 5 =
      reply.getD 7 0 :: (reply.drop 8).take 4 := drop_take reply long
  have start := ack_eq write
  constructor
  · rintro confirms ⟨⟨counted, few⟩, whole, same, kind⟩
    have ok : (tcpCall ctx (answeringSocket reply) [] request).result = mbTcpClientOk := by
      have received := @recvResponse_data (answeringSocket reply) modbusTcpMaxAduLength
        (fun _ => ⟨260, rfl⟩) (by change mbapRemaining reply ≠ 0; omega) few whole
      obtain ⟨-, -, there, got, -⟩ := recvResponse_ok received
      obtain ⟨req, call⟩ :=
        @tcpCall_write request ctx (answeringSocket reply) [] write valid connected
      have bytes (i : Nat) (inside : i < modbusTcpMbapHeaderLen + mbapRemaining reply) :=
        @overwrite_getD [] reply i _ inside whole
      rw [call, tcpTransaction_ok]
      refine ⟨rfl, received, (validateWrite_ok plain).mpr ?_⟩
      change (recvResponse (answeringSocket reply) modbusTcpMaxAduLength).got =
        reply.take (modbusTcpMbapHeaderLen + mbapRemaining reply) at got
      simp only [modbusTcpMbapHeaderLen] at got bytes whole
      rw [got, List.length_take_of_le whole, bytes 0 (by omega), bytes 1 (by omega),
        bytes 7 (by omega), bytes 8 (by omega)]
      simp only [minResponseLen, fc16ResponseLen]
      exact ⟨by omega, same, kind.imp_right fun answer => ⟨answer.1, by omega⟩⟩
    have acked := confirms (answeringSocket reply) [] rfl ok
    simp only [modbusTcpMbapHeaderLen] at whole
    rw [cut (by omega), start] at acked
    obtain ⟨echoes, rest⟩ := List.cons.inj acked
    rcases kind with ⟨flagged, -⟩ | ⟨-, -, differs⟩
    · rw [echoes] at flagged
      exact flagged plain
    · exact differs rest
  · rintro honest socket stale rfl ok
    obtain ⟨sized, whole, same, kind⟩ := tcpCall_write_ok write valid connected ok
    by_contra differs
    refine honest ⟨sized, whole, same, kind.imp_right fun answer => ⟨answer.1, answer.2, ?_⟩⟩
    intro rest
    simp only [modbusTcpMbapHeaderLen] at whole
    rw [cut (by omega), start, answer.1, rest] at differs
    exact differs rfl

end Tcp

/-- On either transport a write is confirmed by nothing but its acknowledgement, unless the
reply misleads it. -/
theorem writes_confirmed (request : ModbusRequest) (write : request.IsWrite)
    (valid : request.Valid) (rtu : RtuClientCtx) (opened : rtu.opened = true)
    (tcp : TcpClientCtx) (connected : tcp.connected = true) (reply : Bytes) :
    (RtuConfirms rtu request reply ↔ ¬ RtuMisleads rtu.unitId request reply) ∧
      (TcpConfirms tcp request reply ↔ ¬ TcpMisleads (nextTid tcp.tid) request reply) :=
  ⟨rtuConfirms_iff write valid opened reply, tcpConfirms_iff write valid connected reply⟩

def singleWrite : ModbusRequest := .writeSingle 0x2000 1

theorem writes_confirmed_echo :
    RtuConfirms ⟨true, 1⟩ singleWrite (rtuFrame 1 singleWrite.ack) := by
  refine (writes_confirmed singleWrite trivial trivial ⟨true, 1⟩ rfl ⟨true, 1, 0⟩ rfl _).1.mpr ?_
  rintro ⟨-, -, -, -, differs⟩
  revert differs
  decide +kernel

/-- The late acknowledgement of another command on the serial line, and an exception with
code byte 0 over TCP. -/
theorem write_confirmed_by_other :
    ¬ RtuConfirms ⟨true, 1⟩ singleWrite (rtuFrame 1 [6, 0x20, 0x01, 0x01, 0xF4]) ∧
      ¬ TcpConfirms ⟨true, 1, 0⟩ singleWrite (tcpAdu 1 1 [0x86, 0]) := by
  constructor
  · intro confirms
    have late := confirms (answeringPort (rtuFrame 1 [6, 0x20, 0x01, 0x01, 0xF4]))
      (by decide +kernel) (by decide +kernel)
    revert late
    decide +kernel
  · intro confirms
    have refused := confirms (answeringSocket (tcpAdu 1 1 [0x86, 0])) [] rfl (by decide +kernel)
    revert refused
    decide +kernel

end Rs485Gateway
