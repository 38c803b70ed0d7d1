import Rs485Gateway.Modbus.WriteAcks

namespace Rs485Gateway

def receivedAdu (socket : TcpSocket) : Bytes := (recvResponse socket modbusTcpMaxAduLength).got

structure FullReadReply (tid qty : UInt16) (adu : Bytes) : Prop where
  tid : word (adu.getD 0 0) (adu.getD 1 0) = tid
  fc : adu.getD 7 0 = modbusFuncReadHoldingRegisters
  byteCount : (adu.getD 8 0).toNat = 2 * qty.toNat
  enough : fc03ResponseHeaderLen + 2 * qty.toNat ≤ adu.length

/-- However these bytes come and whatever the buffer held, a read that succeeds gives the
registers of a whole reply, and one that does not leaves `out` as it is. -/
def ReadReports (ctx : TcpClientCtx) (addr qty : UInt16) (reply : Bytes) : Prop :=
  ∀ socket : TcpSocket, socket.incoming = reply → ∀ stale : Bytes,
    stale.length = modbusTcpMaxAduLength →
      let call := mbTcpClientReadHoldingRegisters ctx addr qty socket stale
      (call.result = mbTcpClientOk → FullReadReply (nextTid ctx.tid) qty (receivedAdu socket) ∧
          call.out = some (registersAt (receivedAdu socket) fc03ResponseHeaderLen qty.toNat)) ∧
        (call.result ≠ mbTcpClientOk → call.out = none) ∧
        ∀ other : Bytes, other.length = modbusTcpMaxAduLength →
          mbTcpClientReadHoldingRegisters ctx addr qty socket other = call

/-- An ADU of this transaction that ends before the bytes it is judged by, or an exception
with code byte 0. -/
structure ReadMisleads (ctx : TcpClientCtx) (qty : UInt16) (reply : Bytes) : Prop where
  asked : qty ≠ 0 ∧ qty.toNat ≤ modbusMaxReadRegisters
  connected : ctx.connected = true
  sized : 1 ≤ mbapRemaining reply ∧ mbapRemaining reply ≤ 254
  whole : modbusTcpMbapHeaderLen + mbapRemaining reply ≤ reply.length
  tid : word (reply.getD 0 0) (reply.getD 1 0) = nextTid ctx.tid
  kind : mbapRemaining reply = 1 ∨
    reply.getD 7 0 &&& modbusExceptionFlag ≠ 0 ∧
      (mbapRemaining reply = 2 ∨ reply.getD 8 0 = 0) ∨
    reply.getD 7 0 = modbusFuncReadHoldingRegisters ∧ 3 ≤ mbapRemaining reply ∧
      (reply.getD 8 0).toNat = 2 * qty.toNat ∧ mbapRemaining reply < 3 + 2 * qty.toNat

section Judge

variable {tid qty : UInt16} {resp : Bytes} {totalLen : Nat}

theorem byteCount_eq (few : qty.toNat ≤ modbusMaxReadRegisters) (count : UInt8) :
    count = (qty * 2).toUInt8 ↔ count.toNat = 2 * qty.toNat := by
  rw [← UInt8.toNat_inj]
  simp only [modbusMaxReadRegisters] at few
  have double : ((qty * 2).toUInt8).toNat = 2 * qty.toNat := by
    simp only [UInt16.toNat_toUInt8, UInt16.toNat_mul, UInt16.toNat_ofNat]
    omega
  rw [double]

theorem judgeRead_cases :
    word (resp.getD 0 0) (resp.getD 1 0) ≠ tid ∧
        judgeReadResponse tid qty resp totalLen = (mbTcpClientErrTid, none) ∨
      word (resp.getD 0 0) (resp.getD 1 0) = tid ∧
        (resp.getD 7 0 &&& modbusExceptionFlag ≠ 0 ∧
            judgeReadResponse tid qty resp totalLen = (((resp.getD 8 0).toNat : Int), none) ∨
          resp.getD 7 0 &&& modbusExceptionFlag = 0 ∧
            (resp.getD 7 0 ≠ modbusFuncReadHoldingRegisters ∨ totalLen < fc03ResponseHeaderLen ∨
              resp.getD 8 0 ≠ (qty * 2).toUInt8) ∧
            judgeReadResponse tid qty resp totalLen = (mbTcpClientErrFrame, none) ∨
          resp.getD 7 0 = modbusFuncReadHoldingRegisters ∧ fc03ResponseHeaderLen ≤ totalLen ∧
            resp.getD 8 0 = (qty * 2).toUInt8 ∧
            judgeReadResponse tid qty resp totalLen =
              (mbTcpClientOk, some (registersAt resp fc03ResponseHeaderLen qty.toNat))) := by
  rw [judgeReadResponse]
  by_cases same : word (resp.getD 0 0) (resp.getD 1 0) = tid
  · refine .inr ⟨same, ?_⟩
    rw [if_neg (not_not.mpr same)]
    by_cases plain : resp.getD 7 0 &&& modbusExceptionFlag = 0
    · refine .inr ?_
      simp only [plain, ne_eq, not_true_eq_false, if_false]
      by_cases answers : resp.getD 7 0 = modbusFuncReadHoldingRegisters
      · by_cases long : totalLen < fc03ResponseHeaderLen
        · exact .inl ⟨trivial, .inr (.inl long), by simp only [if_pos long, ite_self]⟩
        · by_cases counted : resp.getD 8 0 = (qty * 2).toUInt8
          · exact .inr ⟨answers, Nat.not_lt.mp long, counted, by
              simp only [answers, long, counted, not_true_eq_false, if_false]⟩
          · exact .inl ⟨trivial, .inr (.inr counted), by
              simp only [answers, long, counted, not_true_eq_false, not_false_eq_true, if_false,
                if_true]⟩
      · exact .inl ⟨trivial, .inl answers, by rw [if_pos answers]⟩
    · exact .inl ⟨plain, by rw [if_pos plain]⟩
  · exact .inl ⟨same, by rw [if_pos same]⟩

theorem judgeRead_ok :
    (judgeReadResponse tid qty resp totalLen).1 = mbTcpClientOk ↔
      word (resp.getD 0 0) (resp.getD 1 0) = tid ∧
        (resp.getD 7 0 &&& modbusExceptionFlag ≠ 0 ∧ resp.getD 8 0 = 0 ∨
          resp.getD 7 0 = modbusFuncReadHoldingRegisters ∧ fc03ResponseHeaderLen ≤ totalLen ∧
            resp.getD 8 0 = (qty * 2).toUInt8) := by
  have frameCode : mbTcpClientErrFrame ≠ mbTcpClientOk := by decide
  have tidCode : mbTcpClientErrTid ≠ mbTcpClientOk := by decide
  have readPlain : modbusFuncReadHoldingRegisters &&& modbusExceptionFlag = 0 := by decide
  rcases @judgeRead_cases tid qty resp totalLen with
    ⟨other, judged⟩ | ⟨same, refused | failed | read⟩
  · simp only [judged, tidCode, other, false_and]
  · obtain ⟨flagged, judged⟩ := refused
    have notRead : resp.getD 7 0 ≠ modbusFuncReadHoldingRegisters := by
      intro answers
      rw [answers] at flagged
      exact flagged readPlain
    simp only [judged, same, flagged, notRead, ne_eq, not_false_eq_true, true_and, false_and,
      or_false]
    constructor
    · intro zero
      exact UInt8.toNat_inj.mp (Int.ofNat.inj zero)
    · intro zero
      rw [zero]
      rfl
  · obtain ⟨plain, wrong, judged⟩ := failed
    simp only [judged, frameCode, plain, ne_eq, not_true_eq_false, false_and, false_or, false_iff,
      not_and]
    rintro - answers long counted
    rcases wrong with other | short | miscounted
    · exact other answers
    · exact absurd short (Nat.not_lt.mpr long)
    · exact miscounted counted
  · obtain ⟨answers, long, counted, judged⟩ := read
    simp only [judged, same, answers, long, counted, and_self, or_true]

structure Settled (tid qty : UInt16) (adu : Bytes) : Prop where
  header : modbusTcpMbapHeaderLen ≤ adu.length
  fc : word (adu.getD 0 0) (adu.getD 1 0) = tid → 8 ≤ adu.length
  code : word (adu.getD 0 0) (adu.getD 1 0) = tid →
    adu.getD 7 0 &&& modbusExceptionFlag ≠ 0 → 9 ≤ adu.length ∧ adu.getD 8 0 ≠ 0
  data : word (adu.getD 0 0) (adu.getD 1 0) = tid →
    adu.getD 7 0 = modbusFuncReadHoldingRegisters → fc03ResponseHeaderLen ≤ adu.length →
      (adu.getD 8 0).toNat = 2 * qty.toNat → fc03ResponseHeaderLen + 2 * qty.toNat ≤ adu.length

theorem judgeRead_received {stale got : Bytes} (few : qty.toNat ≤ modbusMaxReadRegisters)
    (settled : Settled tid qty got) :
    judgeReadResponse tid qty (overwrite stale got) got.length =
      judgeReadResponse tid qty got got.length := by
  have bytes {i : Nat} (inside : i < got.length) : (overwrite stale got).getD i 0 = got.getD i 0 :=
    List.getD_append _ _ _ _ inside
  have header := settled.header
  simp only [modbusTcpMbapHeaderLen] at header
  rw [judgeReadResponse, judgeReadResponse, bytes (by omega), bytes (by omega)]
  split
  · rfl
  · rename_i same
    have ours := not_not.mp same
    simp only [bytes (settled.fc ours)]
    split
    · rename_i flagged
      rw [bytes (settled.code ours flagged).1]
    · split
      · rfl
      · rename_i answers
        split
        · rfl
        · rename_i long
          have counter := Nat.not_lt.mp long
          rw [bytes counter]
          split
          · rfl
          · rename_i counted
            have enough := settled.data ours (not_not.mp answers) counter
              ((byteCount_eq few _).mp (not_not.mp counted))
            have registers : registersAt (overwrite stale got) fc03ResponseHeaderLen qty.toNat =
                registersAt got fc03ResponseHeaderLen qty.toNat := by
              apply List.map_congr_left
              intro i member
              have below := List.mem_range.mp member
              rw [bytes (by omega), bytes (by omega)]
            rw [registers]

theorem judgeRead_settled {got : Bytes} (few : qty.toNat ≤ modbusMaxReadRegisters)
    (settled : Settled tid qty got) :
    ((judgeReadResponse tid qty got got.length).1 = mbTcpClientOk → FullReadReply tid qty got ∧
        (judgeReadResponse tid qty got got.length).2 =
          some (registersAt got fc03ResponseHeaderLen qty.toNat)) ∧
      ((judgeReadResponse tid qty got got.length).1 ≠ mbTcpClientOk →
        (judgeReadResponse tid qty got got.length).2 = none) := by
  have frameCode : mbTcpClientErrFrame ≠ mbTcpClientOk := by decide
  have tidCode : mbTcpClientErrTid ≠ mbTcpClientOk := by decide
  rcases @judgeRead_cases tid qty got got.length with ⟨-, judged⟩ | ⟨same, refused | failed | read⟩
  · rw [judged]
    exact ⟨fun ok => absurd ok tidCode, fun _ => rfl⟩
  · obtain ⟨flagged, judged⟩ := refused
    rw [judged]
    refine ⟨fun zero => ?_, fun _ => rfl⟩
    exact absurd (UInt8.toNat_inj.mp (Int.ofNat.inj zero)) (settled.code same flagged).2
  · obtain ⟨-, -, judged⟩ := failed
    rw [judged]
    exact ⟨fun ok => absurd ok frameCode, fun _ => rfl⟩
  · obtain ⟨answers, long, counted, judged⟩ := read
    have count := (byteCount_eq few _).mp counted
    rw [judged]
    exact ⟨fun _ => ⟨⟨same, answers, count, settled.data same answers long count⟩, rfl⟩,
      fun refused => absurd rfl refused⟩

end Judge

section Reads

variable {ctx : TcpClientCtx} {addr qty : UInt16} {socket : TcpSocket} {stale : Bytes}

theorem readCall_cases :
    (∃ failed : TcpCall, failed.result ≠ mbTcpClientOk ∧ failed.out = none ∧
        ∀ stale : Bytes, mbTcpClientReadHoldingRegisters ctx addr qty socket stale = failed) ∨
      (qty ≠ 0 ∧ qty.toNat ≤ modbusMaxReadRegisters) ∧ ctx.connected = true ∧
        (recvResponse socket modbusTcpMaxAduLength).rc = 0 ∧
        ∀ stale : Bytes, mbTcpClientReadHoldingRegisters ctx addr qty socket stale =
          let judged := judgeReadResponse (nextTid ctx.tid) qty
            (overwrite stale (receivedAdu socket)) (receivedAdu socket).length
          ⟨judged.1, judged.2, nextTid ctx.tid,
            (recvResponse socket modbusTcpMaxAduLength).rest⟩ := by
  have argCode : mbTcpClientErrArg ≠ mbTcpClientOk := by decide
  have connectionCode : mbTcpClientErrNotConnected ≠ mbTcpClientOk := by decide
  have transportCode : mbTcpClientErrTransport ≠ mbTcpClientOk := by decide
  by_cases asked : qty = 0 ∨ qty.toNat > modbusMaxReadRegisters
  · exact .inl ⟨_, argCode, rfl, fun _ => by rw [mbTcpClientReadHoldingRegisters, if_pos asked]⟩
  · by_cases connected : ctx.connected = true
    · let req := buildFc03Request (nextTid ctx.tid) ctx.unitId addr qty
      have call (stale : Bytes) : mbTcpClientReadHoldingRegisters ctx addr qty socket stale =
          tcpTransaction (nextTid ctx.tid) req socket stale
            (judgeReadResponse (nextTid ctx.tid) qty) := by
        rw [mbTcpClientReadHoldingRegisters, if_neg asked, if_neg (not_not.mpr connected)]
      simp only [call]
      by_cases sent : socket.send req = req.length
      · by_cases received : (recvResponse socket modbusTcpMaxAduLength).rc = 0
        · refine .inr ⟨⟨fun zero => asked (.inl zero), ?_⟩, connected, received, fun stale => ?_⟩
          · exact Nat.not_lt.mp fun many => asked (.inr many)
          · rw [tcpTransaction, if_neg (not_not.mpr sent)]
            simp only [received, ne_eq, not_true_eq_false, if_false, receivedAdu]
        · let resp := recvResponse socket modbusTcpMaxAduLength
          refine .inl ⟨⟨recvErrToClientErr resp.rc, none, nextTid ctx.tid, resp.rest⟩,
            recvErrToClientErr_ne _, rfl, fun stale => ?_⟩
          rw [tcpTransaction, if_neg (not_not.mpr sent), if_pos received]
      · exact .inl ⟨_, transportCode, rfl, fun _ => by rw [tcpTransaction, if_pos sent]⟩
    · exact .inl ⟨_, connectionCode, rfl, fun _ => by
        rw [mbTcpClientReadHoldingRegisters, if_neg asked, if_pos connected]⟩

/-- What is received is settled, unless it misleads. -/
theorem received_settled (asked : qty ≠ 0 ∧ qty.toNat ≤ modbusMaxReadRegisters)
    (connected : ctx.connected = true)
    (received : (recvResponse socket modbusTcpMaxAduLength).rc = 0)
    (honest : ¬ ReadMisleads ctx qty socket.incoming) :
    Settled (nextTid ctx.tid) qty (receivedAdu socket) := by
  obtain ⟨several, few, there, got, -⟩ := recvResponse_ok received
  simp only [modbusTcpMaxAduLength, modbusTcpMbapHeaderLen] at several few there got
  have bytes {i : Nat} (inside : i < 6 + mbapRemaining socket.incoming) :
      (receivedAdu socket).getD i 0 = socket.incoming.getD i 0 := by
    rw [receivedAdu, modbusTcpMaxAduLength, got]
    exact take_getD _ inside
  have length_eq : (receivedAdu socket).length = 6 + mbapRemaining socket.incoming := by
    rw [receivedAdu, modbusTcpMaxAduLength, got, List.length_take_of_le there]
  have misleads (same : word (socket.incoming.getD 0 0) (socket.incoming.getD 1 0) =
      nextTid ctx.tid) := fun kind => honest ⟨asked, connected, by omega, there, same, kind⟩
  have long (same : word (socket.incoming.getD 0 0) (socket.incoming.getD 1 0) =
      nextTid ctx.tid) : 2 ≤ mbapRemaining socket.incoming := by
    by_contra short
    exact misleads same (.inl (by omega))
  constructor
  · rw [length_eq]
    exact Nat.le_add_right _ _
  · intro same
    rw [bytes (by omega), bytes (by omega)] at same
    have fcThere := long same
    omega
  · intro same flagged
    rw [bytes (by omega), bytes (by omega)] at same
    have fcThere := long same
    rw [bytes (by omega)] at flagged
    have codeThere : 3 ≤ mbapRemaining socket.incoming := by
      by_contra short
      exact misleads same (.inr (.inl ⟨flagged, .inl (by omega)⟩))
    refine ⟨by omega, fun zero => ?_⟩
    rw [bytes (by omega)] at zero
    exact misleads same (.inr (.inl ⟨flagged, .inr zero⟩))
  · intro same answers header counted
    rw [bytes (by omega), bytes (by omega)] at same
    have fcThere := long same
    rw [length_eq, fc03ResponseHeaderLen] at header
    rw [bytes (by omega)] at answers counted
    by_contra short
    rw [length_eq, fc03ResponseHeaderLen] at short
    exact misleads same (.inr (.inr ⟨answers, by omega, counted, by omega⟩))

def staleException : Bytes := List.replicate 7 0 ++ 0x80 :: List.replicate 252 0

theorem staleException_length : staleException.length = modbusTcpMaxAduLength := by
  simp only [staleException, List.length_append, List.length_replicate, List.length_cons,
    modbusTcpMaxAduLength]

theorem overwrite_behind {got : Bytes} {i : Nat} (behind : got.length ≤ i) :
    (overwrite stale got).getD i 0 = stale.getD i 0 := by
  rw [overwrite, List.getD_append_right _ _ _ _ behind, List.getD_eq_getElem?_getD,
    List.getElem?_drop, Nat.add_sub_cancel' behind, List.getD_eq_getElem?_getD]

theorem misled_ok {reply : Bytes} (misleads : ReadMisleads ctx qty reply) :
    (mbTcpClientReadHoldingRegisters ctx addr qty (answeringSocket reply) staleException).result =
      mbTcpClientOk := by
  obtain ⟨⟨several, few⟩, connected, ⟨least, most⟩, whole, same, kind⟩ := misleads
  have received := @recvResponse_data (answeringSocket reply) modbusTcpMaxAduLength
    (fun _ => ⟨260, rfl⟩) (Nat.ne_of_gt least) most whole
  obtain ⟨-, -, -, got, -⟩ := recvResponse_ok received
  change (recvResponse (answeringSocket reply) modbusTcpMaxAduLength).got =
    reply.take (modbusTcpMbapHeaderLen + mbapRemaining reply) at got
  have bytes (i : Nat) (inside : i < modbusTcpMbapHeaderLen + mbapRemaining reply) :=
    @overwrite_getD staleException reply i _ inside whole
  have behind (i : Nat) (outside : modbusTcpMbapHeaderLen + mbapRemaining reply ≤ i) :=
    @overwrite_behind staleException (reply.take (modbusTcpMbapHeaderLen + mbapRemaining reply)) i
      (by rwa [List.length_take_of_le whole])
  rw [mbTcpClientReadHoldingRegisters, if_neg (read_ok several few), if_neg (not_not.mpr connected),
    tcpTransaction_ok]
  refine ⟨rfl, received, judgeRead_ok.mpr ?_⟩
  simp only [modbusTcpMbapHeaderLen] at bytes behind whole got
  rw [got, List.length_take_of_le whole, bytes 0 (by omega), bytes 1 (by omega)]
  refine ⟨same, ?_⟩
  rcases kind with bare | ⟨flagged, coded⟩ | ⟨answers, header, counted, -⟩
  · rw [behind 7 (by omega), behind 8 (by omega)]
    exact .inl ⟨by decide, by decide⟩
  · refine .inl ?_
    rcases Nat.lt_or_ge (mbapRemaining reply) 2 with bare | fcThere
    · rw [behind 7 (by omega), behind 8 (by omega)]
      exact ⟨by decide, by decide⟩
    · rw [bytes 7 (by omega)]
      refine ⟨flagged, ?_⟩
      rcases Nat.lt_or_ge (mbapRemaining reply) 3 with short | codeThere
      · rw [behind 8 (by omega)]
        decide
      · rw [bytes 8 (by omega)]
        exact coded.resolve_left (by omega)
  · rw [bytes 7 (by omega), bytes 8 (by omega), fc03ResponseHeaderLen]
    exact .inr ⟨answers, by omega, (byteCount_eq few _).mpr counted⟩

end Reads

/-- A read reports what was received, unless the reply misleads it. -/
theorem reads_received (ctx : TcpClientCtx) (addr qty : UInt16) (reply : Bytes) :
    ReadReports ctx addr qty reply ↔ ¬ ReadMisleads ctx qty reply := by
  constructor
  · intro reports misleads
    obtain ⟨⟨-, fc, counted, enough⟩, -⟩ :=
      (reports (answeringSocket reply) rfl staleException staleException_length).1
        (misled_ok misleads)
    obtain ⟨⟨several, few⟩, connected, ⟨least, most⟩, whole, same, kind⟩ := misleads
    have received := @recvResponse_data (answeringSocket reply) modbusTcpMaxAduLength
      (fun _ => ⟨260, rfl⟩) (Nat.ne_of_gt least) most whole
    obtain ⟨-, -, -, got, -⟩ := recvResponse_ok received
    change receivedAdu (answeringSocket reply) =
      reply.take (modbusTcpMbapHeaderLen + mbapRemaining reply) at got
    rw [got, List.length_take_of_le whole] at enough
    simp only [modbusTcpMbapHeaderLen, fc03ResponseHeaderLen] at enough whole got
    rw [got, take_getD _ (by omega)] at fc
    rcases kind with bare | ⟨flagged, -⟩ | ⟨-, -, -, short⟩
    · omega
    · rw [fc] at flagged
      exact absurd (by decide) flagged
    · omega
  · rintro honest socket rfl stale -
    rcases @readCall_cases ctx addr qty socket with ⟨failed, code, out, call⟩ | judged
    · simp only [call]
      exact ⟨fun ok => absurd ok code, fun _ => out, fun _ _ => trivial⟩
    · obtain ⟨asked, connected, received, call⟩ := judged
      have settled := received_settled asked connected received honest
      have judged (stale : Bytes) := @judgeRead_received _ _ stale _ asked.2 settled
      obtain ⟨accepted, refused⟩ := judgeRead_settled asked.2 settled
      simp only [call, judged]
      exact ⟨accepted, refused, fun _ _ => trivial⟩

def registersMissing : Bytes := mbapHeader 1 3 ++ [1, 3, 4]

/-- The two registers come out of the buffer. -/
theorem read_stale : ¬ ∀ (ctx : TcpClientCtx) (addr qty : UInt16) (reply : Bytes),
    ReadReports ctx addr qty reply := by
  intro reports
  have stale := (reports ⟨true, 1, 0⟩ 0x2000 2 registersMissing
    (answeringSocket registersMissing) rfl staleException
      staleException_length).1 (by decide +kernel)
  have enough := stale.1.enough
  revert enough
  decide +kernel

end Rs485Gateway
