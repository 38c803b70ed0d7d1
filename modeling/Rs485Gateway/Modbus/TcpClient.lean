import Rs485Gateway.Modbus.Bytes

/-! The TCP client (`modbus_tcp_client.c`): one request, and one ADU read from the stream
by its own length field. -/

namespace Rs485Gateway

def mbTcpClientOk : Int := 0
def mbTcpClientErrArg : Int := -1
def mbTcpClientErrNotConnected : Int := -2
def mbTcpClientErrTransport : Int := -3
def mbTcpClientErrTimeout : Int := -4
def mbTcpClientErrFrame : Int := -5
def mbTcpClientErrTid : Int := -6

def minResponseLen : Nat := 9
def fc16ResponseLen : Nat := 12
def fc03ResponseHeaderLen : Nat := 9

structure TcpClientCtx where
  connected : Bool
  unitId : UInt8
  tid : UInt16

/-- What one `recv` comes to: up to `n` bytes of what is there, or the time is up, or the
connection fails. -/
inductive RecvOutcome where
  | data (n : Nat)
  | timeout
  | failed
  deriving DecidableEq

/-- The socket during one call: what `send` returns, the outcome of each `recv`, and the
bytes that are on their way. -/
structure TcpSocket where
  send : Bytes → Int
  outcome : Nat → RecvOutcome
  incoming : Bytes

/-- A receiver's return code, what it put into the buffer, what it left in the socket, and
the number of the next `recv`. -/
structure Recv where
  rc : Int
  got : Bytes
  rest : Bytes
  next : Nat

/-- The loop of `recv_exact` with `len` bytes still to receive; every round receives at
least one. -/
def recvLoop (outcome : Nat → RecvOutcome) : Nat → Nat → Nat → Bytes → Recv
  | 0, _, k, incoming => ⟨0, [], incoming, k⟩
  | rounds + 1, len, k, incoming =>
      if len = 0 then ⟨0, [], incoming, k⟩
      else
        match outcome k with
        | .timeout => ⟨-2, [], incoming, k + 1⟩
        | .failed => ⟨-1, [], incoming, k + 1⟩
        | .data n =>
            if incoming = [] then ⟨-2, [], [], k + 1⟩
            else
              let got := incoming.take (min (max 1 n) len)
              let later := recvLoop outcome rounds (len - got.length) (k + 1)
                (incoming.drop (min (max 1 n) len))
              { later with got := got ++ later.got }

def recvExact (outcome : Nat → RecvOutcome) (len k : Nat) (incoming : Bytes) : Recv :=
  recvLoop outcome len len k incoming

def mbapRemaining (header : Bytes) : Nat := (word (header.getD 4 0) (header.getD 5 0)).toNat

def recvResponse (socket : TcpSocket) (bufCap : Nat) : Recv :=
  let header := recvExact socket.outcome modbusTcpMbapHeaderLen 0 socket.incoming
  if header.rc ≠ 0 then header
  else
    let remaining := mbapRemaining header.got
    if remaining = 0 ∨ remaining > bufCap - modbusTcpMbapHeaderLen then { header with rc := -1 }
    else
      let body := recvExact socket.outcome remaining header.next header.rest
      { body with got := header.got ++ body.got }

def recvErrToClientErr (rc : Int) : Int :=
  if rc = -2 then mbTcpClientErrTimeout else mbTcpClientErrTransport

def nextTid (tid : UInt16) : UInt16 := if tid < 0xFFFF then tid + 1 else 1

def mbapHeader (tid len : UInt16) : Bytes := [hi tid, lo tid, 0x00, 0x00, hi len, lo len]

def buildFc03Request (tid : UInt16) (unitId : UInt8) (addr qty : UInt16) : Bytes :=
  mbapHeader tid 6 ++
    [unitId, modbusFuncReadHoldingRegisters, hi addr, lo addr, hi qty, lo qty]

def buildFc06Request (tid : UInt16) (unitId : UInt8) (addr value : UInt16) : Bytes :=
  mbapHeader tid 6 ++
    [unitId, modbusFuncWriteSingleRegister, hi addr, lo addr, hi value, lo value]

def buildFc16Request (tid : UInt16) (unitId : UInt8) (addr qty : UInt16) (data : List UInt16) :
    Bytes :=
  let byteCount := (qty * 2).toUInt8
  mbapHeader tid (7 + byteCount.toUInt16) ++
    [unitId, modbusFuncWriteMultipleRegisters, hi addr, lo addr, hi qty, lo qty, byteCount] ++
    bigEndian (data.take qty.toNat)

/-- The response buffer after the bytes of an ADU went over what was in it. -/
def overwrite (stale got : Bytes) : Bytes := got ++ stale.drop got.length

/-- What a read makes of a received ADU. -/
def judgeReadResponse (tid qty : UInt16) (resp : Bytes) (totalLen : Nat) :
    Int × Option (List UInt16) :=
  if word (resp.getD 0 0) (resp.getD 1 0) ≠ tid then (mbTcpClientErrTid, none)
  else
    let respFc := resp.getD 7 0
    if respFc &&& modbusExceptionFlag ≠ 0 then (((resp.getD 8 0).toNat : Int), none)
    else if respFc ≠ modbusFuncReadHoldingRegisters then (mbTcpClientErrFrame, none)
    else if totalLen < fc03ResponseHeaderLen then (mbTcpClientErrFrame, none)
    else if resp.getD 8 0 ≠ (qty * 2).toUInt8 then (mbTcpClientErrFrame, none)
    else (mbTcpClientOk, some (registersAt resp fc03ResponseHeaderLen qty.toNat))

def validateWriteResponse (fc : UInt8) (resp : Bytes) (totalLen : Nat) (expectedTid : UInt16) :
    Int :=
  if totalLen < minResponseLen then mbTcpClientErrFrame
  else if word (resp.getD 0 0) (resp.getD 1 0) ≠ expectedTid then mbTcpClientErrTid
  else
    let respFc := resp.getD 7 0
    if respFc &&& modbusExceptionFlag ≠ 0 then ((resp.getD 8 0).toNat : Int)
    else if totalLen < fc16ResponseLen then mbTcpClientErrFrame
    else if respFc ≠ fc then mbTcpClientErrFrame
    else mbTcpClientOk

/-- A call: its result, the registers it put into `out`, the transaction id it leaves in
the context, and the bytes it leaves in the socket. -/
structure TcpCall where
  result : Int
  out : Option (List UInt16)
  tid : UInt16
  rest : Bytes

def tcpTransaction (tid : UInt16) (req : Bytes) (socket : TcpSocket) (stale : Bytes)
    (judge : Bytes → Nat → Int × Option (List UInt16)) : TcpCall :=
  if socket.send req ≠ req.length then ⟨mbTcpClientErrTransport, none, tid, socket.incoming⟩
  else
    let resp := recvResponse socket modbusTcpMaxAduLength
    if resp.rc ≠ 0 then ⟨recvErrToClientErr resp.rc, none, tid, resp.rest⟩
    else
      let judged := judge (overwrite stale resp.got) resp.got.length
      ⟨judged.1, judged.2, tid, resp.rest⟩

def mbTcpClientReadHoldingRegisters (ctx : TcpClientCtx) (addr qty : UInt16) (socket : TcpSocket)
    (stale : Bytes) : TcpCall :=
  if qty = 0 ∨ qty.toNat > modbusMaxReadRegisters then
    ⟨mbTcpClientErrArg, none, ctx.tid, socket.incoming⟩
  else if ¬ ctx.connected then ⟨mbTcpClientErrNotConnected, none, ctx.tid, socket.incoming⟩
  else
    let tid := nextTid ctx.tid
    tcpTransaction tid (buildFc03Request tid ctx.unitId addr qty) socket stale
      (judgeReadResponse tid qty)

def mbTcpClientWriteSingleRegister (ctx : TcpClientCtx) (addr value : UInt16)
    (socket : TcpSocket) (stale : Bytes) : TcpCall :=
  if ¬ ctx.connected then ⟨mbTcpClientErrNotConnected, none, ctx.tid, socket.incoming⟩
  else
    let tid := nextTid ctx.tid
    tcpTransaction tid (buildFc06Request tid ctx.unitId addr value) socket stale
      fun resp totalLen =>
        (validateWriteResponse modbusFuncWriteSingleRegister resp totalLen tid, none)

def mbTcpClientWriteMultipleRegisters (ctx : TcpClientCtx) (addr qty : UInt16)
    (data : List UInt16) (socket : TcpSocket) (stale : Bytes) : TcpCall :=
  if qty = 0 ∨ qty.toNat > modbusMaxWriteRegisters then
    ⟨mbTcpClientErrArg, none, ctx.tid, socket.incoming⟩
  else if ¬ ctx.connected then ⟨mbTcpClientErrNotConnected, none, ctx.tid, socket.incoming⟩
  else
    let tid := nextTid ctx.tid
    tcpTransaction tid (buildFc16Request tid ctx.unitId addr qty data) socket stale
      fun resp totalLen =>
        (validateWriteResponse modbusFuncWriteMultipleRegisters resp totalLen tid, none)

section Receive

variable {outcome : Nat → RecvOutcome}

/-- Nothing in the stream is lost or moved, and a success is complete. -/
theorem recvLoop_splits (rounds len k : Nat) (incoming : Bytes) (enough : len ≤ rounds) :
    (recvLoop outcome rounds len k incoming).got ++ (recvLoop outcome rounds len k incoming).rest =
        incoming ∧
      ((recvLoop outcome rounds len k incoming).rc = 0 →
        (recvLoop outcome rounds len k incoming).got.length = len) := by
  induction rounds generalizing len k incoming with
  | zero =>
      obtain rfl : len = 0 := Nat.le_zero.mp enough
      exact ⟨rfl, fun _ => rfl⟩
  | succ rounds ih =>
      rw [recvLoop]
      split
      · rename_i done
        exact ⟨rfl, fun _ => done.symm⟩
      · split
        · exact ⟨rfl, fun ok => absurd ok (by simp)⟩
        · exact ⟨rfl, fun ok => absurd ok (by simp)⟩
        · rename_i n _
          split
          · rename_i empty
            exact ⟨by rw [empty]; rfl, fun ok => absurd ok (by simp)⟩
          · rename_i wanted nonempty
            have positive := List.length_pos_iff.mpr nonempty
            have size : (incoming.take (min (max 1 n) len)).length =
                min (min (max 1 n) len) incoming.length := List.length_take
            obtain ⟨whole, complete⟩ := ih (len - (incoming.take (min (max 1 n) len)).length)
              (k + 1) (incoming.drop (min (max 1 n) len)) (by omega)
            constructor
            · rw [List.append_assoc, whole, List.take_append_drop]
            · intro ok
              rw [List.length_append, complete ok]
              omega

theorem recvLoop_data (rounds len k : Nat) (incoming : Bytes) (enough : len ≤ rounds)
    (brings : ∀ j, k ≤ j → ∃ n, outcome j = .data n) (there : len ≤ incoming.length) :
    (recvLoop outcome rounds len k incoming).rc = 0 := by
  induction rounds generalizing len k incoming with
  | zero => rfl
  | succ rounds ih =>
      rw [recvLoop]
      split
      · rfl
      · rename_i wanted
        obtain ⟨n, here⟩ := brings k le_rfl
        have nonempty : incoming ≠ [] := by
          intro empty
          rw [empty, List.length_nil] at there
          omega
        simp only [here, if_neg nonempty]
        have size : (incoming.take (min (max 1 n) len)).length =
            min (min (max 1 n) len) incoming.length := List.length_take
        apply ih
        · omega
        · exact fun j later => brings j (by omega)
        · rw [List.length_drop]
          omega

theorem recvExact_data {len k : Nat} {incoming : Bytes}
    (brings : ∀ j, ∃ n, outcome j = .data n) (there : len ≤ incoming.length) :
    (recvExact outcome len k incoming).rc = 0 :=
  recvLoop_data len len k incoming le_rfl (fun j _ => brings j) there

theorem recvExact_ok {len k : Nat} {incoming : Bytes}
    (ok : (recvExact outcome len k incoming).rc = 0) :
    len ≤ incoming.length ∧ (recvExact outcome len k incoming).got = incoming.take len ∧
      (recvExact outcome len k incoming).rest = incoming.drop len := by
  obtain ⟨whole, complete⟩ := @recvLoop_splits outcome len len k incoming le_rfl
  have size := complete ok
  have parts := congrArg List.length whole
  rw [List.length_append, size] at parts
  have there : len ≤ incoming.length := by omega
  have same := List.append_inj (whole.trans (List.take_append_drop len incoming).symm)
    (by rw [size, List.length_take_of_le there])
  exact ⟨there, same⟩

theorem mbapRemaining_take (incoming : Bytes) :
    mbapRemaining (incoming.take modbusTcpMbapHeaderLen) = mbapRemaining incoming := by
  simp [mbapRemaining, modbusTcpMbapHeaderLen, List.getD_eq_getElem?_getD]

variable {socket : TcpSocket} {bufCap : Nat}

theorem recvResponse_ok (ok : (recvResponse socket bufCap).rc = 0) :
    let total := modbusTcpMbapHeaderLen + mbapRemaining socket.incoming
    mbapRemaining socket.incoming ≠ 0 ∧
      mbapRemaining socket.incoming ≤ bufCap - modbusTcpMbapHeaderLen ∧
      total ≤ socket.incoming.length ∧
      (recvResponse socket bufCap).got = socket.incoming.take total ∧
      (recvResponse socket bufCap).rest = socket.incoming.drop total := by
  rw [recvResponse] at ok ⊢
  split at ok
  · rename_i failed
    exact absurd ok failed
  · rename_i header
    obtain ⟨headerThere, headerGot, headerRest⟩ := recvExact_ok (not_not.mp header)
    rw [if_neg header]
    simp only [headerGot, headerRest, mbapRemaining_take] at ok ⊢
    split at ok
    · exact absurd ok (by simp)
    · rename_i sized
      obtain ⟨bodyThere, bodyGot, bodyRest⟩ := recvExact_ok ok
      rw [List.length_drop] at bodyThere
      rw [if_neg sized]
      refine ⟨fun zero => sized (.inl zero), by omega, by omega, ?_, ?_⟩
      · rw [bodyGot, ← List.take_add]
      · rw [bodyRest, List.drop_drop]

theorem recvResponse_data (brings : ∀ j, ∃ n, socket.outcome j = .data n)
    (counted : mbapRemaining socket.incoming ≠ 0)
    (fits : mbapRemaining socket.incoming ≤ bufCap - modbusTcpMbapHeaderLen)
    (there : modbusTcpMbapHeaderLen + mbapRemaining socket.incoming ≤ socket.incoming.length) :
    (recvResponse socket bufCap).rc = 0 := by
  have header := @recvExact_data _ modbusTcpMbapHeaderLen 0 socket.incoming brings (by omega)
  obtain ⟨-, headerGot, headerRest⟩ := recvExact_ok header
  rw [recvResponse, if_neg (not_not.mpr header)]
  simp only [headerGot, headerRest, mbapRemaining_take]
  rw [if_neg (by omega)]
  exact recvExact_data brings (by rw [List.length_drop]; omega)

end Receive

section Transaction

theorem recvErrToClientErr_ne (rc : Int) : recvErrToClientErr rc ≠ mbTcpClientOk := by
  rw [recvErrToClientErr]
  split <;> decide

theorem tcpTransaction_tid {tid : UInt16} {req stale : Bytes} {socket : TcpSocket}
    {judge : Bytes → Nat → Int × Option (List UInt16)} :
    (tcpTransaction tid req socket stale judge).tid = tid := by
  rw [tcpTransaction]
  split
  · rfl
  · simp only
    split <;> rfl

end Transaction

end Rs485Gateway
