import Rs485Gateway.Lists.Storage
import Rs485Gateway.Modbus.RtuReads
import Rs485Gateway.Modbus.TcpReads

namespace Rs485Gateway

open Rs485Gateway.Lists

def modbusRtuMaxAduLength : Nat := 256

def modbusTcpMbapLenStandardReq : UInt8 := 6

inductive RequestArgs where
  | readHolding (addr qty : UInt16)
  | writeSingle (addr value : UInt16)
  | writeMultiple (addr qty : UInt16) (data : Nat → UInt16)

namespace RequestArgs

/-- The arguments the clients do not refuse. -/
def Accepted : RequestArgs → Prop
  | readHolding _ qty => qty ≠ 0 ∧ qty.toNat ≤ modbusMaxReadRegisters
  | writeSingle _ _ => True
  | writeMultiple _ qty _ => qty ≠ 0 ∧ qty.toNat ≤ modbusMaxWriteRegisters

def request : RequestArgs → ModbusRequest
  | readHolding addr qty => .readHolding addr qty
  | writeSingle addr value => .writeSingle addr value
  | writeMultiple addr qty data => .writeMultiple addr ((List.range qty.toNat).map data)

end RequestArgs

/-- A request as the Modbus definition has it, behind the unit. -/
def ModbusRequest.pdu : ModbusRequest → Bytes
  | readHolding addr qty => [modbusFuncReadHoldingRegisters, hi addr, lo addr, hi qty, lo qty]
  | writeSingle addr value => [modbusFuncWriteSingleRegister, hi addr, lo addr, hi value, lo value]
  | writeMultiple addr data =>
      [modbusFuncWriteMultipleRegisters, hi addr, lo addr, hi (quantity data), lo (quantity data),
        UInt8.ofNat (2 * data.length)] ++ bigEndian data

/-- What the Modbus definition reads in a request. -/
def decodePdu : Bytes → Option ModbusRequest
  | [0x03, addrHigh, addrLow, qtyHigh, qtyLow] =>
      some (.readHolding (word addrHigh addrLow) (word qtyHigh qtyLow))
  | [0x06, addrHigh, addrLow, valueHigh, valueLow] =>
      some (.writeSingle (word addrHigh addrLow) (word valueHigh valueLow))
  | 0x10 :: addrHigh :: addrLow :: qtyHigh :: qtyLow :: byteCount :: rest =>
      let qty := (word qtyHigh qtyLow).toNat
      if byteCount.toNat = 2 * qty ∧ rest.length = 2 * qty then
        some (.writeMultiple (word addrHigh addrLow) (registersAt rest 0 qty))
      else none
  | _ => none

/-- A request under construction: `req` and `req_len`. -/
structure RequestBuffer where
  req : Buffer
  reqLen : Nat

namespace RequestBuffer

/-- `req[req_len++] = byte`. -/
def push (tx : RequestBuffer) (byte : UInt8) : RequestBuffer where
  req := tx.req.store tx.reqLen byte
  reqLen := tx.reqLen + 1

def appendUint16Be (tx : RequestBuffer) (value : UInt16) : RequestBuffer :=
  (tx.push (hi value)).push (lo value)

def appendCrc (tx : RequestBuffer) : RequestBuffer :=
  let crc := mbRtuComputeCrc16 (tx.req.bytes tx.reqLen)
  (tx.push (lo crc)).push (hi crc)

def appendData (data : Nat → UInt16) : Nat → Nat → RequestBuffer → RequestBuffer
  | 0, _, tx => tx
  | todo + 1, i, tx => appendData data todo (i + 1) (tx.appendUint16Be (data i))

def sent (tx : RequestBuffer) : Bytes := tx.req.bytes tx.reqLen

def start (stale : Storage) : RequestBuffer := ⟨.fresh stale, 0⟩

def rtuHeader (stale : Storage) (unitId fc : UInt8) (addr nb : UInt16) : RequestBuffer :=
  ((((start stale).push unitId).push fc).appendUint16Be addr).appendUint16Be nb

end RequestBuffer

open RequestBuffer in
def rtuRequestBuffer (stale : Storage) (unitId : UInt8) : RequestArgs → RequestBuffer
  | .readHolding addr qty =>
      (rtuHeader stale unitId modbusFuncReadHoldingRegisters addr qty).appendCrc
  | .writeSingle addr value =>
      (rtuHeader stale unitId modbusFuncWriteSingleRegister addr value).appendCrc
  | .writeMultiple addr qty data =>
      let header := rtuHeader stale unitId modbusFuncWriteMultipleRegisters addr qty
      (appendData data qty.toNat 0 (header.push (qty * 2).toUInt8)).appendCrc

def storeAdu (buf : Buffer) (tid : UInt16) (lenHigh lenLow unitId fc : UInt8)
    (addr nb : UInt16) : Buffer :=
  let buf := buf.store 0 (hi tid)
  let buf := buf.store 1 (lo tid)
  let buf := buf.store 2 0x00
  let buf := buf.store 3 0x00
  let buf := buf.store 4 lenHigh
  let buf := buf.store 5 lenLow
  let buf := buf.store 6 unitId
  let buf := buf.store 7 fc
  let buf := buf.store 8 (hi addr)
  let buf := buf.store 9 (lo addr)
  let buf := buf.store 10 (hi nb)
  buf.store 11 (lo nb)

def aduOffsetFc16ByteCount : Nat := 12

def aduOffsetFc16DataStart : Nat := 13

def storeData (data : Nat → UInt16) : Nat → Nat → Buffer → Buffer
  | 0, _, buf => buf
  | todo + 1, i, buf =>
      let offset := aduOffsetFc16DataStart + i * 2
      let buf := (buf.store offset (hi (data i))).store (offset + 1) (lo (data i))
      storeData data todo (i + 1) buf

def storeFc03Request (tid : UInt16) (unitId : UInt8) (addr qty : UInt16) (buf : Buffer) : Buffer :=
  storeAdu buf tid 0x00 modbusTcpMbapLenStandardReq unitId modbusFuncReadHoldingRegisters addr qty

def storeFc06Request (tid : UInt16) (unitId : UInt8) (addr value : UInt16) (buf : Buffer) :
    Buffer :=
  storeAdu buf tid 0x00 modbusTcpMbapLenStandardReq unitId modbusFuncWriteSingleRegister addr value

def storeFc16Request (tid : UInt16) (unitId : UInt8) (addr qty : UInt16) (data : Nat → UInt16)
    (buf : Buffer) : RequestBuffer :=
  let byteCount := (qty * 2).toUInt8
  let mbapLen := 7 + byteCount.toUInt16
  let header := (storeAdu buf tid (hi mbapLen) (lo mbapLen) unitId modbusFuncWriteMultipleRegisters
    addr qty).store aduOffsetFc16ByteCount byteCount
  ⟨storeData data qty.toNat 0 header, modbusTcpMbapHeaderLen + mbapLen.toNat⟩

def tcpRequestBuffer (stale : Storage) (tid : UInt16) (unitId : UInt8) :
    RequestArgs → RequestBuffer
  | .readHolding addr qty =>
      ⟨storeFc03Request tid unitId addr qty (.fresh stale), modbusTcpMinReadReqLength⟩
  | .writeSingle addr value =>
      ⟨storeFc06Request tid unitId addr value (.fresh stale), modbusTcpMinReadReqLength⟩
  | .writeMultiple addr qty data => storeFc16Request tid unitId addr qty data (.fresh stale)

def tcpRequestCapacity : RequestArgs → Nat
  | .readHolding _ _ | .writeSingle _ _ => modbusTcpMinReadReqLength
  | .writeMultiple _ _ _ => modbusTcpMaxAduLength

namespace RequestBuffer

/-- The running position is where the bytes stored so far end. -/
structure Carries (tx : RequestBuffer) (content : Bytes) : Prop where
  reqLen : tx.reqLen = content.length
  req : tx.req.Holds content

variable {tx : RequestBuffer} {content : Bytes}

theorem Carries.sent (carries : tx.Carries content) : tx.sent = content := by
  rw [RequestBuffer.sent, carries.reqLen]
  exact carries.req.bytes

theorem start_carries (stale : Storage) : (start stale).Carries [] :=
  ⟨rfl, Buffer.fresh_holds stale⟩

theorem Carries.push (carries : tx.Carries content) (byte : UInt8) :
    (tx.push byte).Carries (content ++ [byte]) := by
  constructor
  · rw [RequestBuffer.push, carries.reqLen, List.length_append, List.length_singleton]
  · exact carries.req.store_at carries.reqLen byte

theorem Carries.appendUint16Be (carries : tx.Carries content) (value : UInt16) :
    (tx.appendUint16Be value).Carries (Rs485Gateway.appendUint16Be content value) := by
  have pushed := (carries.push (hi value)).push (lo value)
  rwa [List.append_assoc] at pushed

theorem Carries.appendCrc (carries : tx.Carries content) :
    (tx.appendCrc).Carries (Rs485Gateway.appendCrc content) := by
  have covered : tx.req.bytes tx.reqLen = content := carries.sent
  have pushed := (carries.push (lo (mbRtuComputeCrc16 content))).push
    (hi (mbRtuComputeCrc16 content))
  rw [RequestBuffer.appendCrc, covered]
  rwa [List.append_assoc] at pushed

theorem Carries.appendData (carries : tx.Carries content) (data : Nat → UInt16) (todo i : Nat) :
    (RequestBuffer.appendData data todo i tx).Carries
      (((List.range' i todo).map data).foldl Rs485Gateway.appendUint16Be content) := by
  induction todo generalizing i tx content with
  | zero => exact carries
  | succ todo ih => exact ih (carries.appendUint16Be (data i)) (i + 1)

theorem rtuHeader_carries (stale : Storage) (unitId fc : UInt8) (addr nb : UInt16) :
    (rtuHeader stale unitId fc addr nb).Carries
      (Rs485Gateway.appendUint16Be (Rs485Gateway.appendUint16Be [unitId, fc] addr) nb) :=
  ((((start_carries stale).push unitId).push fc).appendUint16Be addr).appendUint16Be nb

end RequestBuffer

def rtuRequest (unitId : UInt8) : RequestArgs → Bytes
  | .readHolding addr qty => rtuReadRequest unitId addr qty
  | .writeSingle addr value => rtuWriteSingleRequest unitId addr value
  | .writeMultiple addr qty data =>
      rtuWriteMultipleRequest unitId addr qty ((List.range qty.toNat).map data)

def tcpRequest (tid : UInt16) (unitId : UInt8) : RequestArgs → Bytes
  | .readHolding addr qty => buildFc03Request tid unitId addr qty
  | .writeSingle addr value => buildFc06Request tid unitId addr value
  | .writeMultiple addr qty data =>
      buildFc16Request tid unitId addr qty ((List.range qty.toNat).map data)

@[simp] theorem request_data_length (data : Nat → UInt16) (n : Nat) :
    ((List.range n).map data).length = n := by
  rw [List.length_map, List.length_range]

theorem request_data_take (data : Nat → UInt16) (n : Nat) :
    ((List.range n).map data).take n = (List.range n).map data :=
  List.take_of_length_le (request_data_length data n).le

theorem rtuRequestBuffer_carries (stale : Storage) (unitId : UInt8) (args : RequestArgs) :
    (rtuRequestBuffer stale unitId args).Carries (rtuRequest unitId args) := by
  cases args with
  | readHolding addr qty =>
      exact (RequestBuffer.rtuHeader_carries stale unitId _ addr qty).appendCrc
  | writeSingle addr value =>
      exact (RequestBuffer.rtuHeader_carries stale unitId _ addr value).appendCrc
  | writeMultiple addr qty data =>
      have header := RequestBuffer.rtuHeader_carries stale unitId modbusFuncWriteMultipleRegisters
        addr qty
      have counted := header.push (qty * 2).toUInt8
      rw [rtuRequest, rtuWriteMultipleRequest, request_data_take, List.range_eq_range']
      exact (counted.appendData data qty.toNat 0).appendCrc

section Stores

variable {content : Bytes} {buf : Buffer}

theorem storeAdu_holds (stale : Storage) (tid : UInt16) (lenHigh lenLow unitId fc : UInt8)
    (addr nb : UInt16) :
    (storeAdu (.fresh stale) tid lenHigh lenLow unitId fc addr nb).Holds
      [hi tid, lo tid, 0x00, 0x00, lenHigh, lenLow, unitId, fc, hi addr, lo addr, hi nb,
        lo nb] := by
  have transaction := ((Buffer.fresh_holds stale).store_at rfl (hi tid)).store_at rfl (lo tid)
  have protocol := (transaction.store_at rfl 0x00).store_at rfl 0x00
  have length := (protocol.store_at rfl lenHigh).store_at rfl lenLow
  have function := (length.store_at rfl unitId).store_at rfl fc
  have address := (function.store_at rfl (hi addr)).store_at rfl (lo addr)
  exact (address.store_at rfl (hi nb)).store_at rfl (lo nb)

theorem storeData_holds (holds : buf.Holds content) (data : Nat → UInt16) (todo : Nat) {i : Nat}
    (next : content.length = aduOffsetFc16DataStart + i * 2) :
    (storeData data todo i buf).Holds (content ++ bigEndian ((List.range' i todo).map data)) := by
  induction todo generalizing i content buf with
  | zero =>
      have nothing : content ++ bigEndian ((List.range' i 0).map data) = content := by
        simp [bigEndian]
      rwa [nothing]
  | succ todo ih =>
      have high := holds.store_at next.symm (hi (data i))
      have beside : aduOffsetFc16DataStart + i * 2 + 1 = (content ++ [hi (data i)]).length := by
        rw [List.length_append, next, List.length_singleton]
      have low := high.store_at beside (lo (data i))
      have size : (content ++ [hi (data i)] ++ [lo (data i)]).length =
          aduOffsetFc16DataStart + (i + 1) * 2 := by
        simp only [List.length_append, List.length_singleton, next]
        omega
      have rest := ih low size
      have same : content ++ [hi (data i)] ++ [lo (data i)] ++
          bigEndian ((List.range' (i + 1) todo).map data) =
          content ++ bigEndian ((List.range' i (todo + 1)).map data) := by
        simp [bigEndian, List.range'_succ]
      rwa [same] at rest

end Stores

section Frames

variable {args : RequestArgs}

@[simp] theorem quantity_request (data : Nat → UInt16) (qty : UInt16) :
    quantity ((List.range qty.toNat).map data) = qty := by
  rw [quantity, request_data_length, UInt16.ofNat_toNat]

theorem byteCount_exact {qty : UInt16} (few : qty.toNat ≤ modbusMaxWriteRegisters) :
    ((qty * 2).toUInt8).toNat = 2 * qty.toNat :=
  ((byteCount_eq (few.trans (by decide)) _).mp rfl)

theorem mbapLen_exact {qty : UInt16} (few : qty.toNat ≤ modbusMaxWriteRegisters) :
    (7 + (qty * 2).toUInt8.toUInt16).toNat = 7 + 2 * qty.toNat := by
  have seven : (7 : UInt16).toNat = 7 := rfl
  rw [modbusMaxWriteRegisters] at few
  rw [UInt16.toNat_add, UInt8.toNat_toUInt16, byteCount_exact few, seven, Nat.mod_eq_of_lt]
  omega

theorem refused_guard {qty : UInt16} {most : Nat} (refused : ¬ (qty ≠ 0 ∧ qty.toNat ≤ most)) :
    qty = 0 ∨ qty.toNat > most := by
  by_cases zero : qty = 0
  · exact .inl zero
  · exact .inr (Nat.lt_of_not_le fun few => refused ⟨zero, few⟩)

/-- Neither client sends anything else. -/
theorem calls_refused (refused : ¬ args.Accepted) (rtu : RtuClientCtx) (port : SerialPort)
    (tcp : TcpClientCtx) (socket : TcpSocket) (stale : Bytes) :
    rtuCall rtu port args.request = (mbRtuClientErrArg, none) ∧
      tcpCall tcp socket stale args.request =
        ⟨mbTcpClientErrArg, none, tcp.tid, socket.incoming⟩ := by
  cases args with
  | readHolding addr qty =>
      have guard := refused_guard refused
      constructor
      · exact if_pos guard
      · exact if_pos guard
  | writeSingle addr value => exact absurd trivial refused
  | writeMultiple addr qty data =>
      have guard := refused_guard refused
      rw [RequestArgs.request, rtuCall, tcpCall, quantity_request]
      constructor
      · rw [mbRtuClientWriteMultipleRegisters, if_pos guard]
      · exact if_pos guard

theorem appendUint16Be_foldl (content : Bytes) (values : List UInt16) :
    values.foldl appendUint16Be content = content ++ bigEndian values := by
  induction values generalizing content with
  | nil => exact (List.append_nil content).symm
  | cons value rest ih => rw [List.foldl_cons, ih, appendUint16Be, List.append_assoc]; rfl

theorem pdu_length_le (accepted : args.Accepted) : args.request.pdu.length ≤ 252 := by
  cases args with
  | readHolding addr qty => exact Nat.le_of_ble_eq_true rfl
  | writeSingle addr value => exact Nat.le_of_ble_eq_true rfl
  | writeMultiple addr qty data =>
      have few : qty.toNat ≤ 123 := accepted.2
      simp only [RequestArgs.request, ModbusRequest.pdu, List.length_append, List.length_cons,
        List.length_nil, bigEndian_length, request_data_length]
      omega

theorem rtuRequest_frame (unitId : UInt8) (args : RequestArgs) :
    rtuRequest unitId args = rtuFrame unitId args.request.pdu := by
  cases args with
  | readHolding addr qty => rfl
  | writeSingle addr value => rfl
  | writeMultiple addr qty data =>
      rw [rtuRequest, rtuWriteMultipleRequest, request_data_take, appendUint16Be_foldl,
        byteCount_ofNat, RequestArgs.request, ModbusRequest.pdu, quantity_request,
        request_data_length]
      rfl

theorem tcpRequest_adu (accepted : args.Accepted) (tid : UInt16) (unitId : UInt8) :
    tcpRequest tid unitId args = tcpAdu tid unitId args.request.pdu := by
  cases args with
  | readHolding addr qty => rfl
  | writeSingle addr value => rfl
  | writeMultiple addr qty data =>
      have few : qty.toNat ≤ 123 := accepted.2
      have length : 7 + (qty * 2).toUInt8.toUInt16 =
          UInt16.ofNat ((RequestArgs.writeMultiple addr qty data).request.pdu.length + 1) := by
        have size : (RequestArgs.writeMultiple addr qty data).request.pdu.length =
            6 + 2 * qty.toNat := by
          simp only [RequestArgs.request, ModbusRequest.pdu, List.length_append, List.length_cons,
            List.length_nil, bigEndian_length, request_data_length]
        have bound : 6 + 2 * qty.toNat + 1 < UInt16.size := by
          rw [UInt16.size]
          omega
        apply UInt16.toNat_inj.mp
        rw [size, mbapLen_exact accepted.2, UInt16.toNat_ofNat_of_lt' bound]
        omega
      rw [tcpRequest, buildFc16Request, request_data_take, length, byteCount_ofNat, tcpAdu,
        RequestArgs.request, ModbusRequest.pdu, quantity_request, request_data_length]
      simp

/-- Reading a request by the Modbus definition gives what the client was asked to send. -/
theorem decode_request (accepted : args.Accepted) :
    decodePdu args.request.pdu = some args.request := by
  cases args with
  | readHolding addr qty =>
      simp [RequestArgs.request, ModbusRequest.pdu, modbusFuncReadHoldingRegisters, decodePdu,
        word_hi_lo]
  | writeSingle addr value =>
      simp [RequestArgs.request, ModbusRequest.pdu, modbusFuncWriteSingleRegister, decodePdu,
        word_hi_lo]
  | writeMultiple addr qty data =>
      have counted : (UInt8.ofNat (2 * qty.toNat)).toNat = 2 * qty.toNat := by
        rw [← byteCount_ofNat]
        exact byteCount_exact accepted.2
      have values : registersAt (bigEndian ((List.range qty.toNat).map data)) 0 qty.toNat =
          (List.range qty.toNat).map data := by
        have read := registersAt_bigEndian [] [] ((List.range qty.toNat).map data) rfl
          (request_data_length data _)
        rwa [List.nil_append, List.append_nil] at read
      simp only [RequestArgs.request, ModbusRequest.pdu, quantity_request, request_data_length,
        modbusFuncWriteMultipleRegisters, List.cons_append, List.nil_append, decodePdu, word_hi_lo,
        counted, bigEndian_length, and_self, if_true, values]

end Frames

structure RtuFramed (tx : RequestBuffer) (unitId : UInt8) (pdu : Bytes) : Prop where
  sent : tx.sent = unitId :: pdu ++
    [lo (mbRtuComputeCrc16 (unitId :: pdu)), hi (mbRtuComputeCrc16 (unitId :: pdu))]
  inside : ∀ offset ∈ tx.req.stored, offset < modbusRtuMaxAduLength

structure TcpFramed (tx : RequestBuffer) (tid : UInt16) (unitId : UInt8) (pdu : Bytes)
    (capacity : Nat) : Prop where
  sent : ∃ len : UInt16, tx.sent = mbapHeader tid len ++ unitId :: pdu
  remaining : mbapRemaining tx.sent = (tx.sent.drop modbusTcpMbapHeaderLen).length
  inside : ∀ offset ∈ tx.req.stored, offset < capacity

section Framed

variable {args : RequestArgs}

theorem rtu_framed (accepted : args.Accepted) (stale : Storage) (unitId : UInt8) :
    RtuFramed (rtuRequestBuffer stale unitId args) unitId args.request.pdu := by
  have carries := rtuRequestBuffer_carries stale unitId args
  rw [rtuRequest_frame] at carries
  have room : (rtuFrame unitId args.request.pdu).length ≤ modbusRtuMaxAduLength := by
    have size := pdu_length_le accepted
    rw [rtuFrame_length, modbusRtuMaxAduLength]
    omega
  exact ⟨carries.sent, carries.req.stored_lt room⟩

theorem tcpRequestBuffer_carries (accepted : args.Accepted) (stale : Storage) (tid : UInt16)
    (unitId : UInt8) : (tcpRequestBuffer stale tid unitId args).Carries
      (tcpRequest tid unitId args) := by
  cases args with
  | readHolding addr qty => exact ⟨rfl, storeAdu_holds stale tid _ _ unitId _ addr qty⟩
  | writeSingle addr value => exact ⟨rfl, storeAdu_holds stale tid _ _ unitId _ addr value⟩
  | writeMultiple addr qty data =>
      have header := storeAdu_holds stale tid (hi (7 + (qty * 2).toUInt8.toUInt16))
        (lo (7 + (qty * 2).toUInt8.toUInt16)) unitId modbusFuncWriteMultipleRegisters addr qty
      have next : aduOffsetFc16ByteCount = 12 := rfl
      have counted := header.store_at next (qty * 2).toUInt8
      rw [tcpRequest, buildFc16Request, request_data_take, List.range_eq_range']
      constructor
      · simp only [tcpRequestBuffer, storeFc16Request, modbusTcpMbapHeaderLen,
          mbapLen_exact accepted.2, mbapHeader, List.length_append, List.length_cons,
          List.length_nil, bigEndian_length, List.length_map, List.length_range']
        omega
      · exact storeData_holds counted data qty.toNat rfl

theorem tcp_framed (accepted : args.Accepted) (stale : Storage) (tid : UInt16) (unitId : UInt8) :
    TcpFramed (tcpRequestBuffer stale tid unitId args) tid unitId args.request.pdu
      (tcpRequestCapacity args) := by
  have carries := tcpRequestBuffer_carries accepted stale tid unitId
  rw [tcpRequest_adu accepted] at carries
  have few : args.request.pdu.length ≤ 253 := (pdu_length_le accepted).trans (by decide)
  have room : (tcpAdu tid unitId args.request.pdu).length ≤ tcpRequestCapacity args := by
    rw [tcpAdu_length]
    cases args with
    | readHolding addr qty => exact Nat.le_of_ble_eq_true rfl
    | writeSingle addr value => exact Nat.le_of_ble_eq_true rfl
    | writeMultiple addr qty data =>
        simp only [modbusTcpMbapHeaderLen, tcpRequestCapacity, modbusTcpMaxAduLength]
        omega
  constructor
  · exact ⟨_, carries.sent⟩
  · have header : mbapRemaining (tcpAdu tid unitId args.request.pdu) =
        args.request.pdu.length + 1 := by
      rw [← List.append_nil (tcpAdu tid unitId args.request.pdu)]
      exact mbapRemaining_adu few []
    rw [carries.sent, header, List.length_drop, tcpAdu_length, Nat.add_sub_cancel_left]
  · exact carries.req.stored_lt room

/-- Whatever was in the buffers, both clients send the same request, framed for their transport,
and the request says what the client was asked for. -/
theorem requests_framed (stale : Storage) (tid : UInt16) (unitId : UInt8) (args : RequestArgs)
    (accepted : args.Accepted) :
    RtuFramed (rtuRequestBuffer stale unitId args) unitId args.request.pdu ∧
      TcpFramed (tcpRequestBuffer stale tid unitId args) tid unitId args.request.pdu
        (tcpRequestCapacity args) ∧
      (∀ addr qty data, args = .writeMultiple addr qty data →
        (args.request.pdu.getD 5 0).toNat = 2 * qty.toNat) ∧
      decodePdu args.request.pdu = some args.request := by
  apply And.intro (rtu_framed accepted stale unitId)
  apply And.intro (tcp_framed accepted stale tid unitId)
  apply And.intro _ (decode_request accepted)
  rintro addr qty data rfl
  calc
    ((RequestArgs.writeMultiple addr qty data).request.pdu.getD 5 0).toNat =
        (UInt8.ofNat (2 * qty.toNat)).toNat := by
      simp [RequestArgs.request, ModbusRequest.pdu]
    _ = 2 * qty.toNat := by rw [← byteCount_ofNat, byteCount_exact accepted.2]

theorem requests_framed_123 :
    let args := RequestArgs.writeMultiple 0x2000 123 fun i => UInt16.ofNat i
    args.Accepted ∧ RtuFramed (rtuRequestBuffer (fun _ => 0xA5) 1 args) 1 args.request.pdu ∧
      TcpFramed (tcpRequestBuffer (fun _ => 0xA5) 7 1 args) 7 1 args.request.pdu 260 := by
  intro args
  have accepted : args.Accepted := ⟨by decide, by decide⟩
  rcases requests_framed (fun _ => 0xA5) 7 1 args accepted with ⟨rtu, tcp, _⟩
  exact ⟨accepted, rtu, tcp⟩

end Framed

end Rs485Gateway
