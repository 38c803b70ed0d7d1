import Rs485Gateway.Modbus.Bytes

/-! The serial client (`modbus_rtu_client.c`): one request, one reply of the length the
request asks for. -/

namespace Rs485Gateway

def clientOk : Int := 0

def mbRtuClientErrArg : Int := -1
def mbRtuClientErrNotOpen : Int := -2
def mbRtuClientErrTransport : Int := -3
def mbRtuClientErrTimeout : Int := -4
def mbRtuClientErrFrame : Int := -5
def mbRtuClientErrCrc : Int := -6

structure RtuClientCtx where
  opened : Bool
  unitId : UInt8

inductive SerialEvent where
  | data (bytes : Bytes)
  | timeout
  | error
  deriving DecidableEq

/-- The port during one transaction, from the flush on: what `write` returns, and what the
line brings afterwards. -/
structure SerialPort where
  write : Bytes → Int
  events : List SerialEvent

inductive ReadStop where
  | complete
  | timeout
  | error
  deriving DecidableEq

/-- `read_exact` with the bytes received so far; a silent line times out, and an empty
`read` is an error. -/
def readExact (n : Nat) : Bytes → List SerialEvent → ReadStop × Bytes
  | received, [] => (if received.length < n then .timeout else .complete, received)
  | received, event :: rest =>
      if received.length < n then
        match event with
        | .timeout => (.timeout, received)
        | .error => (.error, received)
        | .data bytes =>
            if bytes = [] then (.error, received)
            else readExact n (received ++ bytes.take (n - received.length)) rest
      else (.complete, received)

/-- What a transaction makes of a response of the expected length. -/
def judgeResponse (ctx : RtuClientCtx) (resp : Bytes) : Int :=
  if ¬ verifyResponseCrc resp then mbRtuClientErrCrc
  else if resp.getD 0 0 ≠ ctx.unitId then mbRtuClientErrFrame
  else if resp.getD 1 0 &&& modbusExceptionFlag ≠ 0 then
    if resp.length ≥ 3 + modbusRtuCrcLen then ((resp.getD 2 0).toNat : Int)
    else mbRtuClientErrFrame
  else clientOk

def doTransaction (ctx : RtuClientCtx) (port : SerialPort) (req : Bytes) (respLen : Nat) :
    Int × Bytes :=
  if port.write req ≠ req.length then (mbRtuClientErrTransport, [])
  else
    match readExact respLen [] port.events with
    | (.timeout, resp) => (mbRtuClientErrTimeout, resp)
    | (.error, resp) => (mbRtuClientErrTransport, resp)
    | (.complete, resp) => (judgeResponse ctx resp, resp)

def rtuReadRequest (unitId : UInt8) (addr qty : UInt16) : Bytes :=
  appendCrc (appendUint16Be (appendUint16Be [unitId, modbusFuncReadHoldingRegisters] addr) qty)

def rtuWriteSingleRequest (unitId : UInt8) (addr value : UInt16) : Bytes :=
  appendCrc (appendUint16Be (appendUint16Be [unitId, modbusFuncWriteSingleRegister] addr) value)

def rtuWriteMultipleRequest (unitId : UInt8) (addr qty : UInt16) (data : List UInt16) : Bytes :=
  let header := appendUint16Be
    (appendUint16Be [unitId, modbusFuncWriteMultipleRegisters] addr) qty
  appendCrc ((data.take qty.toNat).foldl appendUint16Be (header ++ [(qty * 2).toUInt8]))

/-- The registers are `none` where the call leaves `out` as it was. -/
def mbRtuClientReadHoldingRegisters (ctx : RtuClientCtx) (addr qty : UInt16)
    (port : SerialPort) : Int × Option (List UInt16) :=
  if qty = 0 ∨ qty.toNat > modbusMaxReadRegisters then (mbRtuClientErrArg, none)
  else if ¬ ctx.opened then (mbRtuClientErrNotOpen, none)
  else
    let respLen := 1 + 1 + 1 + qty.toNat * 2 + modbusRtuCrcLen
    let (result, resp) := doTransaction ctx port (rtuReadRequest ctx.unitId addr qty) respLen
    if result = clientOk then
      if resp.getD 1 0 ≠ modbusFuncReadHoldingRegisters ∨ resp.getD 2 0 ≠ (qty * 2).toUInt8 then
        (mbRtuClientErrFrame, none)
      else (clientOk, some (registersAt resp 3 qty.toNat))
    else (result, none)

/-- What both writes do with the reply to their function code. -/
def rtuWrite (ctx : RtuClientCtx) (port : SerialPort) (fc : UInt8) (req : Bytes)
    (respLen : Nat) : Int :=
  let (result, resp) := doTransaction ctx port req respLen
  if result = clientOk then
    if resp.getD 1 0 ≠ fc then mbRtuClientErrFrame else clientOk
  else result

def mbRtuClientWriteSingleRegister (ctx : RtuClientCtx) (addr value : UInt16)
    (port : SerialPort) : Int :=
  if ¬ ctx.opened then mbRtuClientErrNotOpen
  else
    let req := rtuWriteSingleRequest ctx.unitId addr value
    rtuWrite ctx port modbusFuncWriteSingleRegister req req.length

def mbRtuClientWriteMultipleRegisters (ctx : RtuClientCtx) (addr qty : UInt16)
    (data : List UInt16) (port : SerialPort) : Int :=
  if qty = 0 ∨ qty.toNat > modbusMaxWriteRegisters then mbRtuClientErrArg
  else if ¬ ctx.opened then mbRtuClientErrNotOpen
  else
    rtuWrite ctx port modbusFuncWriteMultipleRegisters
      (rtuWriteMultipleRequest ctx.unitId addr qty data) (1 + 1 + 2 + 2 + modbusRtuCrcLen)

section Receive

def arrived : List SerialEvent → Bytes
  | [] => []
  | .timeout :: _ => []
  | .error :: _ => []
  | .data bytes :: rest => if bytes = [] then [] else bytes ++ arrived rest

def stopOf : List SerialEvent → ReadStop
  | [] => .timeout
  | .timeout :: _ => .timeout
  | .error :: _ => .error
  | .data bytes :: rest => if bytes = [] then .error else stopOf rest

theorem stopOf_ne (events : List SerialEvent) : stopOf events ≠ .complete := by
  induction events with
  | nil => decide
  | cons event rest ih =>
      cases event with
      | timeout => simp [stopOf]
      | error => simp [stopOf]
      | data bytes =>
          rw [stopOf]
          split
          · decide
          · exact ih

theorem readExact_full {n : Nat} {received : Bytes} (full : received.length = n)
    (events : List SerialEvent) : readExact n received events = (.complete, received) := by
  cases events with
  | nil => rw [readExact, if_neg (by omega)]
  | cons event rest =>
      rw [readExact.eq_def]
      exact if_neg (by omega)

/-- In whatever pieces the bytes come, exactly the first `n` are read. -/
theorem readExact_arrived (n : Nat) (received : Bytes) (events : List SerialEvent)
    (room : received.length ≤ n) :
    readExact n received events =
      if n ≤ (received ++ arrived events).length then
        (.complete, (received ++ arrived events).take n)
      else (stopOf events, received ++ arrived events) := by
  induction events generalizing received with
  | nil =>
      rw [readExact, arrived, List.append_nil, stopOf]
      by_cases short : received.length < n
      · rw [if_pos short, if_neg (by omega)]
      · rw [if_neg short, if_pos (by omega), List.take_of_length_le room]
  | cons event rest ih =>
      rw [readExact.eq_def]
      simp only
      by_cases short : received.length < n
      · have less : ¬ n ≤ (received ++ []).length := by
          rw [List.append_nil]
          omega
        rw [if_pos short]
        cases event with
        | timeout => rw [arrived, if_neg less, stopOf, List.append_nil]
        | error => rw [arrived, if_neg less, stopOf, List.append_nil]
        | data bytes =>
            rw [arrived, stopOf]
            by_cases empty : bytes = []
            · dsimp only
              rw [if_pos empty, if_pos empty, if_pos empty, if_neg less, List.append_nil]
            · dsimp only
              rw [if_neg empty, if_neg empty, if_neg empty]
              by_cases fits : bytes.length ≤ n - received.length
              · have whole := ih (received ++ bytes)
                  (by rw [List.length_append]; omega)
                rw [List.take_of_length_le fits, whole, List.append_assoc]
              · have filled : (received ++ bytes.take (n - received.length)).length = n := by
                  rw [List.length_append, List.length_take]
                  omega
                have first : (received ++ (bytes ++ arrived rest)).take n =
                    received ++ bytes.take (n - received.length) := by
                  rw [List.take_append, List.take_of_length_le room,
                    List.take_append_of_le_length (by omega)]
                rw [readExact_full filled, first,
                  if_pos (by simp only [List.length_append]; omega)]
      · have full : received.length = n := by omega
        rw [if_neg short, if_pos (by rw [List.length_append]; omega), ← full, List.take_left]

variable {ctx : RtuClientCtx} {port : SerialPort} {req : Bytes} {n : Nat}

theorem doTransaction_arrived (written : port.write req = req.length)
    (enough : n ≤ (arrived port.events).length) :
    doTransaction ctx port req n =
      (judgeResponse ctx ((arrived port.events).take n), (arrived port.events).take n) := by
  have read := readExact_arrived n [] port.events (Nat.zero_le n)
  rw [List.nil_append, if_pos enough] at read
  rw [doTransaction, if_neg (not_not.mpr written), read]

theorem doTransaction_short (short : (arrived port.events).length < n) :
    (doTransaction ctx port req n).1 < 0 := by
  have read := readExact_arrived n [] port.events (Nat.zero_le n)
  rw [List.nil_append, if_neg (Nat.not_le.mpr short)] at read
  rw [doTransaction, read]
  split
  · decide
  · cases stop : stopOf port.events with
    | complete => exact absurd stop (stopOf_ne port.events)
    | timeout => exact (by decide : mbRtuClientErrTimeout < 0)
    | error => exact (by decide : mbRtuClientErrTransport < 0)

end Receive

end Rs485Gateway
