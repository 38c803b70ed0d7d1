import Rs485Gateway.Modbus.StreamSync

namespace Rs485Gateway

/-- The bytes of the response; `none` is the result -1. -/
def mbTcpBuildReadRegistersResponse (tid : UInt16) (functionCode unitId : UInt8)
    (data : Nat → UInt16) (quantity : UInt16) (responseCap : Nat) : Option Bytes :=
  if quantity.toNat > 125 then none
  else
    let pduLen := 1 + 1 + quantity.toNat * 2
    let mbapLen := 1 + pduLen
    let total := modbusTcpMbapHeaderLen + mbapLen
    if responseCap < total then none
    else
      some (mbapHeader tid (UInt16.ofNat mbapLen) ++
        [unitId, functionCode, (quantity * 2).toUInt8] ++
        bigEndian ((List.range quantity.toNat).map data))

section Build

variable {tid quantity : UInt16} {unitId : UInt8} {data : Nat → UInt16} {cap : Nat}

theorem readResponse_built (few : quantity.toNat ≤ modbusMaxReadRegisters)
    (room : fc03ResponseHeaderLen + 2 * quantity.toNat ≤ cap) (addr : UInt16) :
    mbTcpBuildReadRegistersResponse tid modbusFuncReadHoldingRegisters unitId data quantity cap =
      some (tcpAdu tid unitId ((ModbusReply.normal ((List.range quantity.toNat).map data)).pdu
        (.readHolding addr quantity))) := by
  have counted : ¬ quantity.toNat > 125 := Nat.not_lt.mpr few
  have long : ¬ cap < modbusTcpMbapHeaderLen + (1 + (1 + 1 + quantity.toNat * 2)) := by
    rw [fc03ResponseHeaderLen] at room
    rw [modbusTcpMbapHeaderLen]
    omega
  have length : 1 + (1 + 1 + quantity.toNat * 2) =
      ((ModbusReply.normal ((List.range quantity.toNat).map data)).pdu
        (.readHolding addr quantity)).length + 1 := by
    simp only [ModbusReply.pdu, List.length_append, List.length_cons, List.length_nil,
      bigEndian_length, List.length_map, List.length_range]
    omega
  rw [mbTcpBuildReadRegistersResponse, if_neg counted]
  simp only [if_neg long]
  rw [tcpAdu, ← length, List.append_assoc]
  rfl

end Build

/-- The client reads back the registers a response was built from, in whatever pieces it
comes, and leaves the stream at what follows. -/
theorem readResponse_roundTrip (ctx : TcpClientCtx) (connected : ctx.connected = true)
    (addr quantity : UInt16) (counted : quantity ≠ 0)
    (few : quantity.toNat ≤ modbusMaxReadRegisters) (unitId : UInt8) (data : Nat → UInt16)
    (cap : Nat) (room : fc03ResponseHeaderLen + 2 * quantity.toNat ≤ cap) :
    ∃ adu, mbTcpBuildReadRegistersResponse (nextTid ctx.tid) modbusFuncReadHoldingRegisters unitId
        data quantity cap = some adu ∧
      ∀ (socket : TcpSocket) (next stale : Bytes),
        (∀ req, socket.send req = req.length) → (∀ j, ∃ n, socket.outcome j = .data n) →
          socket.incoming = adu ++ next →
            mbTcpClientReadHoldingRegisters ctx addr quantity socket stale =
              ⟨mbTcpClientOk, some ((List.range quantity.toNat).map data),
                nextTid ctx.tid, next⟩ := by
  refine ⟨_, readResponse_built few room addr, fun socket next stale sent brings arrives => ?_⟩
  have size : ((List.range quantity.toNat).map data).length = quantity.toNat := by simp
  have short : ((ModbusReply.normal ((List.range quantity.toNat).map data)).pdu
      (.readHolding addr quantity)).length ≤ 253 := by
    simp only [modbusMaxReadRegisters] at few
    simp only [ModbusReply.pdu, List.length_append, List.length_cons, List.length_nil,
      bigEndian_length, size]
    omega
  rw [mbTcpClientReadHoldingRegisters, if_neg (read_ok counted few), if_neg (by simp [connected])]
  simp only [tcpTransaction_front (sent _) brings arrives short]
  rw [judgeRead_normal size]

theorem readResponse_roundTrip_bytes :
    mbTcpClientReadHoldingRegisters ⟨true, 1, 0⟩ 0x2000 2
        ⟨fun req => req.length, fun _ => .data 1, [0, 1, 0, 0, 0, 7, 1, 3, 4, 1, 2, 3, 4] ++ [0, 2]⟩
        [] =
      ⟨mbTcpClientOk, some [0x0102, 0x0304], 1, [0, 2]⟩ := by
  rcases readResponse_roundTrip ⟨true, 1, 0⟩ rfl 0x2000 2 (by decide) (by decide) 1
    (fun i => if i = 0 then 0x0102 else 0x0304) 260 (by decide) with ⟨adu, built, read⟩
  have bytes : adu = [0, 1, 0, 0, 0, 7, 1, 3, 4, 1, 2, 3, 4] :=
    (Option.some.inj (built.symm.trans (by decide +kernel)))
  exact (read _ _ [] (fun _ => rfl) (fun _ => ⟨1, rfl⟩) (by rw [bytes])).trans
    rfl

end Rs485Gateway
