import Rs485Gateway.Modbus.TcpClient

/-! The request builders and the request parser of `modbus_tcp.c`. -/

namespace Rs485Gateway

structure BuiltRequest where
  rc : Int
  written : Bytes
  tid : UInt16

def mbTcpBuildRequestBasis (tid : UInt16) (modbusUid : UInt8) (function addr : Int) (nb : UInt16)
    (reqCap : Nat) : BuiltRequest :=
  if reqCap < modbusTcpMinReadReqLength then ⟨-1, [], tid⟩
  else if function < 0 ∨ function > 255 ∨ addr < 0 ∨ addr > 65535 then ⟨-1, [], tid⟩
  else
    let next := nextTid tid
    let address := UInt16.ofNat addr.toNat
    ⟨0, mbapHeader next 6 ++
      [modbusUid, UInt8.ofNat function.toNat, hi address, lo address, hi nb, lo nb], next⟩

def mbTcpBuildFc06Request (tid : UInt16) (modbusUid : UInt8) (addr value : UInt16) (reqCap : Nat) :
    BuiltRequest :=
  if reqCap < modbusTcpMinReadReqLength then ⟨-1, [], tid⟩
  else ⟨0, buildFc06Request (nextTid tid) modbusUid addr value, nextTid tid⟩

/-- The copy loop runs over `numRegisters`, everything else over the byte count. -/
def mbTcpBuildFc16Request (tid : UInt16) (modbusUid : UInt8) (addr numRegisters : UInt16)
    (values : Nat → UInt16) (reqCap : Nat) : BuiltRequest :=
  if numRegisters = 0 then ⟨-1, [], tid⟩
  else
    let byteCount := (numRegisters * 2).toUInt8
    let mbapLen := 7 + byteCount.toUInt16
    let totalLen := modbusTcpMbapHeaderLen + mbapLen.toNat
    if reqCap < totalLen then ⟨-1, [], tid⟩
    else
      let next := nextTid tid
      ⟨totalLen, mbapHeader next mbapLen ++
        [modbusUid, modbusFuncWriteMultipleRegisters, hi addr, lo addr, hi numRegisters,
          lo numRegisters, byteCount] ++
        bigEndian ((List.range numRegisters.toNat).map values), next⟩

/-- Function code, address and quantity of a request that is accepted. -/
def mbTcpParseRequest (request : Bytes) : Option (UInt8 × UInt16 × UInt16) :=
  if request.length < modbusTcpMbapHeaderLen then none
  else
    let mbapLen := mbapRemaining request
    if mbapLen < 6 then none
    else if mbapLen > modbusTcpMaxAduLength - modbusTcpMbapHeaderLen then none
    else if request.length < modbusTcpMbapHeaderLen + mbapLen then none
    else
      let functionCode := request.getD 7 0
      let address := word (request.getD 8 0) (request.getD 9 0)
      if functionCode = modbusFuncWriteSingleRegister then some (functionCode, address, 1)
      else some (functionCode, address, word (request.getD 10 0) (request.getD 11 0))

inductive BuildRequest where
  | basis (function addr : Int) (nb : UInt16)
  | fc06 (addr value : UInt16)
  | fc16 (addr numRegisters : UInt16) (values : Nat → UInt16)

namespace BuildRequest

def build (tid : UInt16) (modbusUid : UInt8) (reqCap : Nat) : BuildRequest → BuiltRequest
  | .basis function addr nb => mbTcpBuildRequestBasis tid modbusUid function addr nb reqCap
  | .fc06 addr value => mbTcpBuildFc06Request tid modbusUid addr value reqCap
  | .fc16 addr numRegisters values =>
      mbTcpBuildFc16Request tid modbusUid addr numRegisters values reqCap

def fields : BuildRequest → Int × Int × Nat
  | .basis function addr nb => (function, addr, if function = 6 then 1 else nb.toNat)
  | .fc06 addr _ => (6, addr.toNat, 1)
  | .fc16 addr numRegisters _ => (16, addr.toNat, numRegisters.toNat)

/-- For FC16 the byte count in the frame and the returned length fit the registers. -/
def Counts (built : BuiltRequest) : BuildRequest → Prop
  | .fc16 _ numRegisters _ => (built.written.getD 12 0).toNat = 2 * numRegisters.toNat ∧
      built.rc = 13 + 2 * numRegisters.toNat
  | _ => True

def Oversized (reqCap : Nat) : BuildRequest → Prop
  | .fc16 _ numRegisters _ => modbusMaxWriteRegisters < numRegisters.toNat ∧
      13 + 2 * numRegisters.toNat % 256 ≤ reqCap
  | _ => False

end BuildRequest

structure BuiltSound (reqCap : Nat) (request : BuildRequest) (built : BuiltRequest) : Prop where
  inside : built.written.length ≤ reqCap
  length : modbusTcpMbapHeaderLen + mbapRemaining built.written = built.written.length
  counts : request.Counts built
  parsed : ∃ functionCode address quantity,
    mbTcpParseRequest built.written = some (functionCode, address, quantity) ∧
      ((functionCode.toNat : Int), (address.toNat : Int), quantity.toNat) = request.fields

section Parse

def requestFrame (tid len : UInt16) (modbusUid fc : UInt8) (addr quantity : UInt16)
    (rest : Bytes) : Bytes :=
  mbapHeader tid len ++ ([modbusUid, fc, hi addr, lo addr, hi quantity, lo quantity] ++ rest)

variable {tid len addr quantity : UInt16} {modbusUid fc : UInt8} {rest : Bytes}

theorem requestFrame_length :
    (requestFrame tid len modbusUid fc addr quantity rest).length = 12 + rest.length := by
  simp only [requestFrame, mbapHeader, List.length_append, List.length_cons, List.length_nil]
  omega

theorem requestFrame_remaining :
    mbapRemaining (requestFrame tid len modbusUid fc addr quantity rest) = len.toNat := by
  simp [mbapRemaining, requestFrame, mbapHeader, word_hi_lo]

theorem parse_requestFrame (sized : len.toNat = 6 + rest.length) (few : len.toNat ≤ 254) :
    mbTcpParseRequest (requestFrame tid len modbusUid fc addr quantity rest) =
      some (fc, addr, if fc = modbusFuncWriteSingleRegister then 1 else quantity) := by
  have header : ¬ 12 + rest.length < modbusTcpMbapHeaderLen := by
    rw [modbusTcpMbapHeaderLen]
    omega
  have whole : ¬ 12 + rest.length < modbusTcpMbapHeaderLen + len.toNat := by
    rw [modbusTcpMbapHeaderLen]
    omega
  have most : ¬ len.toNat > modbusTcpMaxAduLength - modbusTcpMbapHeaderLen := by
    rw [modbusTcpMaxAduLength, modbusTcpMbapHeaderLen]
    omega
  rw [mbTcpParseRequest, requestFrame_length, requestFrame_remaining, if_neg header]
  simp only [if_neg whole, if_neg most, if_neg (by omega : ¬ len.toNat < 6)]
  simp only [requestFrame, mbapHeader, List.cons_append, List.nil_append, List.getD_cons_succ,
    List.getD_cons_zero, word_hi_lo]
  split
  · rfl
  · rfl

theorem parse_oversized (many : 254 < len.toNat) :
    mbTcpParseRequest (requestFrame tid len modbusUid fc addr quantity rest) = none := by
  have most : len.toNat > modbusTcpMaxAduLength - modbusTcpMbapHeaderLen := many
  have enough : ¬ len.toNat < 6 := by omega
  rw [mbTcpParseRequest, requestFrame_remaining]
  simp only [if_neg enough, if_pos most, ite_self]

end Parse

section Build

variable {tid : UInt16} {modbusUid : UInt8} {reqCap : Nat}

theorem frame_sound {request : BuildRequest} {len addr quantity next : UInt16} {fc : UInt8}
    {rest : Bytes} {rc : Int} (sized : len.toNat = 6 + rest.length) (few : len.toNat ≤ 254)
    (room : 12 + rest.length ≤ reqCap)
    (counts : request.Counts
      ⟨rc, requestFrame next len modbusUid fc addr quantity rest, next⟩)
    (fields : ((fc.toNat : Int), (addr.toNat : Int),
      (if fc = modbusFuncWriteSingleRegister then 1 else quantity).toNat) = request.fields) :
    BuiltSound reqCap request
      ⟨rc, requestFrame next len modbusUid fc addr quantity rest, next⟩ where
  inside := by rwa [requestFrame_length]
  length := by
    rw [requestFrame_length, requestFrame_remaining, sized, modbusTcpMbapHeaderLen]
    omega
  counts := counts
  parsed := ⟨fc, addr, _, parse_requestFrame sized few, fields⟩

theorem basis_built {function addr : Int} {nb : UInt16}
    (ok : (mbTcpBuildRequestBasis tid modbusUid function addr nb reqCap).rc ≠ -1) :
    BuiltSound reqCap (.basis function addr nb)
      (mbTcpBuildRequestBasis tid modbusUid function addr nb reqCap) := by
  rw [mbTcpBuildRequestBasis] at ok ⊢
  split
  · rename_i small
    rw [if_pos small] at ok
    exact absurd rfl ok
  · rename_i room
    rw [if_neg room] at ok
    split
    · rename_i outside
      rw [if_pos outside] at ok
      exact absurd rfl ok
    · rename_i inside
      have code : ((UInt8.ofNat function.toNat).toNat : Int) = function := by
        rw [UInt8.toNat_ofNat_of_lt' (by simp only [UInt8.size]; omega)]
        omega
      have address : ((UInt16.ofNat addr.toNat).toNat : Int) = addr := by
        rw [UInt16.toNat_ofNat_of_lt' (by simp only [UInt16.size]; omega)]
        omega
      have single : UInt8.ofNat function.toNat = modbusFuncWriteSingleRegister ↔ function = 6 := by
        constructor
        · intro same
          rw [← code, same]
          rfl
        · intro six
          rw [six]
          rfl
      apply @frame_sound modbusUid reqCap (.basis function addr nb) 6
        (UInt16.ofNat addr.toNat) nb _ (UInt8.ofNat function.toNat) [] 0
      · rfl
      · decide
      · exact Nat.not_lt.mp room
      · trivial
      · simp only [BuildRequest.fields, code, address, single]
        split
        · rfl
        · rfl

theorem fc06_built {addr value : UInt16}
    (ok : (mbTcpBuildFc06Request tid modbusUid addr value reqCap).rc ≠ -1) :
    BuiltSound reqCap (.fc06 addr value)
      (mbTcpBuildFc06Request tid modbusUid addr value reqCap) := by
  rw [mbTcpBuildFc06Request] at ok ⊢
  split
  · rename_i small
    rw [if_pos small] at ok
    exact absurd rfl ok
  · rename_i room
    apply @frame_sound modbusUid reqCap (.fc06 addr value) 6 addr value _
      modbusFuncWriteSingleRegister [] 0
    · rfl
    · decide
    · exact Nat.not_lt.mp room
    · trivial
    · rfl

theorem fc16_cases {addr numRegisters : UInt16} {values : Nat → UInt16} :
    (mbTcpBuildFc16Request tid modbusUid addr numRegisters values reqCap).rc = -1 ∧
        (numRegisters.toNat = 0 ∨ reqCap < 13 + 2 * numRegisters.toNat % 256) ∨
      numRegisters.toNat ≠ 0 ∧ 13 + 2 * numRegisters.toNat % 256 ≤ reqCap ∧
        mbTcpBuildFc16Request tid modbusUid addr numRegisters values reqCap =
          ⟨(13 + 2 * numRegisters.toNat % 256 : Nat),
            requestFrame (nextTid tid) (7 + ((numRegisters * 2).toUInt8).toUInt16) modbusUid
              modbusFuncWriteMultipleRegisters addr numRegisters
              ((numRegisters * 2).toUInt8 ::
                bigEndian ((List.range numRegisters.toNat).map values)), nextTid tid⟩ := by
  have count : (7 + ((numRegisters * 2).toUInt8).toUInt16).toNat =
      7 + 2 * numRegisters.toNat % 256 := by
    simp only [UInt16.toNat_add, UInt8.toNat_toUInt16, UInt16.toNat_toUInt8, UInt16.toNat_mul,
      UInt16.toNat_ofNat]
    omega
  have total : modbusTcpMbapHeaderLen + (7 + ((numRegisters * 2).toUInt8).toUInt16).toNat =
      13 + 2 * numRegisters.toNat % 256 := by
    rw [count, modbusTcpMbapHeaderLen]
    omega
  rw [mbTcpBuildFc16Request]
  by_cases none : numRegisters = 0
  · rw [if_pos none]
    exact .inl ⟨rfl, .inl (congrArg UInt16.toNat none)⟩
  · rw [if_neg none]
    simp only [total]
    by_cases small : reqCap < 13 + 2 * numRegisters.toNat % 256
    · rw [if_pos small]
      exact .inl ⟨rfl, .inr small⟩
    · rw [if_neg small]
      refine .inr ⟨fun zero => none (UInt16.toNat_inj.mp zero), Nat.not_lt.mp small, ?_⟩
      simp only [requestFrame, List.append_assoc]
      rfl

theorem fc16_built {addr numRegisters : UInt16} {values : Nat → UInt16}
    (few : numRegisters.toNat ≤ modbusMaxWriteRegisters)
    (ok : (mbTcpBuildFc16Request tid modbusUid addr numRegisters values reqCap).rc ≠ -1) :
    BuiltSound reqCap (.fc16 addr numRegisters values)
      (mbTcpBuildFc16Request tid modbusUid addr numRegisters values reqCap) := by
  rcases @fc16_cases tid modbusUid reqCap addr numRegisters values with
    ⟨failed, -⟩ | ⟨some, room, built⟩
  · exact absurd failed ok
  · simp only [modbusMaxWriteRegisters] at few
    have byteCount : ((numRegisters * 2).toUInt8).toNat = 2 * numRegisters.toNat := by
      simp only [UInt16.toNat_toUInt8, UInt16.toNat_mul, UInt16.toNat_ofNat]
      omega
    have data : (bigEndian ((List.range numRegisters.toNat).map values)).length =
        2 * numRegisters.toNat := by
      rw [bigEndian_length, List.length_map, List.length_range]
    have remaining : (7 + ((numRegisters * 2).toUInt8).toUInt16).toNat =
        7 + 2 * numRegisters.toNat := by
      simp only [UInt16.toNat_add, UInt8.toNat_toUInt16, byteCount, UInt16.toNat_ofNat]
      omega
    rw [built]
    apply @frame_sound modbusUid reqCap (.fc16 addr numRegisters values)
    · rw [remaining, List.length_cons, data]
      omega
    · rw [remaining]
      omega
    · rw [List.length_cons, data]
      omega
    · refine ⟨byteCount, ?_⟩
      rw [Nat.mod_eq_of_lt (by omega)]
      rfl
    · rfl

/-- With more registers than a write may have, what is built is not read back, or says too
little. -/
theorem fc16_oversized {addr numRegisters : UInt16} {values : Nat → UInt16}
    (oversized : (BuildRequest.fc16 addr numRegisters values).Oversized reqCap) :
    (mbTcpBuildFc16Request tid modbusUid addr numRegisters values reqCap).rc ≠ -1 ∧
      ¬ BuiltSound reqCap (.fc16 addr numRegisters values)
        (mbTcpBuildFc16Request tid modbusUid addr numRegisters values reqCap) := by
  obtain ⟨many, room⟩ := oversized
  simp only [modbusMaxWriteRegisters] at many
  rcases @fc16_cases tid modbusUid reqCap addr numRegisters values with
    ⟨-, zero | small⟩ | ⟨-, -, built⟩
  · omega
  · omega
  · rw [built]
    constructor
    · simp only
      omega
    · intro sound
      have returned := sound.counts.2
      have counted : 13 + 2 * numRegisters.toNat % 256 = 13 + 2 * numRegisters.toNat :=
        Int.ofNat.inj returned
      have long : 254 < (7 + ((numRegisters * 2).toUInt8).toUInt16).toNat := by
        simp only [UInt16.toNat_add, UInt8.toNat_toUInt16, UInt16.toNat_toUInt8, UInt16.toNat_mul,
          UInt16.toNat_ofNat]
        omega
      obtain ⟨functionCode, address, quantity, parsed, -⟩ := sound.parsed
      rw [parse_oversized long] at parsed
      cases parsed

end Build

/-- Whatever the builders report as built is sound, except an FC16 request for more than 123
registers. -/
theorem builtRequests_sound (tid : UInt16) (modbusUid : UInt8) (reqCap : Nat)
    (request : BuildRequest) :
    ((request.build tid modbusUid reqCap).rc ≠ -1 →
        BuiltSound reqCap request (request.build tid modbusUid reqCap)) ↔
      ¬ request.Oversized reqCap := by
  cases request with
  | basis function addr nb => exact iff_of_true (fun ok => basis_built ok) id
  | fc06 addr value => exact iff_of_true (fun ok => fc06_built ok) id
  | fc16 addr numRegisters values =>
      constructor
      · intro sound oversized
        obtain ⟨built, unsound⟩ := @fc16_oversized tid modbusUid reqCap _ _ _ oversized
        exact unsound (sound built)
      · intro fits ok
        rcases Nat.lt_or_ge modbusMaxWriteRegisters numRegisters.toNat with many | few
        · have small : reqCap < 13 + 2 * numRegisters.toNat % 256 :=
            Nat.not_le.mp fun room => fits ⟨many, room⟩
          rcases @fc16_cases tid modbusUid reqCap addr numRegisters values with
            ⟨failed, -⟩ | ⟨-, room, -⟩
          · exact absurd failed ok
          · exact absurd room (Nat.not_le.mpr small)
        · exact fc16_built few ok

/-- 128 registers in the buffer of one ADU: 269 bytes are written into 260. -/
theorem fc16_overruns : ¬ ∀ (tid : UInt16) (modbusUid : UInt8) (reqCap : Nat)
    (request : BuildRequest), (request.build tid modbusUid reqCap).rc ≠ -1 →
      BuiltSound reqCap request (request.build tid modbusUid reqCap) := by
  intro claim
  have sound := claim 0 1 260 (.fc16 0x2000 128 fun _ => 0) (by decide +kernel)
  have inside := sound.inside
  revert inside
  decide +kernel

end Rs485Gateway
