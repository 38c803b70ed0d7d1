import Mathlib.Data.List.GetD
import Rs485Gateway.Modbus.Defines

namespace Rs485Gateway

abbrev Bytes := List UInt8

def hi (value : UInt16) : UInt8 := (value >>> 8).toUInt8

def lo (value : UInt16) : UInt8 := (value &&& 0xFF).toUInt8

def word (high low : UInt8) : UInt16 := (high.toUInt16 <<< 8) ||| low.toUInt16

def appendUint16Be (buf : Bytes) (value : UInt16) : Bytes := buf ++ [hi value, lo value]

def bigEndian (values : List UInt16) : Bytes := values.flatMap fun value => [hi value, lo value]

/-- `qty` registers from offset `start` on. -/
def registersAt (buf : Bytes) (start qty : Nat) : List UInt16 :=
  (List.range qty).map fun i => word (buf.getD (start + i * 2) 0) (buf.getD (start + i * 2 + 1) 0)

theorem word_hi_lo (value : UInt16) : word (hi value) (lo value) = value := by
  have bound := value.toNat_lt
  have low : value.toNat % 256 < 2 ^ 8 := Nat.mod_lt _ (by decide)
  apply UInt16.toNat_inj.mp
  calc
    (word (hi value) (lo value)).toNat =
        (value.toNat / 256 % 256) <<< 8 % 65536 ||| value.toNat % 256 := by
      simp [word, hi, lo, Nat.shiftRight_eq_div_pow, Nat.and_two_pow_sub_one_eq_mod _ 8]
    _ = (value.toNat / 256) <<< 8 ||| value.toNat % 256 := by
      rw [Nat.mod_eq_of_lt (by omega), Nat.shiftLeft_eq, Nat.shiftLeft_eq,
        Nat.mod_eq_of_lt (by omega)]
    _ = value.toNat := by
      rw [← Nat.shiftLeft_add_eq_or_of_lt low, Nat.shiftLeft_eq]
      omega

section Registers

@[simp] theorem bigEndian_length (values : List UInt16) :
    (bigEndian values).length = 2 * values.length := by
  induction values with
  | nil => rfl
  | cons value rest ih =>
      rw [bigEndian, List.flatMap_cons, List.length_append, ← bigEndian, ih, List.length_cons]
      simp only [List.length_cons, List.length_nil]
      omega

theorem bigEndian_getD (values back : List UInt16) (rest : Bytes) (value : UInt16) :
    (bigEndian (values ++ value :: back) ++ rest).getD (2 * values.length) 0 = hi value ∧
      (bigEndian (values ++ value :: back) ++ rest).getD (2 * values.length + 1) 0 = lo value := by
  have split : bigEndian (values ++ value :: back) ++ rest =
      bigEndian values ++ (hi value :: lo value :: (bigEndian back ++ rest)) := by
    simp [bigEndian]
  have front := bigEndian_length values
  rw [split]
  constructor
  · rw [List.getD_append_right _ _ _ _ front.le, front, Nat.sub_self, List.getD_cons_zero]
  · rw [List.getD_append_right _ _ _ _ (by omega), front, Nat.add_sub_cancel_left,
      List.getD_cons_succ, List.getD_cons_zero]

theorem registersAt_bigEndian (header rest : Bytes) (values : List UInt16) {start qty : Nat}
    (here : header.length = start) (all : values.length = qty) :
    registersAt (header ++ (bigEndian values ++ rest)) start qty = values := by
  subst here all
  apply List.ext_getElem
  · simp [registersAt]
  · intro i bound inside
    obtain ⟨front, value, back, rfl, size, same⟩ : ∃ front value back,
        values = front ++ value :: back ∧ front.length = i ∧ value = values[i] := by
      exact ⟨values.take i, values[i], values.drop (i + 1), by simp, by simp; omega, rfl⟩
    obtain ⟨high, low⟩ := bigEndian_getD front back rest value
    subst size
    have skip (k : Nat) : (header ++ (bigEndian (front ++ value :: back) ++ rest)).getD
        (header.length + k) 0 = (bigEndian (front ++ value :: back) ++ rest).getD k 0 := by
      rw [List.getD_append_right _ _ _ _ (Nat.le_add_right _ _), Nat.add_sub_cancel_left]
    simp only [registersAt, List.getElem_map, List.getElem_range, Nat.add_assoc, skip,
      Nat.mul_comm front.length 2, high, low, word_hi_lo]
    exact same

end Registers

section Crc

def crcBit (crc : UInt16) : UInt16 :=
  if crc &&& 0x0001 ≠ 0 then (crc >>> 1) ^^^ 0xA001 else crc >>> 1

/-- The inner loop over the eight bits of a byte. -/
def crcByte (crc : UInt16) (byte : UInt8) : UInt16 := crcBit^[8] (crc ^^^ byte.toUInt16)

def mbRtuComputeCrc16 (data : Bytes) : UInt16 := data.foldl crcByte 0xFFFF

def appendCrc (buf : Bytes) : Bytes :=
  let crc := mbRtuComputeCrc16 buf
  buf ++ [lo crc, hi crc]

def verifyResponseCrc (buf : Bytes) : Bool :=
  if buf.length < modbusRtuCrcLen then false
  else
    let computed := mbRtuComputeCrc16 (buf.take (buf.length - modbusRtuCrcLen))
    let received := word (buf.getD (buf.length - 1) 0) (buf.getD (buf.length - 2) 0)
    computed == received

theorem appendCrc_length (buf : Bytes) : (appendCrc buf).length = buf.length + 2 := by
  simp [appendCrc]

theorem verify_appendCrc (buf : Bytes) : verifyResponseCrc (appendCrc buf) = true := by
  have length_eq := appendCrc_length buf
  rw [verifyResponseCrc, if_neg (by simp only [length_eq, modbusRtuCrcLen]; omega), length_eq]
  have data : (appendCrc buf).take (buf.length + 2 - modbusRtuCrcLen) = buf := by
    simp [appendCrc, modbusRtuCrcLen]
  rw [data]
  simp [appendCrc, word_hi_lo]

end Crc

end Rs485Gateway
