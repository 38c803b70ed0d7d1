import Mathlib.Data.List.TakeWhile
import Mathlib.Tactic

namespace Rs485Gateway.Lists

abbrev Storage := Nat → UInt8

def zeroed : Storage := fun _ => 0

/-- `strncpy(dest, text, n)`: what the text leaves of the `n` bytes is zeroed. -/
def strncpy (dest : Storage) (text : List UInt8) (n : Nat) : Storage :=
  fun i => if i < n then text.getD i 0 else dest i

def cString (mem : Storage) (size : Nat) : List UInt8 :=
  ((List.range size).map mem).takeWhile (· ≠ 0)

def Terminated (mem : Storage) (size : Nat) : Prop := ∃ i < size, mem i = 0

def storeInt (dest : Storage) (start : Nat) (value : Int32) : Storage := fun i =>
  if start ≤ i ∧ i < start + 4 then UInt8.ofNat (value.toUInt32.toNat / 256 ^ (i - start))
  else dest i

def loadInt (mem : Storage) (start : Nat) : Int32 :=
  (UInt32.ofNat ((mem start).toNat + 256 * (mem (start + 1)).toNat +
    65536 * (mem (start + 2)).toNat + 16777216 * (mem (start + 3)).toNat)).toInt32

section Texts

variable {mem dest : Storage} {text : List UInt8} {n size : Nat}

theorem cString_eq_nil (room : 0 < size) : cString mem size = [] ↔ mem 0 = 0 := by
  cases size with
  | zero => exact absurd room (Nat.lt_irrefl 0)
  | succ size =>
      rw [cString, List.range_succ_eq_map, List.map_cons, List.takeWhile_cons]
      by_cases ended : mem 0 = 0 <;> simp [ended]

theorem strncpy_zero (room : 0 < n) : strncpy dest text n 0 = text.getD 0 0 := by
  rw [strncpy, if_pos room]

theorem strncpy_terminated (room : n < size) (last : dest n = 0) :
    Terminated (strncpy dest text n) size := by
  refine ⟨n, room, ?_⟩
  rw [strncpy, if_neg (Nat.lt_irrefl n), last]

theorem cString_length_lt (terminated : Terminated mem size) :
    (cString mem size).length < size := by
  rcases terminated with ⟨i, inside, ended⟩
  have front : cString mem size <+: (List.range size).map mem := List.takeWhile_prefix _
  have most := front.length_le
  rw [List.length_map, List.length_range] at most
  apply lt_of_le_of_ne most
  intro whole
  have same := front.eq_of_length (by rw [whole, List.length_map, List.length_range])
  have here : mem i ∈ (List.range size).map mem := List.mem_map_of_mem (List.mem_range.mpr inside)
  have kept := List.takeWhile_eq_self_iff.mp same (mem i) here
  simp [ended] at kept

end Texts

section Numbers

variable {dest : Storage} {start i : Nat}

theorem storeInt_before (value : Int32) (before : i < start) :
    storeInt dest start value i = dest i := by
  rw [storeInt, if_neg (by omega)]

theorem storeInt_byte (value : Int32) {k : Nat} (inside : k < 4) :
    (storeInt dest start value (start + k)).toNat = value.toUInt32.toNat / 256 ^ k % 256 := by
  rw [storeInt, if_pos (by omega), Nat.add_sub_cancel_left, UInt8.toNat_ofNat']

@[simp] theorem loadInt_storeInt (value : Int32) :
    loadInt (storeInt dest start value) start = value := by
  have first := @storeInt_byte dest start value 0 (by decide)
  have second := @storeInt_byte dest start value 1 (by decide)
  have third := @storeInt_byte dest start value 2 (by decide)
  have fourth := @storeInt_byte dest start value 3 (by decide)
  have fits := value.toUInt32.toNat_lt
  rw [Nat.add_zero] at first
  have whole : (storeInt dest start value start).toNat +
      256 * (storeInt dest start value (start + 1)).toNat +
      65536 * (storeInt dest start value (start + 2)).toNat +
      16777216 * (storeInt dest start value (start + 3)).toNat = value.toUInt32.toNat := by
    rw [first, second, third, fourth]
    omega
  rw [loadInt, whole, UInt32.ofNat_toNat]
  exact Int32.toInt32_toUInt32 value

end Numbers

/-- A buffer, and the offsets that were stored to, oldest first. -/
structure Buffer where
  mem : Storage
  stored : List Nat

namespace Buffer

def fresh (stale : Storage) : Buffer := ⟨stale, []⟩

def store (buf : Buffer) (offset : Nat) (byte : UInt8) : Buffer where
  mem := fun i => if i = offset then byte else buf.mem i
  stored := buf.stored ++ [offset]

def bytes (buf : Buffer) (n : Nat) : List UInt8 := (List.range n).map buf.mem

/-- These bytes were stored from the start on, each once and in order. -/
structure Holds (buf : Buffer) (content : List UInt8) : Prop where
  stored : buf.stored = List.range content.length
  bytes : buf.bytes content.length = content

variable {buf : Buffer} {content : List UInt8}

theorem fresh_holds (stale : Storage) : (fresh stale).Holds [] := ⟨rfl, rfl⟩

theorem Holds.store (holds : buf.Holds content) (byte : UInt8) :
    (buf.store content.length byte).Holds (content ++ [byte]) := by
  have size : (content ++ [byte]).length = content.length + 1 := by simp
  constructor
  · rw [Buffer.store, holds.stored, size, List.range_succ]
  · have before : (List.range content.length).map (buf.store content.length byte).mem =
        buf.bytes content.length := by
      apply List.map_congr_left
      intro i member
      exact if_neg (List.mem_range.mp member).ne
    have here : (buf.store content.length byte).mem content.length = byte := if_pos rfl
    rw [Buffer.bytes, size, List.range_succ, List.map_append, before, holds.bytes,
      List.map_singleton, here]

theorem Holds.store_at (holds : buf.Holds content) {offset : Nat} (next : offset = content.length)
    (byte : UInt8) : (buf.store offset byte).Holds (content ++ [byte]) := by
  rw [next]
  exact holds.store byte

theorem Holds.stored_lt (holds : buf.Holds content) {capacity : Nat}
    (room : content.length ≤ capacity) : ∀ offset ∈ buf.stored, offset < capacity := by
  intro offset member
  rw [holds.stored] at member
  exact (List.mem_range.mp member).trans_le room

end Buffer

end Rs485Gateway.Lists
