import Mathlib.Tactic
import Rs485Gateway.Interaction.Interleaving
import Rs485Gateway.Lists.Bisection

/-! The register map (`device_register_map.c`): profile tables sorted by device
address, and the pool of raw register values they point into. -/

namespace Rs485Gateway

open Interaction Rs485Gateway.Lists

abbrev Reg := UInt16

def internalPoolSize : Nat := 65535

inductive RegisterAccess where
  | ro
  | rw
  | wo
  deriving DecidableEq

structure DeviceRegisterMapping where
  deviceAddress : Reg
  poolAddress : Reg
  access : RegisterAccess
  deriving DecidableEq

structure DeviceMapProfile where
  table : List DeviceRegisterMapping
  readChunk : Reg

abbrev Pool := Reg → Reg

namespace DeviceMapProfile

def tableCount (profile : DeviceMapProfile) : Nat := profile.table.length

def Sorted (profile : DeviceMapProfile) : Prop :=
  profile.table.Pairwise fun first second => first.deviceAddress < second.deviceAddress

end DeviceMapProfile

/-- The binary search loop; `fuel` bounds the rows still between the two ends. -/
def deviceFindSlotLoop (table : List DeviceRegisterMapping) (deviceAddress : Reg) :
    Nat → Nat → Nat → Option DeviceRegisterMapping
  | 0, _, _ => none
  | fuel + 1, low, high =>
      if low < high then
        let mid := low + (high - low) / 2
        match table[mid]? with
        | none => none
        | some row =>
            if row.deviceAddress = deviceAddress then some row
            else if row.deviceAddress < deviceAddress then
              deviceFindSlotLoop table deviceAddress fuel (mid + 1) high
            else deviceFindSlotLoop table deviceAddress fuel low mid
      else none

def deviceFindSlot (profile : DeviceMapProfile) (deviceAddress : Reg) :
    Option DeviceRegisterMapping :=
  deviceFindSlotLoop profile.table deviceAddress profile.tableCount 0 profile.tableCount

def poolWriteRegister (pool : Pool) (poolAddress value : Reg) : Pool × Bool :=
  if poolAddress.toNat ≥ internalPoolSize then (pool, false)
  else (assign pool poolAddress value, true)

def poolReadRegister (pool : Pool) (poolAddress : Reg) : Option Reg :=
  if poolAddress.toNat ≥ internalPoolSize then none else some (pool poolAddress)

def addressOrder (addr deviceAddress : Reg) : Ordering :=
  if addr = deviceAddress then .eq else if addr < deviceAddress then .lt else .gt

def slotOrder (table : List DeviceRegisterMapping) (deviceAddress : Reg) (i : Nat) : Ordering :=
  (table[i]?).elim .gt fun row => addressOrder row.deviceAddress deviceAddress

section FindSlot

variable {table : List DeviceRegisterMapping} {profile : DeviceMapProfile}
  {row : DeviceRegisterMapping} {addr deviceAddress : Reg} {i : Nat}

theorem addressOrder_eq : addressOrder addr deviceAddress = .eq ↔ addr = deviceAddress := by
  by_cases same : addr = deviceAddress
  · rw [addressOrder, if_pos same]
    exact iff_of_true rfl same
  · rw [addressOrder, if_neg same]
    split <;> exact iff_of_false Ordering.noConfusion same

theorem addressOrder_lt (less : addr < deviceAddress) :
    addressOrder addr deviceAddress = .lt := by
  rw [addressOrder, if_neg (UInt16.ne_of_lt less), if_pos less]

theorem addressOrder_gt (greater : deviceAddress < addr) :
    addressOrder addr deviceAddress = .gt := by
  rw [addressOrder, if_neg (UInt16.ne_of_lt greater).symm, if_neg (UInt16.lt_asymm greater)]

theorem slotOrder_at (here : table[i]? = some row) :
    slotOrder table deviceAddress i = addressOrder row.deviceAddress deviceAddress := by
  rw [slotOrder, here, Option.elim_some]

theorem deviceFindSlotLoop_probe {fuel low high : Nat} (nonempty : low < high)
    (here : table[middle low high]? = some row) :
    deviceFindSlotLoop table deviceAddress (fuel + 1) low high =
      if row.deviceAddress = deviceAddress then some row
      else if row.deviceAddress < deviceAddress then
        deviceFindSlotLoop table deviceAddress fuel (middle low high + 1) high
      else deviceFindSlotLoop table deviceAddress fuel low (middle low high) := by
  rw [middle] at here
  rw [deviceFindSlotLoop, if_pos nonempty, middle]
  simp only [here]

/-- The loop is a bisection of the rows between the two ends. -/
theorem deviceFindSlotLoop_bisect {fuel low high : Nat} (enough : high ≤ low + fuel)
    (within : high ≤ table.length) : deviceFindSlotLoop table deviceAddress fuel low high =
      (bisect (slotOrder table deviceAddress) low high).found.bind fun i => table[i]? := by
  induction fuel generalizing low high with
  | zero =>
      rw [bisect_empty (by omega)]
      rfl
  | succ fuel ih =>
      by_cases nonempty : low < high
      · have below := middle_lt nonempty
        have above := le_middle low high
        have probed := List.getElem?_eq_getElem (below.trans_le within)
        have order := @slotOrder_at _ _ deviceAddress _ probed
        generalize table[middle low high] = row at probed order
        rw [deviceFindSlotLoop_probe nonempty probed]
        by_cases same : row.deviceAddress = deviceAddress
        · rw [if_pos same, bisect_eq nonempty (order.trans (addressOrder_eq.mpr same))]
          exact probed.symm
        · rw [if_neg same]
          by_cases less : row.deviceAddress < deviceAddress
          · rw [if_pos less, bisect_lt nonempty (order.trans (addressOrder_lt less))]
            exact ih (by omega) within
          · have greater := UInt16.lt_of_le_of_ne (UInt16.not_lt.mp less) (Ne.symm same)
            rw [if_neg less, bisect_gt nonempty (order.trans (addressOrder_gt greater))]
            exact ih (by omega) (by omega)
      · rw [deviceFindSlotLoop, if_neg nonempty, bisect_empty nonempty]
        rfl

theorem deviceFindSlot_bisect : deviceFindSlot profile deviceAddress =
    (bisect (slotOrder profile.table deviceAddress) 0 profile.tableCount).found.bind
      fun i => profile.table[i]? :=
  deviceFindSlotLoop_bisect (Nat.le_add_left _ _) le_rfl

theorem deviceFindSlot_some (found : deviceFindSlot profile deviceAddress = some row) :
    row ∈ profile.table ∧ row.deviceAddress = deviceAddress := by
  rw [deviceFindSlot_bisect] at found
  rcases Option.bind_eq_some_iff.mp found with ⟨i, at_i, here⟩
  have order := (bisect_found _ _ _ i at_i).2
  rw [slotOrder_at here] at order
  exact ⟨List.mem_of_getElem? here, addressOrder_eq.mp order⟩

/-- In a sorted table every row is where the search gets to. -/
theorem deviceFindSlot_mem (sorted : profile.Sorted) (member : row ∈ profile.table) :
    deviceFindSlot profile row.deviceAddress = some row := by
  rcases List.getElem_of_mem member with ⟨position, bound, rfl⟩
  have ascending := List.pairwise_iff_getElem.mp sorted
  have here := List.getElem?_eq_getElem bound
  have found := bisect_finds ((slotOrder_at here).trans (addressOrder_eq.mpr rfl))
    (fun i before => by
      have inside := before.trans bound
      rw [slotOrder_at (List.getElem?_eq_getElem inside)]
      exact addressOrder_lt (ascending i position inside bound before))
    (fun i behind inside => by
      rw [slotOrder_at (List.getElem?_eq_getElem inside)]
      exact addressOrder_gt (ascending position i bound inside behind))
    le_rfl (Nat.zero_le position) bound
  rw [deviceFindSlot_bisect, DeviceMapProfile.tableCount, found]
  exact here

end FindSlot

section Pool

variable {pool : Pool} {poolAddress other value : Reg}

theorem poolWriteRegister_self (inside : poolAddress.toNat < internalPoolSize) :
    (poolWriteRegister pool poolAddress value).1 poolAddress = value := by
  simp [poolWriteRegister, Nat.not_le.mpr inside]

theorem poolWriteRegister_other (apart : other ≠ poolAddress) :
    (poolWriteRegister pool poolAddress value).1 other = pool other := by
  unfold poolWriteRegister
  split
  · rfl
  · exact assign_other _ _ apart

end Pool

end Rs485Gateway
