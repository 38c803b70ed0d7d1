import Rs485Gateway.Device.RegisterMap

/-! `device_find_slot` on the fields it is handed: a table pointer with whatever memory is
behind it, and a row count in `size_t`. -/

namespace Rs485Gateway

open Rs485Gateway.Lists

abbrev SizeT := UInt64

/-- `table[i]` can be read for every `i`; only the first `tableCount` rows are the table. -/
structure ProfileFields where
  table : Option (SizeT → DeviceRegisterMapping)
  tableCount : SizeT

structure SlotSearch where
  probed : List SizeT
  slot : Option SizeT

def SlotSearch.after (mid : SizeT) (rest : SlotSearch) : SlotSearch where
  probed := mid :: rest.probed
  slot := rest.slot

namespace ProfileFields

def mid (low high : SizeT) : SizeT := low + (high - low) / 2

theorem mid_toNat {low high : SizeT} (nonempty : low < high) :
    (mid low high).toNat = middle low.toNat high.toNat := by
  have bound := high.toNat_lt
  have less := UInt64.lt_iff_toNat_lt.mp nonempty
  have two : (2 : SizeT).toNat = 2 := rfl
  have below : low.toNat + (high.toNat - low.toNat) / 2 < 2 ^ 64 := by omega
  rw [mid, UInt64.toNat_add, UInt64.toNat_div, two,
    UInt64.toNat_sub_of_le _ _ (UInt64.le_of_lt nonempty), middle, Nat.mod_eq_of_lt below]

theorem mid_succ_toNat {low high : SizeT} (nonempty : low < high) :
    (mid low high + 1).toNat = middle low.toNat high.toNat + 1 := by
  have bound := high.toNat_lt
  have below := middle_lt (UInt64.lt_iff_toNat_lt.mp nonempty)
  have one : (1 : SizeT).toNat = 1 := rfl
  rw [UInt64.toNat_add, mid_toNat nonempty, one]
  exact Nat.mod_eq_of_lt (Nat.lt_of_le_of_lt below bound)

/-- The `while` loop; the range shrinks with every probe, whatever is in memory. -/
def findSlotLoop (rows : SizeT → DeviceRegisterMapping) (deviceAddress : Reg)
    (low high : SizeT) : SlotSearch :=
  if low < high then
    let addr := (rows (mid low high)).deviceAddress
    if addr = deviceAddress then ⟨[mid low high], some (mid low high)⟩
    else if addr < deviceAddress then
      (findSlotLoop rows deviceAddress (mid low high + 1) high).after (mid low high)
    else (findSlotLoop rows deviceAddress low (mid low high)).after (mid low high)
  else ⟨[], none⟩
termination_by high.toNat - low.toNat
decreasing_by
  all_goals
    rename_i nonempty _ _
    have less := UInt64.lt_iff_toNat_lt.mp nonempty
    have below := middle_lt less
    have above := le_middle low.toNat high.toNat
    simp only [mid_toNat nonempty, mid_succ_toNat nonempty]
    omega

def deviceFindSlot (profile : Option ProfileFields) (deviceAddress : Reg) : SlotSearch :=
  match profile with
  | none => ⟨[], none⟩
  | some profile =>
      match profile.table with
      | none => ⟨[], none⟩
      | some rows =>
          if profile.tableCount = 0 then ⟨[], none⟩
          else findSlotLoop rows deviceAddress 0 profile.tableCount

def positions (search : SlotSearch) : Bisection where
  probed := search.probed.map UInt64.toNat
  found := search.slot.map UInt64.toNat

def rowOrder (rows : SizeT → DeviceRegisterMapping) (deviceAddress : Reg) (i : Nat) : Ordering :=
  addressOrder (rows (UInt64.ofNat i)).deviceAddress deviceAddress

variable {rows : SizeT → DeviceRegisterMapping} {deviceAddress : Reg}

theorem rowOrder_mid {low high : SizeT} {order : Ordering} (nonempty : low < high)
    (here : addressOrder (rows (mid low high)).deviceAddress deviceAddress = order) :
    rowOrder rows deviceAddress (middle low.toNat high.toNat) = order := by
  rw [rowOrder, ← mid_toNat nonempty, UInt64.ofNat_toNat]
  exact here

/-- No index wraps: the loop is a bisection. -/
theorem findSlotLoop_bisect (rows : SizeT → DeviceRegisterMapping) (deviceAddress : Reg)
    (low high : SizeT) : positions (findSlotLoop rows deviceAddress low high) =
      bisect (rowOrder rows deviceAddress) low.toNat high.toNat := by
  induction low, high using findSlotLoop.induct rows deviceAddress with
  | case1 low high nonempty addr same =>
      have order := rowOrder_mid nonempty (addressOrder_eq.mpr same)
      rw [findSlotLoop, if_pos nonempty, if_pos same,
        bisect_eq (UInt64.lt_iff_toNat_lt.mp nonempty) order, ← mid_toNat nonempty]
      rfl
  | case2 low high nonempty addr differ less ih =>
      have order := rowOrder_mid nonempty (addressOrder_lt less)
      rw [findSlotLoop, if_pos nonempty, if_neg differ, if_pos less,
        bisect_lt (UInt64.lt_iff_toNat_lt.mp nonempty) order, ← mid_succ_toNat nonempty, ← ih,
        ← mid_toNat nonempty]
      rfl
  | case3 low high nonempty addr differ notLess ih =>
      have greater := UInt16.lt_of_le_of_ne (UInt16.not_lt.mp notLess) (Ne.symm differ)
      have order := rowOrder_mid nonempty (addressOrder_gt greater)
      rw [findSlotLoop, if_pos nonempty, if_neg differ, if_neg notLess,
        bisect_gt (UInt64.lt_iff_toNat_lt.mp nonempty) order, ← mid_toNat nonempty, ← ih]
      rfl
  | case4 low high none =>
      rw [findSlotLoop, if_neg none, bisect_empty (UInt64.lt_iff_toNat_lt.not.mp none)]
      rfl

theorem deviceFindSlot_rows (rows : SizeT → DeviceRegisterMapping) (tableCount : SizeT)
    (deviceAddress : Reg) : deviceFindSlot (some ⟨some rows, tableCount⟩) deviceAddress =
      findSlotLoop rows deviceAddress 0 tableCount := by
  by_cases empty : tableCount = 0
  · have nothing : ¬ (0 : SizeT) < 0 := by decide
    rw [empty, findSlotLoop, if_neg nothing]
    rfl
  · exact if_neg empty

theorem deviceFindSlot_bisect (rows : SizeT → DeviceRegisterMapping) (tableCount : SizeT)
    (deviceAddress : Reg) :
    positions (deviceFindSlot (some ⟨some rows, tableCount⟩) deviceAddress) =
      bisect (rowOrder rows deviceAddress) 0 tableCount.toNat := by
  rw [deviceFindSlot_rows]
  exact findSlotLoop_bisect rows deviceAddress 0 tableCount

/-- The search in a profile that holds these rows is the search in their list. -/
theorem deviceFindSlot_list {profile : DeviceMapProfile} (fits : profile.tableCount < 2 ^ 64)
    (held : ∀ i < profile.tableCount, profile.table[i]? = some (rows (UInt64.ofNat i))) :
    ((deviceFindSlot (some ⟨some rows, UInt64.ofNat profile.tableCount⟩) deviceAddress).slot.map
      rows) = Rs485Gateway.deviceFindSlot profile deviceAddress := by
  have whole := deviceFindSlot_bisect rows (UInt64.ofNat profile.tableCount) deviceAddress
  rw [UInt64.toNat_ofNat_of_lt' fits] at whole
  have same : bisect (rowOrder rows deviceAddress) 0 profile.tableCount =
      bisect (slotOrder profile.table deviceAddress) 0 profile.tableCount :=
    bisect_congr 0 profile.tableCount fun i _ inside => (slotOrder_at (held i inside)).symm
  have found := congrArg Bisection.found (whole.trans same)
  rw [Rs485Gateway.deviceFindSlot_bisect, ← found]
  cases at_slot : (deviceFindSlot (some ⟨some rows, UInt64.ofNat profile.tableCount⟩)
    deviceAddress).slot with
  | none =>
      rw [positions, at_slot]
      rfl
  | some slot =>
      rw [positions, at_slot] at found
      rcases bisect_found _ _ _ _ found.symm with ⟨probed, -⟩
      have row := held slot.toNat (bisect_inside _ _ _ _ probed).2
      rw [UInt64.ofNat_toNat] at row
      rw [positions, at_slot]
      exact row.symm

def Ascending (rows : SizeT → DeviceRegisterMapping) (tableCount : SizeT) : Prop :=
  ∀ i j, i < j → j < tableCount → (rows i).deviceAddress < (rows j).deviceAddress

theorem findSlot_found {tableCount slot : SizeT} (ascending : Ascending rows tableCount)
    (inside : slot < tableCount) (here : (rows slot).deviceAddress = deviceAddress) :
    (deviceFindSlot (some ⟨some rows, tableCount⟩) deviceAddress).slot = some slot := by
  have whole := deviceFindSlot_bisect rows tableCount deviceAddress
  have target : rowOrder rows deviceAddress slot.toNat = .eq := by
    rw [rowOrder, UInt64.ofNat_toNat]
    exact addressOrder_eq.mpr here
  have before (i : Nat) (less : i < slot.toNat) : rowOrder rows deviceAddress i = .lt := by
    have size := less.trans slot.toNat_lt
    have lower : UInt64.ofNat i < slot := by
      rwa [UInt64.lt_iff_toNat_lt, UInt64.toNat_ofNat_of_lt' size]
    rw [rowOrder, ← here]
    exact addressOrder_lt (ascending _ _ lower inside)
  have behind (i : Nat) (greater : slot.toNat < i) (below : i < tableCount.toNat) :
      rowOrder rows deviceAddress i = .gt := by
    have size := below.trans tableCount.toNat_lt
    have upper : slot < UInt64.ofNat i := by
      rwa [UInt64.lt_iff_toNat_lt, UInt64.toNat_ofNat_of_lt' size]
    have row : UInt64.ofNat i < tableCount := by
      rwa [UInt64.lt_iff_toNat_lt, UInt64.toNat_ofNat_of_lt' size]
    rw [rowOrder, ← here]
    exact addressOrder_gt (ascending _ _ upper row)
  have found := bisect_finds target before behind le_rfl (Nat.zero_le _)
    (UInt64.lt_iff_toNat_lt.mp inside)
  rw [← whole] at found
  rcases Option.map_eq_some_iff.mp found with ⟨at_slot, returned, same⟩
  rw [returned, UInt64.toNat_inj.mp same]

/-- Whatever the table holds, the search ends within it after as many probes as its length has
bits, and returns only a row with the address; in an ascending table it returns that row
whenever there is one. -/
theorem deviceFindSlot_correct (rows : SizeT → DeviceRegisterMapping) (tableCount : SizeT)
    (deviceAddress : Reg) :
    let search := deviceFindSlot (some ⟨some rows, tableCount⟩) deviceAddress
    search.probed.length ≤ tableCount.toNat.size ∧
      (∀ i ∈ search.probed, i < tableCount) ∧
      (∀ i, search.slot = some i → i < tableCount ∧ (rows i).deviceAddress = deviceAddress) ∧
      (Ascending rows tableCount →
        (∀ i, i < tableCount → (rows i).deviceAddress = deviceAddress → search.slot = some i) ∧
          ((∀ i, i < tableCount → (rows i).deviceAddress ≠ deviceAddress) →
            search.slot = none)) := by
  intro search
  have whole : positions search = bisect (rowOrder rows deviceAddress) 0 tableCount.toNat :=
    deviceFindSlot_bisect rows tableCount deviceAddress
  have inside : ∀ i ∈ search.probed, i < tableCount := by
    intro i member
    have probed : i.toNat ∈ (positions search).probed := List.mem_map_of_mem member
    rw [whole] at probed
    exact UInt64.lt_iff_toNat_lt.mpr (bisect_inside _ _ _ _ probed).2
  have sound : ∀ i, search.slot = some i →
      i < tableCount ∧ (rows i).deviceAddress = deviceAddress := by
    intro i returned
    have found : (positions search).found = some i.toNat := congrArg (Option.map _) returned
    rw [whole] at found
    rcases bisect_found _ _ _ _ found with ⟨probed, order⟩
    rw [rowOrder, UInt64.ofNat_toNat] at order
    exact ⟨UInt64.lt_iff_toNat_lt.mpr (bisect_inside _ _ _ _ probed).2,
      addressOrder_eq.mp order⟩
  apply And.intro _
  · apply And.intro inside
    apply And.intro sound
    intro ascending
    constructor
    · exact fun i below here => findSlot_found ascending below here
    · intro absent
      cases returned : search.slot with
      | none => rfl
      | some i => exact absurd (sound i returned).2 (absent i (sound i returned).1)
  · have probes := bisect_length (rowOrder rows deviceAddress) 0 tableCount.toNat
    rw [← whole, Nat.sub_zero] at probes
    exact (List.length_map UInt64.toNat).symm.le.trans probes

end ProfileFields

def poolReadByDeviceAddr (profile : DeviceMapProfile) (deviceAddress : Reg) (pool : Pool) :
    Option Reg :=
  (deviceFindSlot profile deviceAddress).bind fun row => poolReadRegister pool row.poolAddress

def poolWriteByDeviceAddr (profile : DeviceMapProfile) (deviceAddress value : Reg) (pool : Pool) :
    Pool × Bool :=
  match deviceFindSlot profile deviceAddress with
  | none => (pool, false)
  | some row => poolWriteRegister pool row.poolAddress value

section ByDeviceAddr

variable {profile : DeviceMapProfile} {row : DeviceRegisterMapping} {deviceAddress : Reg}

/-- A write through a row of a sorted table is what a read through it gives back, and what a read
through a row with a slot of its own does not see. -/
theorem poolWriteByDeviceAddr_read (sorted : profile.Sorted) (member : row ∈ profile.table)
    (inside : row.poolAddress.toNat < internalPoolSize) (value : Reg) (pool : Pool) :
    let written := poolWriteByDeviceAddr profile row.deviceAddress value pool
    written.2 = true ∧ poolReadByDeviceAddr profile row.deviceAddress written.1 = some value ∧
      ∀ other ∈ profile.table, other.poolAddress ≠ row.poolAddress →
        poolReadByDeviceAddr profile other.deviceAddress written.1 =
          poolReadByDeviceAddr profile other.deviceAddress pool := by
  have slot := deviceFindSlot_mem sorted member
  simp only [poolWriteByDeviceAddr, slot]
  have kept : (poolWriteRegister pool row.poolAddress value).2 = true := by
    rw [poolWriteRegister, if_neg (Nat.not_le.mpr inside)]
  have stored := @poolWriteRegister_self pool row.poolAddress value inside
  apply And.intro kept
  constructor
  · rw [poolReadByDeviceAddr, slot, Option.bind_some, poolReadRegister,
      if_neg (Nat.not_le.mpr inside), stored]
  · intro other there apart
    rw [poolReadByDeviceAddr, poolReadByDeviceAddr, deviceFindSlot_mem sorted there,
      Option.bind_some, Option.bind_some, poolReadRegister, poolReadRegister,
      poolWriteRegister_other apart]

/-- Nothing is read or written through an address the table does not map. -/
theorem byDeviceAddr_unmapped (absent : ∀ row ∈ profile.table, row.deviceAddress ≠ deviceAddress)
    (value : Reg) (pool : Pool) :
    poolReadByDeviceAddr profile deviceAddress pool = none ∧
      poolWriteByDeviceAddr profile deviceAddress value pool = (pool, false) := by
  cases found : deviceFindSlot profile deviceAddress with
  | none => exact ⟨by rw [poolReadByDeviceAddr, found]; rfl, by rw [poolWriteByDeviceAddr, found]⟩
  | some row =>
      rcases deviceFindSlot_some found with ⟨member, same⟩
      exact absurd same (absent row member)

end ByDeviceAddr

end Rs485Gateway
