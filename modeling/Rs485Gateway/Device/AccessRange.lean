import Rs485Gateway.Device.Maps
import Rs485Gateway.Modbus.Defines

namespace Rs485Gateway

def accessFault (profile : DeviceMapProfile) (requiredAccess : RegisterAccess) (pa : Reg) :
    Option UInt8 :=
  match profile.table.find? fun row => row.poolAddress = pa with
  | none => some modbusExIllegalDataAddress
  | some row =>
      if requiredAccess = .ro ∧ row.access = .wo then some modbusExIllegalFunction
      else if requiredAccess = .wo ∧ row.access = .ro then some modbusExIllegalFunction
      else none

/-- The loop over the range; its variable is 16 bits wide, and `fuel` bounds its rounds. -/
def accessLoop (profile : DeviceMapProfile) (requiredAccess : RegisterAccess) (poolEnd : Reg) :
    Nat → Reg → Option UInt8
  | 0, _ => none
  | fuel + 1, pa =>
      if pa ≤ poolEnd then
        match accessFault profile requiredAccess pa with
        | some code => some code
        | none => accessLoop profile requiredAccess poolEnd fuel (pa + 1)
      else some 0

/-- `none` while the loop is still running after `fuel` rounds. -/
def checkRegisterAccessRange (profile : DeviceMapProfile) (poolStart count : Reg)
    (requiredAccess : RegisterAccess) (fuel : Nat) : Option UInt8 :=
  if count = 0 then some modbusExIllegalDataAddress
  else accessLoop profile requiredAccess (poolStart + count - 1) fuel poolStart

def Permits (requiredAccess access : RegisterAccess) : Prop :=
  ¬ (requiredAccess = .ro ∧ access = .wo) ∧ ¬ (requiredAccess = .wo ∧ access = .ro)

def Permitted (profile : DeviceMapProfile) (requiredAccess : RegisterAccess) (pa : Reg) : Prop :=
  ∃ row, profile.table.find? (fun row => row.poolAddress = pa) = some row ∧
    Permits requiredAccess row.access

def rangeEnd (poolStart count : Reg) : Nat := poolStart.toNat + count.toNat - 1

/-- Every address of the range, up to its mathematical end, permits the access. -/
def RangePermitted (profile : DeviceMapProfile) (poolStart count : Reg)
    (requiredAccess : RegisterAccess) : Prop :=
  ∀ pa : Reg, poolStart ≤ pa → pa.toNat ≤ rangeEnd poolStart count →
    Permitted profile requiredAccess pa

/-- The check comes to an end, with 0 exactly for a range that lies in the address space and
permits the access throughout, and with one of its two exception codes otherwise. -/
def ChecksRange (profile : DeviceMapProfile) (poolStart count : Reg)
    (requiredAccess : RegisterAccess) : Prop :=
  ∃ fuel code, checkRegisterAccessRange profile poolStart count requiredAccess fuel = some code ∧
    (code = 0 ↔ rangeEnd poolStart count ≤ 0xFFFF ∧
      RangePermitted profile poolStart count requiredAccess) ∧
    (code ≠ 0 → code = modbusExIllegalDataAddress ∨ code = modbusExIllegalFunction)

section Fault

variable {profile : DeviceMapProfile} {requiredAccess : RegisterAccess} {pa : Reg}

theorem accessFault_none :
    accessFault profile requiredAccess pa = none ↔ Permitted profile requiredAccess pa := by
  rw [accessFault, Permitted]
  cases found : profile.table.find? fun row => row.poolAddress = pa with
  | none => simp
  | some row =>
      simp only [Option.some.injEq, exists_eq_left', Permits]
      by_cases read : requiredAccess = .ro ∧ row.access = .wo
      · simp [read]
      · by_cases write : requiredAccess = .wo ∧ row.access = .ro
        · simp [write]
        · simp [read, write]

theorem accessFault_code {code : UInt8}
    (fault : accessFault profile requiredAccess pa = some code) :
    code = modbusExIllegalDataAddress ∨ code = modbusExIllegalFunction := by
  rw [accessFault] at fault
  split at fault
  · exact .inl (Option.some.inj fault).symm
  · split at fault
    · exact .inr (Option.some.inj fault).symm
    · split at fault
      · exact .inr (Option.some.inj fault).symm
      · cases fault

theorem fault_ne_zero {code : UInt8}
    (fault : code = modbusExIllegalDataAddress ∨ code = modbusExIllegalFunction) : code ≠ 0 := by
  rcases fault with address | function
  · rw [address]
    decide
  · rw [function]
    decide

end Fault

section Loop

variable {profile : DeviceMapProfile} {requiredAccess : RegisterAccess} {poolEnd : Reg}

theorem succ_toNat {pa : Reg} (inside : pa.toNat < 0xFFFF) : (pa + 1).toNat = pa.toNat + 1 := by
  rw [UInt16.toNat_add, UInt16.toNat_one]
  omega

theorem accessLoop_fault {pa : Reg} {code : UInt8} (inside : pa ≤ poolEnd)
    (fault : accessFault profile requiredAccess pa = some code) (fuel : Nat) :
    accessLoop profile requiredAccess poolEnd (fuel + 1) pa = some code := by
  rw [accessLoop, if_pos inside, fault]

theorem accessLoop_next {pa : Reg} (inside : pa ≤ poolEnd)
    (permitted : Permitted profile requiredAccess pa) (fuel : Nat) :
    accessLoop profile requiredAccess poolEnd (fuel + 1) pa =
      accessLoop profile requiredAccess poolEnd fuel (pa + 1) := by
  rw [accessLoop, if_pos inside, accessFault_none.mpr permitted]

theorem accessLoop_stops (distance : Nat) {pa fault : Reg}
    (ahead : fault.toNat = pa.toNat + distance) (below : fault ≤ poolEnd)
    (denied : ¬ Permitted profile requiredAccess fault) :
    ∃ fuel code, accessLoop profile requiredAccess poolEnd fuel pa = some code ∧
      (code = modbusExIllegalDataAddress ∨ code = modbusExIllegalFunction) := by
  have bound := UInt16.le_iff_toNat_le.mp below
  induction distance generalizing pa with
  | zero =>
      obtain rfl : fault = pa := UInt16.toNat_inj.mp ahead
      obtain ⟨code, here⟩ := Option.ne_none_iff_exists'.mp (mt accessFault_none.mp denied)
      exact ⟨1, code, accessLoop_fault below here 0, accessFault_code here⟩
  | succ distance ih =>
      have inside : pa ≤ poolEnd := UInt16.le_iff_toNat_le.mpr (by omega)
      have high := fault.toNat_lt
      cases here : accessFault profile requiredAccess pa with
      | some code => exact ⟨1, code, accessLoop_fault inside here 0, accessFault_code here⟩
      | none =>
          have step := @succ_toNat pa (by omega)
          have next : fault.toNat = (pa + 1).toNat + distance := by omega
          rcases ih next with ⟨fuel, code, later, reported⟩
          refine ⟨fuel + 1, code, ?_, reported⟩
          rw [accessLoop_next inside (accessFault_none.mp here), later]

theorem accessLoop_passes (remaining : Nat) {pa : Reg}
    (ahead : poolEnd.toNat + 1 = pa.toNat + remaining) (low : poolEnd.toNat < 0xFFFF)
    (permitted : ∀ next : Reg, pa ≤ next → next ≤ poolEnd →
      Permitted profile requiredAccess next) :
    accessLoop profile requiredAccess poolEnd (remaining + 1) pa = some 0 := by
  induction remaining generalizing pa with
  | zero =>
      have outside : ¬ pa ≤ poolEnd := by
        rw [UInt16.le_iff_toNat_le]
        omega
      rw [accessLoop, if_neg outside]
  | succ remaining ih =>
      have inside : pa ≤ poolEnd := UInt16.le_iff_toNat_le.mpr (by omega)
      have step := @succ_toNat pa (by omega)
      rw [accessLoop_next inside (permitted pa (UInt16.le_refl pa) inside)]
      apply ih
      · omega
      · intro next above below
        apply permitted next _ below
        rw [UInt16.le_iff_toNat_le] at above ⊢
        omega

/-- With the last address as its end, the loop's condition never fails. -/
theorem accessLoop_endless (atTop : poolEnd.toNat = 0xFFFF) (fuel : Nat) (pa : Reg) :
    accessLoop profile requiredAccess poolEnd fuel pa ≠ some 0 := by
  induction fuel generalizing pa with
  | zero => simp [accessLoop]
  | succ fuel ih =>
      have high := pa.toNat_lt
      have inside : pa ≤ poolEnd := UInt16.le_iff_toNat_le.mpr (by omega)
      rw [accessLoop, if_pos inside]
      split
      · rename_i code fault
        intro zero
        exact fault_ne_zero (accessFault_code fault) (Option.some.inj zero)
      · exact ih (pa + 1)

end Loop

section Range

variable {profile : DeviceMapProfile} {requiredAccess : RegisterAccess} {poolStart count : Reg}

/-- The 16-bit end of a range is its mathematical end, or 65536 below it. -/
theorem poolEnd_toNat (counted : count ≠ 0) :
    (poolStart + count - 1).toNat =
      if rangeEnd poolStart count ≤ 0xFFFF then rangeEnd poolStart count
      else rangeEnd poolStart count - 65536 := by
  have startBound := poolStart.toNat_lt
  have countBound := count.toNat_lt
  have positive : count.toNat ≠ 0 := fun zero => counted (UInt16.toNat_inj.mp zero)
  rw [UInt16.toNat_sub, UInt16.toNat_add, UInt16.toNat_one, rangeEnd]
  split <;> omega

theorem checksRange_denied (counted : count ≠ 0) (fits : rangeEnd poolStart count ≤ 0xFFFF)
    (denied : ¬ RangePermitted profile poolStart count requiredAccess) :
    ChecksRange profile poolStart count requiredAccess := by
  have end_eq := @poolEnd_toNat poolStart count counted
  rw [if_pos fits] at end_eq
  obtain ⟨fault, above, below, notPermitted⟩ : ∃ pa : Reg, poolStart ≤ pa ∧
      pa.toNat ≤ rangeEnd poolStart count ∧ ¬ Permitted profile requiredAccess pa := by
    simpa only [RangePermitted, not_forall, exists_prop] using denied
  rw [UInt16.le_iff_toNat_le] at above
  have inside : fault ≤ poolStart + count - 1 := UInt16.le_iff_toNat_le.mpr (end_eq ▸ below)
  have ahead : fault.toNat = poolStart.toNat + (fault.toNat - poolStart.toNat) := by omega
  obtain ⟨fuel, code, stopped, codes⟩ := accessLoop_stops _ ahead inside notPermitted
  refine ⟨fuel, code, ?_, ?_, fun _ => codes⟩
  · rw [checkRegisterAccessRange, if_neg counted, stopped]
  · exact iff_of_false (fault_ne_zero codes) fun both => denied both.2

theorem checksRange_permitted (counted : count ≠ 0) (low : rangeEnd poolStart count < 0xFFFF)
    (permitted : RangePermitted profile poolStart count requiredAccess) :
    ChecksRange profile poolStart count requiredAccess := by
  have end_eq := @poolEnd_toNat poolStart count counted
  rw [if_pos low.le] at end_eq
  have positive : count.toNat ≠ 0 := fun zero => counted (UInt16.toNat_inj.mp zero)
  have passed := @accessLoop_passes profile requiredAccess (poolStart + count - 1) count.toNat
    poolStart (by rw [end_eq, rangeEnd]; omega) (by omega) fun next above below => by
      apply permitted next above
      rw [UInt16.le_iff_toNat_le, end_eq] at below
      exact below
  refine ⟨count.toNat + 1, 0, ?_, ?_, fun failed => absurd rfl failed⟩
  · rw [checkRegisterAccessRange, if_neg counted, passed]
  · exact iff_of_true rfl ⟨low.le, permitted⟩

theorem not_checksRange_top (counted : count ≠ 0) (atTop : rangeEnd poolStart count = 0xFFFF)
    (permitted : RangePermitted profile poolStart count requiredAccess) :
    ¬ ChecksRange profile poolStart count requiredAccess := by
  have end_eq := @poolEnd_toNat poolStart count counted
  rw [if_pos atTop.le, atTop] at end_eq
  rintro ⟨fuel, code, result, accepted, -⟩
  rw [checkRegisterAccessRange, if_neg counted, accepted.mpr ⟨atTop.le, permitted⟩] at result
  exact accessLoop_endless end_eq fuel poolStart result

theorem not_checksRange_across (counted : count ≠ 0) (across : 0xFFFF < rangeEnd poolStart count) :
    ¬ ChecksRange profile poolStart count requiredAccess := by
  have end_eq := @poolEnd_toNat poolStart count counted
  have countBound := count.toNat_lt
  rw [if_neg (Nat.not_le.mpr across)] at end_eq
  have skipped : ¬ poolStart ≤ poolStart + count - 1 := by
    rw [UInt16.le_iff_toNat_le, end_eq, rangeEnd]
    rw [rangeEnd] at across
    omega
  rintro ⟨fuel, code, result, accepted, -⟩
  rw [checkRegisterAccessRange, if_neg counted] at result
  cases fuel with
  | zero => cases result
  | succ fuel =>
      rw [accessLoop, if_neg skipped] at result
      have fits := (accepted.mp (Option.some.inj result).symm).1
      omega

end Range

/-- The check does what it says for ranges that end below the last address, and for ranges
that end there and hold an address that is not permitted. -/
theorem accessRange_checked (profile : DeviceMapProfile) (poolStart count : Reg)
    (requiredAccess : RegisterAccess) (counted : count ≠ 0) :
    ChecksRange profile poolStart count requiredAccess ↔
      rangeEnd poolStart count < 0xFFFF ∨
        rangeEnd poolStart count = 0xFFFF ∧
          ¬ RangePermitted profile poolStart count requiredAccess := by
  rcases Nat.lt_trichotomy (rangeEnd poolStart count) 0xFFFF with low | atTop | across
  · refine iff_of_true ?_ (.inl low)
    by_cases permitted : RangePermitted profile poolStart count requiredAccess
    · exact checksRange_permitted counted low permitted
    · exact checksRange_denied counted low.le permitted
  · by_cases permitted : RangePermitted profile poolStart count requiredAccess
    · apply iff_of_false (not_checksRange_top counted atTop permitted)
      rintro (low | ⟨-, denied⟩)
      · omega
      · exact denied permitted
    · exact iff_of_true (checksRange_denied counted atTop.le permitted) (.inr ⟨atTop, permitted⟩)
  · apply iff_of_false (not_checksRange_across counted across)
    omega

theorem accessRange_checked_settings : ChecksRange inverter1Profile 0xA100 19 .wo :=
  (accessRange_checked inverter1Profile 0xA100 19 .wo (by decide)).mpr (.inl (by decide))

def oneRow : DeviceMapProfile := ⟨[⟨0x2000, 0x0010, .ro⟩], 0⟩

/-- Five registers from 0xFFFE on, of which none is mapped. -/
theorem accessRange_wraps : ¬ ∀ (profile : DeviceMapProfile) (poolStart count : Reg)
    (requiredAccess : RegisterAccess), count ≠ 0 →
      ChecksRange profile poolStart count requiredAccess := by
  intro checks
  exact not_checksRange_across (by decide) (by decide) (checks oneRow 0xFFFE 5 .ro (by decide))

end Rs485Gateway
