import Rs485Gateway.Daemon.Scan

namespace Rs485Gateway

open Interaction

structure ScanAllows (allowed : DaemonOp → Prop) (unit : DeviceUnit) (trackCommFail : Bool) :
    Prop where
  acquires : ∀ path, allowed (.busAcquire path)
  releases : ∀ path, allowed (.busRelease path)
  reads : ∀ line addr count, allowed (.readHolding line addr count)
  stores : ∀ devAddr slot value, storeSlot unit.profile devAddr = some slot →
    allowed (.poolStore slot value)
  losses : trackCommFail = true → ∀ row ∈ unit.profile.table,
    allowed (.poolWrite row.poolAddress commLossMarker)

section Uses

variable {allowed : DaemonOp → Prop} {loops : DaemonLoop → Prop} {unit : DeviceUnit}
  {trackCommFail : Bool}

theorem uses_ask {operation : DaemonOp} (here : allowed operation) :
    Uses allowed loops (ask operation) :=
  ⟨here, fun _ => trivial⟩

theorem uses_readDeviceValue {addr count : Reg} (acquires : ∀ path, allowed (.busAcquire path))
    (releases : ∀ path, allowed (.busRelease path))
    (reads : ∀ line, allowed (.readHolding line addr count)) :
    Uses allowed loops (readDeviceValue unit addr count) := by
  unfold readDeviceValue
  split
  · exact uses_ask (reads none)
  · rename_i path _ _
    exact ⟨acquires (some path), fun _ => ⟨reads (some path), fun _ =>
      ⟨releases (some path), fun _ => trivial⟩⟩⟩

theorem uses_storeEach {profile : DeviceMapProfile} (start : Reg) {n : Nat}
    (values : Fin n → Reg) (indices : List (Fin n))
    (slots : ∀ devAddr slot value, storeSlot profile devAddr = some slot →
      allowed (.poolStore slot value)) :
    Uses allowed loops (storeEach profile start values indices) := by
  induction indices with
  | nil => exact trivial
  | cons i rest ih =>
      apply Uses.bind _ fun _ => ih
      have here := slots (start + UInt16.ofNat i.val)
      unfold storeRegister
      cases found : deviceFindSlot profile (start + UInt16.ofNat i.val) with
      | none => exact trivial
      | some row =>
          simp only
          split
          · exact trivial
          · rename_i inside
            exact uses_ask (here _ _ (by simp [storeSlot, found, inside]))

theorem uses_markCommLoss (table : List DeviceRegisterMapping)
    (losses : ∀ row ∈ table, allowed (.poolWrite row.poolAddress commLossMarker)) :
    Uses allowed loops (markCommLoss table) := by
  induction table with
  | nil => exact trivial
  | cons row rest ih =>
      have later := ih fun next member => losses next (List.mem_cons_of_mem _ member)
      exact ⟨losses row List.mem_cons_self, fun _ => later⟩

variable (room : ScanAllows allowed unit trackCommFail)

include room

theorem uses_scanStep {again : UnitState → DaemonProg (Rc × UnitState)} (start count : Reg)
    (st : UnitState) (goesOn : ∀ st, Uses allowed loops (again st)) :
    Uses allowed loops (scanStep unit trackCommFail start count st again) := by
  have reading : Uses allowed loops (readDeviceValue unit start count) :=
    uses_readDeviceValue room.acquires room.releases fun line => room.reads line _ _
  apply reading.bind
  intro answer
  cases answer with
  | none =>
      simp only
      split
      · exact trivial
      · rename_i tracked
        split
        · have marking : Uses allowed loops (markCommLoss unit.profile.table) :=
            uses_markCommLoss _ (room.losses (by simpa using tracked))
          exact marking.bind fun _ => trivial
        · exact goesOn _
  | some values =>
      have storing : Uses allowed loops (deviceMapReadToPool unit.profile start values) :=
        uses_storeEach _ _ _ room.stores
      exact storing.bind fun _ => goesOn _

theorem uses_scanLoop (todo i segStart segLen : Nat) (st : UnitState) :
    Uses allowed loops (scanLoop unit trackCommFail todo i segStart segLen st) := by
  apply scanLoop_rule
  · exact fun st => trivial
  · exact fun start count st again => uses_scanStep room start count st

theorem uses_scanSegments (segments : List (List DeviceRegisterMapping)) (st : UnitState) :
    Uses allowed loops (scanSegments unit trackCommFail segments st) := by
  induction segments generalizing st with
  | nil => exact trivial
  | cons segment segments ih => exact uses_scanStep room _ _ _ ih

theorem uses_readProfileToPool (starts : allowed (.mark (.scan trackCommFail)))
    (ends : allowed (.mark .leave)) (st : UnitState) :
    Uses allowed loops (readProfileToPool unit trackCommFail st) := by
  unfold readProfileToPool
  split
  · exact trivial
  · refine ⟨room.acquires _, fun _ => ⟨starts, fun _ => ?_⟩⟩
    have scanning : Uses allowed loops
        (scanLoop unit trackCommFail unit.profile.tableCount 1 0 1 st) :=
      uses_scanLoop room _ _ _ _ _
    apply scanning.bind
    intro result
    exact ⟨ends, fun _ => ⟨room.releases _, fun _ => trivial⟩⟩

end Uses

end Rs485Gateway
