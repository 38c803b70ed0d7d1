import Rs485Gateway.Daemon.Operations

/-! The poll callbacks of a unit (`inverter_module.c`, `ups_module.c`). What the
two modules share is written once; what differs keeps the module's name. -/

namespace Rs485Gateway

open Interaction

def connectionDisconnected : Reg := 0
def connectionConnected : Reg := 1
def modbusDefaultCommFailThreshold : Nat := 5
def commLossMarker : Reg := 0xFFFF

structure UnitState where
  commFailCount : Nat
  connectionState : Reg
  deriving DecidableEq

/-- `inverter_bus_path` and `ups_bus_path`. -/
def busPath (unit : DeviceUnit) : Option CStr :=
  match unit.cfg.transport with
  | .tcp => none
  | .rtu path _ => some path

def readDeviceValue (unit : DeviceUnit) (addr count : Reg) :
    DaemonProg (Option (Fin count.toNat → Reg)) :=
  match unit.cfg.transport with
  | .tcp => ask (.readHolding none addr count)
  | .rtu path _ => do
      ask (.busAcquire (some path))
      let result ← ask (.readHolding (some path) addr count)
      ask (.busRelease (some path))
      pure result

def writeRegistersLocked (unit : DeviceUnit) (addr : Reg) (values : List Reg)
    (mode : WriteMode) : DaemonProg Rc :=
  match mode with
  | .fc06 =>
      if values.length ≠ 1 then pure .fail
      else ask (.writeSingle (busPath unit) addr (values.headD 0))
  | .fc16 => ask (.writeMultiple (busPath unit) addr values)
  | .auto =>
      if values.length = 1 then ask (.writeSingle (busPath unit) addr (values.headD 0))
      else ask (.writeMultiple (busPath unit) addr values)

def writeRegistersToDevice (unit : DeviceUnit) (addr : Reg) (values : List Reg)
    (mode : WriteMode) : DaemonProg Rc := do
  ask (.busAcquire (busPath unit))
  let result ← writeRegistersLocked unit addr values mode
  ask (.busRelease (busPath unit))
  pure result

/-- Addresses the table does not map, and slots outside the pool, are skipped. -/
def storeRegister (profile : DeviceMapProfile) (devAddr raw : Reg) : DaemonProg Unit :=
  match deviceFindSlot profile devAddr with
  | none => pure ()
  | some row =>
      if row.poolAddress.toNat ≥ internalPoolSize then pure ()
      else ask (.poolStore row.poolAddress raw)

def storeEach (profile : DeviceMapProfile) (start : Reg) {n : Nat} (values : Fin n → Reg) :
    List (Fin n) → DaemonProg Unit
  | [] => pure ()
  | i :: rest => do
      storeRegister profile (start + UInt16.ofNat i.val) (values i)
      storeEach profile start values rest

def deviceMapReadToPool (profile : DeviceMapProfile) (start : Reg) {n : Nat}
    (values : Fin n → Reg) : DaemonProg Unit :=
  storeEach profile start values (List.finRange n)

def markCommLoss : List DeviceRegisterMapping → DaemonProg Unit
  | [] => pure ()
  | row :: rest => do
      ask (.poolWrite row.poolAddress commLossMarker)
      markCommLoss rest

def rowAddress (profile : DeviceMapProfile) (i : Nat) : Reg :=
  (profile.table[i]?.map DeviceRegisterMapping.deviceAddress).getD 0

/-- One segment: read it, store the values or count the failure, then go on. -/
def scanStep (unit : DeviceUnit) (trackCommFail : Bool) (start count : Reg) (st : UnitState)
    (again : UnitState → DaemonProg (Rc × UnitState)) : DaemonProg (Rc × UnitState) := do
  match ← readDeviceValue unit start count with
  | none =>
      if ¬ trackCommFail then pure (.fail, st)
      else
        let failed := { st with commFailCount := st.commFailCount + 1 }
        if failed.commFailCount ≥ modbusDefaultCommFailThreshold then do
          markCommLoss unit.profile.table
          pure (.fail, failed)
        else again failed
  | some values => do
      deviceMapReadToPool unit.profile start values
      again (if trackCommFail then { st with commFailCount := 0 } else st)

/-- The segment loop of `read_profile_to_pool`, `todo` iterations before its end. -/
def scanLoop (unit : DeviceUnit) (trackCommFail : Bool) :
    Nat → Nat → Nat → Nat → UnitState → DaemonProg (Rc × UnitState)
  | 0, _, _, _, st => pure (.ok, st)
  | todo + 1, i, segStart, segLen, st =>
      let profile := unit.profile
      let contiguous := i < profile.tableCount ∧
        (rowAddress profile i).toNat = (rowAddress profile (i - 1)).toNat + 1
      let chunkFull := segLen ≥ profile.readChunk.toNat
      if contiguous ∧ ¬ chunkFull then
        scanLoop unit trackCommFail todo (i + 1) segStart (segLen + 1) st
      else
        scanStep unit trackCommFail (rowAddress profile segStart) (UInt16.ofNat segLen) st
          (scanLoop unit trackCommFail todo (i + 1) i 1)

def readProfileToPool (unit : DeviceUnit) (trackCommFail : Bool) (st : UnitState) :
    DaemonProg (Rc × UnitState) :=
  if unit.profile.tableCount = 0 then pure (.ok, st)
  else do
    ask (.busAcquire (busPath unit))
    ask (.mark (.scan trackCommFail))
    let result ← scanLoop unit trackCommFail unit.profile.tableCount 1 0 1 st
    ask (.mark .leave)
    ask (.busRelease (busPath unit))
    pure result

/-- `mb_rtu_client_probe_device` for one register. -/
def probeDevice (path : CStr) (addr : Reg) : DaemonProg Rc := do
  match ← ask (.readHolding (some path) addr 1) with
  | none => pure .fail
  | some _ => pure .ok

def probeTable (unit : DeviceUnit) (path : CStr) : DaemonProg Rc :=
  match unit.profile.table with
  | [] => pure .ok
  | row :: _ => probeDevice path row.deviceAddress

def unitDisconnect : DaemonProg Unit := ask .disconnect

def unitSetConnection (statusReg : Reg) (st : UnitState) (state : Reg) :
    DaemonProg UnitState := do
  ask (.poolWrite statusReg state)
  pure { st with connectionState := state }

def initCallback (unitConnect : DeviceUnit → DaemonProg Rc) (statusReg : Reg)
    (unit : DeviceUnit) (st : UnitState) : DaemonProg (Rc × UnitState) := do
  match ← unitConnect unit with
  | .fail => pure (.fail, st)
  | .ok =>
      let connected ← unitSetConnection statusReg { st with commFailCount := 0 } connectionConnected
      pure (.ok, connected)

def enterDrain (unit : DeviceUnit) (cmd : WriteCmd) : DaemonProg Unit :=
  Prog.call (S := daemonSig) (.drain unit cmd) Prog.ret

/-- The body of the drain loop: one write, then the next command if there is one. -/
def drainBody (unit : DeviceUnit) (cmd : WriteCmd) : DaemonProg Unit := do
  let _ ← writeRegistersLocked unit cmd.addr cmd.values cmd.mode
  match ← ask .queuePop with
  | none => pure ()
  | some next => enterDrain unit next

def daemonCode : Code daemonSig
  | .drain unit cmd => drainBody unit cmd

def drainQueue (unit : DeviceUnit) : DaemonProg Unit := do
  match ← ask .queuePop with
  | none => pure ()
  | some cmd => do
      ask (.busAcquire (busPath unit))
      ask (.mark .drain)
      enterDrain unit cmd
      ask (.mark .leave)
      ask (.busRelease (busPath unit))

def onRequest (exchange : DaemonProg Bool) (st : UnitState) (sequence : DaemonProg UnitState) :
    DaemonProg UnitState := do
  if ← exchange then sequence else pure st

def processCallback (runRequests : DeviceUnit → UnitState → DaemonProg UnitState)
    (unit : DeviceUnit) (st : UnitState) : DaemonProg (Rc × UnitState) := do
  let st ← runRequests unit st
  drainQueue unit
  if unit.profile.tableCount = 0 then pure (.ok, st)
  else readProfileToPool unit true st

def errorCallback (statusReg : Reg) (st : UnitState) (connectionState : Reg) :
    DaemonProg UnitState := do
  unitDisconnect
  unitSetConnection statusReg { st with commFailCount := 0 } connectionState

/-! The inverter module. -/

def inverterBaudConvert (hostBaud : UInt32) : Option Reg :=
  if hostBaud < 4800 ∨ hostBaud > 115200 ∨ hostBaud % 100 ≠ 0 then none
  else
    let code := hostBaud / 100
    if code > 0xFFFF then none else some code.toUInt16

/-- The registers `init_inverter_reg` programs; the baud code is missing when the
configured rate has none. -/
def initInverterWrites (modbusUid baudRate : Int) : List (Reg × Option Reg) :=
  [(devFrequencyCmdSourceReg, some 0x0001), (devRunCmdSourceReg, some 0x0002),
    (devFrequencyUpperLimitReg, some 0x1766), (devFrequencyLowerLimitReg, some 0x06F4),
    (devAccelerationReg, some 0x03E8), (devDecelerationReg, some 0x03E8),
    (devSlaveId, some (UInt16.ofInt modbusUid)),
    (devBaudRate, inverterBaudConvert (UInt32.ofInt baudRate)),
    (devMbErrorHandleReg, some 0x0001), (devMbSerialSettingReg, some 0x000C),
    (devSSpeedStartReg, some 0x0096), (devSSpeedEndReg, some 0x0096),
    (devSDecelerationStartReg, some 0x0096), (devSDecelerationEndReg, some 0x0096),
    (devFrequencyCmdReg, some 0x0000),
    (devOperationCmdReg, some (inverterStopBit ||| inverterEnableAccelerationBit))]

def programEach (unit : DeviceUnit) : List (Reg × Option Reg) → DaemonProg Unit
  | [] => pure ()
  | (_, none) :: rest => programEach unit rest
  | (addr, some value) :: rest => do
      let _ ← writeRegistersLocked unit addr [value] .fc06
      programEach unit rest

def initInverterReg (unit : DeviceUnit) (baudRate : Int) : DaemonProg Unit :=
  programEach unit (initInverterWrites unit.cfg.modbusUid baudRate)

/-- The bus stays held from the probe to the end of the programming. -/
def inverterUnitConnect (unit : DeviceUnit) : DaemonProg Rc :=
  match unit.cfg.transport with
  | .tcp => ask .connect
  | .rtu path baudRate => do
      match ← ask .connect with
      | .fail => pure .fail
      | .ok =>
          ask (.busAcquire (some path))
          match ← probeTable unit path with
          | .fail =>
              ask (.busRelease (some path))
              ask .disconnect
              pure .fail
          | .ok =>
              initInverterReg unit baudRate
              ask (.busRelease (some path))
              pure .ok

def writeInOrder (unit : DeviceUnit) : List (Reg × Reg) → DaemonProg Rc
  | [] => pure .ok
  | (addr, value) :: rest => do
      match ← writeRegistersLocked unit addr [value] .fc06 with
      | .fail => pure .fail
      | .ok => writeInOrder unit rest

def inverterRunInitSequence (unit : DeviceUnit) : DaemonProg Unit := do
  ask (.poolWrite intInverterInitFlagReg 0)
  ask (.busAcquire (busPath unit))
  let written ← writeInOrder unit
    [(devFrequencyCmdReg, 0),
      (devOperationCmdReg, inverterStopBit ||| inverterEnableAccelerationBit)]
  ask (.busRelease (busPath unit))
  match written with
  | .fail => pure ()
  | .ok => ask (.poolWrite intInverterInitFlagReg 1)

def inverterRunRequests (unit : DeviceUnit) (st : UnitState) : DaemonProg UnitState :=
  onRequest (ask .exchangeInit) st do
    inverterRunInitSequence unit
    pure st

def inverterInitCallback : DeviceUnit → UnitState → DaemonProg (Rc × UnitState) :=
  initCallback inverterUnitConnect intInverterConnectionStatusReg

def inverterProcessCallback : DeviceUnit → UnitState → DaemonProg (Rc × UnitState) :=
  processCallback inverterRunRequests

def inverterErrorCallback : UnitState → Reg → DaemonProg UnitState :=
  errorCallback intInverterConnectionStatusReg

/-! The UPS module. -/

/-- The bus is held for the probe only. -/
def upsUnitConnect (unit : DeviceUnit) : DaemonProg Rc :=
  match unit.cfg.transport with
  | .tcp => ask .connect
  | .rtu path _ => do
      match ← ask .connect with
      | .fail => pure .fail
      | .ok =>
          match unit.profile.table with
          | [] => pure .ok
          | row :: _ =>
              ask (.busAcquire (some path))
              let probed ← probeDevice path row.deviceAddress
              ask (.busRelease (some path))
              match probed with
              | .fail =>
                  ask .disconnect
                  pure .fail
              | .ok => pure .ok

def upsRunInitSequence (unit : DeviceUnit) (st : UnitState) : DaemonProg UnitState := do
  ask (.poolWrite intUpsInitFlagReg 0)
  match ← readProfileToPool unit false st with
  | (.fail, st) => pure st
  | (.ok, st) =>
      ask (.poolWrite intUpsInitFlagReg 1)
      pure st

/-- Write a command, then check one bit of the verify register. -/
def writeAndVerify (unit : DeviceUnit) (addr : Reg) (values : List Reg) (verifyBit : Reg) :
    DaemonProg Rc := do
  match ← writeRegistersToDevice unit addr values .fc16 with
  | .fail => pure .fail
  | .ok =>
      match ← readDeviceValue unit devUpsRebootVerifyReg 1 with
      | none => pure .fail
      | some readValue =>
          if readValue ⟨0, by decide⟩ &&& verifyBit = 0 then pure .fail else pure .ok

def upsRestartCmd (unit : DeviceUnit) : DaemonProg Rc :=
  writeAndVerify unit devUpsRestartReg [0x3030, 0x3031] 0x2000

def upsShutdownCmd (unit : DeviceUnit) : DaemonProg Rc :=
  writeAndVerify unit devUpsShutdownReg [0x3031] 0x8000

def upsRunRebootSequence (unit : DeviceUnit) : DaemonProg Unit := do
  match ← upsRestartCmd unit with
  | .fail => pure ()
  | .ok =>
      let _ ← upsShutdownCmd unit
      pure ()

def upsRunRequests (unit : DeviceUnit) (st : UnitState) : DaemonProg UnitState := do
  let st ← onRequest (ask .exchangeInit) st (upsRunInitSequence unit st)
  onRequest (ask .exchangeReboot) st do
    upsRunRebootSequence unit
    pure st

def upsInitCallback : DeviceUnit → UnitState → DaemonProg (Rc × UnitState) :=
  initCallback upsUnitConnect intUpsConnectionStatusReg

def upsProcessCallback : DeviceUnit → UnitState → DaemonProg (Rc × UnitState) :=
  processCallback upsRunRequests

def upsErrorCallback : UnitState → Reg → DaemonProg UnitState :=
  errorCallback intUpsConnectionStatusReg

/-! Module constants and callbacks by kind. -/

def unitProfile : DeviceKind → DeviceMapProfile
  | .inverter => inverter1Profile
  | .ups => ups1Profile

def statusReg : DeviceKind → Reg
  | .inverter => intInverterConnectionStatusReg
  | .ups => intUpsConnectionStatusReg

def initFlagReg : DeviceKind → Reg
  | .inverter => intInverterInitFlagReg
  | .ups => intUpsInitFlagReg

def unitConnect : DeviceKind → DeviceUnit → DaemonProg Rc
  | .inverter => inverterUnitConnect
  | .ups => upsUnitConnect

def runRequests : DeviceKind → DeviceUnit → UnitState → DaemonProg UnitState
  | .inverter => inverterRunRequests
  | .ups => upsRunRequests

structure ModuleCallbacks where
  init : DeviceUnit → UnitState → DaemonProg (Rc × UnitState)
  process : DeviceUnit → UnitState → DaemonProg (Rc × UnitState)
  error : UnitState → Reg → DaemonProg UnitState

def moduleCallbacks : DeviceKind → ModuleCallbacks
  | .inverter => ⟨inverterInitCallback, inverterProcessCallback, inverterErrorCallback⟩
  | .ups => ⟨upsInitCallback, upsProcessCallback, upsErrorCallback⟩

section Rules

variable {unit : DeviceUnit}

theorem writeRegistersLocked_rule {motive : DaemonProg Rc → Prop} (addr : Reg)
    (values : List Reg) (mode : WriteMode) (refused : motive (pure .fail))
    (single : motive (ask (.writeSingle (busPath unit) addr (values.headD 0))))
    (multiple : motive (ask (.writeMultiple (busPath unit) addr values))) :
    motive (writeRegistersLocked unit addr values mode) := by
  cases mode with
  | fc06 =>
      simp only [writeRegistersLocked]
      split
      · exact refused
      · exact single
  | fc16 => exact multiple
  | auto =>
      simp only [writeRegistersLocked]
      split
      · exact single
      · exact multiple

theorem scanLoop_rule {motive : DaemonProg (Rc × UnitState) → Prop} {trackCommFail : Bool}
    (finished : ∀ st, motive (pure (.ok, st)))
    (step : ∀ start count st again, (∀ st, motive (again st)) →
      motive (scanStep unit trackCommFail start count st again))
    (todo i segStart segLen : Nat) (st : UnitState) :
    motive (scanLoop unit trackCommFail todo i segStart segLen st) := by
  induction todo generalizing i segStart segLen st with
  | zero => exact finished st
  | succ todo ih =>
      simp only [scanLoop]
      split
      · exact ih _ _ _ _
      · exact step _ _ _ _ fun st => ih _ _ _ st

end Rules

theorem moduleCallbacks_init (kind : DeviceKind) :
    (moduleCallbacks kind).init = initCallback (unitConnect kind) (statusReg kind) := by
  cases kind <;> rfl

theorem moduleCallbacks_process (kind : DeviceKind) :
    (moduleCallbacks kind).process = processCallback (runRequests kind) := by
  cases kind <;> rfl

theorem moduleCallbacks_error (kind : DeviceKind) :
    (moduleCallbacks kind).error = errorCallback (statusReg kind) := by
  cases kind <;> rfl

end Rs485Gateway
