import Rs485Gateway.Daemon.UnitModules

/-! The callbacks of the two subscriber threads (`inverter_cmos_bridge.c`,
`ups_cmos_bridge.c`) and the passes of the alarm monitor (`alarm_bridge.c`). -/

namespace Rs485Gateway

open Interaction

/-- The running units, in the order of `inverter_units` and `ups_units`, and the
alarm contexts with the profile each one reads through. -/
structure Daemon where
  inverters : List DeviceUnit
  ups : List DeviceUnit
  alarms : List (List AlarmEntry × DeviceMapProfile)

namespace Daemon

def units (daemon : Daemon) : DeviceKind → List DeviceUnit
  | .inverter => daemon.inverters
  | .ups => daemon.ups

def unit? (daemon : Daemon) (id : UnitId) : Option DeviceUnit :=
  (daemon.units id.kind)[id.index]?

/-- `inverter_get_primary_uid` and `ups_get_primary_uid`. -/
def primaryUid (daemon : Daemon) (kind : DeviceKind) : Option UInt8 :=
  (daemon.units kind).head?.map fun unit => UInt8.ofInt unit.cfg.modbusUid

def unitFromUid (daemon : Daemon) (kind : DeviceKind) (uid : UInt8) : Option UnitId :=
  ((daemon.units kind).findIdx? fun unit => UInt8.ofInt unit.cfg.modbusUid = uid).map
    fun index => ⟨kind, index⟩

def inverterCmdPush (daemon : Daemon) (uid : UInt8) (addr : Reg) (values : List Reg)
    (mode : WriteMode) : DaemonProg Rc :=
  if values.length = 0 ∨ values.length > modbusMaxWriteRegisters then pure .fail
  else match daemon.unitFromUid .inverter uid with
    | none => pure .fail
    | some target => do
        let accepted ← ask (.queuePush target { addr := addr, values := values, mode := mode })
        pure (if accepted then .ok else .fail)

def onWrite (daemon : Daemon) (uid : UInt8) (addr val : Reg) : DaemonProg Rc :=
  match deviceFindSlot inverter1Profile addr with
  | none => pure .fail
  | some entry =>
      if entry.access = .ro then pure .fail
      else inverterCmdPush daemon uid addr [val] .auto

def readLimits : DaemonProg (Reg × Reg) := do
  let upper ← ask (.poolRead .handler intFrequencyUpperLimitReg)
  let lower ← ask (.poolRead .handler intFrequencyLowerLimitReg)
  pure (upper.getD 0, lower.getD 0)

/-- `duty_convert_frequency` once the limits are read. -/
def dutyFrequency (duty upper lower : Reg) : Reg :=
  if upper ≤ lower then lower
  else if duty ≥ 10000 then upper
  else
    let dutyPercent := duty / 100
    let dutyRemainder := duty % 100
    let range := (upper - lower).toUInt32
    (lower.toUInt32 + range * dutyPercent.toUInt32 / 100
      + range * dutyRemainder.toUInt32 / 10000).toUInt16

def dutyConvertFrequency (duty : Reg) : DaemonProg Reg := do
  let (upper, lower) ← readLimits
  pure (dutyFrequency duty upper lower)

def queueFrequency (daemon : Daemon) (uid : UInt8) (frequency operation : Reg) :
    DaemonProg Unit := do
  match ← onWrite daemon uid devFrequencyCmdReg frequency with
  | .fail => pure ()
  | .ok =>
      let _ ← onWrite daemon uid devOperationCmdReg operation
      pure ()

def stopOperation : Reg := inverterStopBit ||| inverterEnableAccelerationBit
def runOperation : Reg := inverterRunBit ||| inverterEnableAccelerationBit

def onMainPumpDutyCmd (daemon : Daemon) (dutyVal : Reg) : DaemonProg Unit := do
  let frequency ← dutyConvertFrequency dutyVal
  match daemon.primaryUid .inverter with
  | none => pure ()
  | some uid =>
      if dutyVal = 0 then queueFrequency daemon uid dutyVal stopOperation
      else queueFrequency daemon uid frequency runOperation

def onFrequencyWriteCmd (daemon : Daemon) (value : UInt64) : DaemonProg Unit :=
  let frequency := value.toUInt16
  match daemon.primaryUid .inverter with
  | none => pure ()
  | some uid =>
      if frequency = 0 then queueFrequency daemon uid frequency stopOperation
      else queueFrequency daemon uid frequency runOperation

def onOperationCmd (daemon : Daemon) (value : UInt64) : DaemonProg Unit :=
  match daemon.primaryUid .inverter with
  | none => pure ()
  | some uid => do
      let _ ← onWrite daemon uid devOperationCmdReg value.toUInt16
      pure ()

def onFaultControlCmd (daemon : Daemon) (value : UInt64) : DaemonProg Unit :=
  match daemon.primaryUid .inverter with
  | none => pure ()
  | some uid => do
      let _ ← onWrite daemon uid devFaultControlCmdReg value.toUInt16
      pure ()

def onBypassCmd (daemon : Daemon) (value : UInt64) : DaemonProg Unit :=
  match daemon.primaryUid .inverter with
  | none => pure ()
  | some uid => do
      let _ ← onWrite daemon uid devFaultControlCmdReg
        (if value.toUInt16 = 1 then inverterFireModeBit else inverterEfBit)
      pure ()

/-- A one in the message raises a request flag of the primary unit. -/
def onRequestCmd (daemon : Daemon) (kind : DeviceKind) (request : UnitId → DaemonProg Unit)
    (value : UInt64) : DaemonProg Unit :=
  if value.toUInt16 ≠ 1 then pure ()
  else match (daemon.primaryUid kind).bind (daemon.unitFromUid kind) with
    | none => pure ()
    | some target => request target

def onInitInverterCmd (daemon : Daemon) : UInt64 → DaemonProg Unit :=
  daemon.onRequestCmd .inverter fun target => ask (.requestInit target)

def onInitUpsCmd (daemon : Daemon) : UInt64 → DaemonProg Unit :=
  daemon.onRequestCmd .ups fun target => ask (.requestInit target)

def onRebootUpsCmd (daemon : Daemon) : UInt64 → DaemonProg Unit :=
  daemon.onRequestCmd .ups fun target => ask (.requestReboot target)

def inverterDispatch (daemon : Daemon) : InverterCommand → DaemonProg Unit
  | .operation value => daemon.onOperationCmd value
  | .frequencyWrite value => daemon.onFrequencyWriteCmd value
  | .faultControl value => daemon.onFaultControlCmd value
  | .mainPump dutyVal => daemon.onMainPumpDutyCmd dutyVal
  | .initInverter value => daemon.onInitInverterCmd value
  | .bypass value => daemon.onBypassCmd value

def upsDispatch (daemon : Daemon) : UpsCommand → DaemonProg Unit
  | .initUps value => daemon.onInitUpsCmd value
  | .rebootUps value => daemon.onRebootUpsCmd value

/-- One callback of a subscriber thread, from the message on. -/
def handleMessage (daemon : Daemon) : DeviceKind → DaemonProg Unit
  | .inverter => do daemon.inverterDispatch (← ask (.message .inverter))
  | .ups => do daemon.upsDispatch (← ask (.message .ups))

/-- `pool_read_by_device_addr`, on behalf of one alarm entry. -/
def alarmReadRegister (ctx entry : Nat) (profile : DeviceMapProfile) (deviceAddress : Reg) :
    DaemonProg (Option Reg) :=
  match deviceFindSlot profile deviceAddress with
  | none => pure none
  | some mapping => ask (.poolRead (.alarm ctx entry) mapping.poolAddress)

def emit (ctx entry : Nat) (value : Reg) : Option AlarmEvent → DaemonProg Unit
  | none => pure ()
  | some event => ask (.alarmEvent ctx entry value event)

/-- One turn of the loop of `alarm_engine_run`. -/
def runEntry (ctx entry : Nat) (profile : DeviceMapProfile) (row : AlarmEntry)
    (state : AlarmState) : DaemonProg AlarmState := do
  match ← alarmReadRegister ctx entry profile row.deviceAddress with
  | none => pure state
  | some value =>
      emit ctx entry value (evalEntry row state value).2
      pure (evalEntry row state value).1

def runEntries (ctx : Nat) (profile : DeviceMapProfile) :
    Nat → List (AlarmEntry × AlarmState) → DaemonProg (List AlarmState)
  | _, [] => pure []
  | entry, (row, state) :: rest => do
      let next ← runEntry ctx entry profile row state
      let states ← runEntries ctx profile (entry + 1) rest
      pure (next :: states)

def alarmEngineRun (ctx : Nat) (profile : DeviceMapProfile) (table : List AlarmEntry)
    (states : List AlarmState) : DaemonProg (List AlarmState) :=
  runEntries ctx profile 0 (table.zip states)

def runContexts : Nat → List ((List AlarmEntry × DeviceMapProfile) × List AlarmState) →
    DaemonProg (List (List AlarmState))
  | _, [] => pure []
  | ctx, ((table, profile), states) :: rest => do
      let next ← alarmEngineRun ctx profile table states
      let others ← runContexts (ctx + 1) rest
      pure (next :: others)

def alarmPass (daemon : Daemon) (states : List (List AlarmState)) :
    DaemonProg (List (List AlarmState)) :=
  runContexts 0 (daemon.alarms.zip states)

def alarmStatesInit (daemon : Daemon) : List (List AlarmState) :=
  daemon.alarms.map fun context => context.1.map fun _ => alarmStateInit

def handles : DaemonOp → Prop
  | .poolRead _ _ | .requestInit _ | .requestReboot _ | .queuePush _ _ => True
  | _ => False

def watches : DaemonOp → Prop
  | .poolRead _ _ | .alarmEvent _ _ _ _ => True
  | _ => False

def aside (operation : DaemonOp) : Prop := handles operation ∨ watches operation

section Handles

variable {daemon : Daemon}

abbrev Handles {α : Type} (prog : DaemonProg α) : Prop := Uses handles (fun _ => False) prog

theorem handles_ask {operation : DaemonOp} (here : handles operation) : Handles (ask operation) :=
  ⟨here, fun _ => trivial⟩

theorem handles_ask_bind {α : Type} {operation : DaemonOp} {f : operation.Res → DaemonProg α}
    (here : handles operation) (tail : ∀ answer, Handles (f answer)) :
    Handles ((ask operation).bind f) :=
  ⟨here, tail⟩

theorem onWrite_uses {allowed : DaemonOp → Prop} {uid : UInt8} {addr val : Reg}
    (pushes : ∀ index, allowed (.queuePush ⟨.inverter, index⟩ ⟨addr, [val], .auto⟩)) :
    Uses allowed (fun _ => False) (daemon.onWrite uid addr val) := by
  unfold onWrite
  split
  · trivial
  · split
    · trivial
    · unfold inverterCmdPush
      split
      · trivial
      · split
        · trivial
        · rename_i target found
          rcases Option.map_eq_some_iff.mp found with ⟨index, -, rfl⟩
          exact ⟨pushes index, fun _ => trivial⟩

theorem queueFrequency_uses {allowed : DaemonOp → Prop} {uid : UInt8} {frequency operation : Reg}
    (frequencies : ∀ index,
      allowed (.queuePush ⟨.inverter, index⟩ ⟨devFrequencyCmdReg, [frequency], .auto⟩))
    (operations : ∀ index,
      allowed (.queuePush ⟨.inverter, index⟩ ⟨devOperationCmdReg, [operation], .auto⟩)) :
    Uses allowed (fun _ => False) (daemon.queueFrequency uid frequency operation) := by
  refine (onWrite_uses frequencies).bind fun result => ?_
  cases result with
  | fail => trivial
  | ok => exact (onWrite_uses operations).bind fun _ => trivial

theorem onRequestCmd_uses {allowed : DaemonOp → Prop} (kind : DeviceKind)
    {request : UnitId → DaemonProg Unit} {value : UInt64}
    (requests : value.toUInt16 = 1 → ∀ index,
      Uses allowed (fun _ => False) (request ⟨kind, index⟩)) :
    Uses allowed (fun _ => False) (daemon.onRequestCmd kind request value) := by
  unfold onRequestCmd
  split
  · trivial
  · rename_i one
    split
    · trivial
    · rename_i target found
      rcases Option.bind_eq_some_iff.mp found with ⟨uid, -, inner⟩
      rcases Option.map_eq_some_iff.mp inner with ⟨index, -, rfl⟩
      exact requests (not_not.mp one) index

theorem onWrite_handles (uid : UInt8) (addr val : Reg) :
    Handles (daemon.onWrite uid addr val) := onWrite_uses fun _ => trivial

theorem queueFrequency_handles (uid : UInt8) (frequency operation : Reg) :
    Handles (daemon.queueFrequency uid frequency operation) :=
  queueFrequency_uses (fun _ => trivial) fun _ => trivial

theorem onRequestCmd_handles (kind : DeviceKind) {request : UnitId → DaemonProg Unit}
    (requests : ∀ target, Handles (request target)) (value : UInt64) :
    Handles (daemon.onRequestCmd kind request value) :=
  onRequestCmd_uses kind fun _ index => requests ⟨kind, index⟩

theorem onMainPumpDutyCmd_handles (dutyVal : Reg) :
    Handles (daemon.onMainPumpDutyCmd dutyVal) := by
  have limits : Handles readLimits :=
    handles_ask_bind trivial fun _ => handles_ask_bind trivial fun _ => trivial
  refine (limits.bind fun _ => trivial : Handles (dutyConvertFrequency dutyVal)).bind ?_
  intro frequency
  split
  · trivial
  · split
    · exact queueFrequency_handles _ _ _
    · exact queueFrequency_handles _ _ _

theorem inverterDispatch_handles (command : InverterCommand) :
    Handles (daemon.inverterDispatch command) := by
  cases command with
  | operation value =>
      simp only [inverterDispatch, onOperationCmd]
      split
      · trivial
      · exact (onWrite_handles _ _ _).bind fun _ => trivial
  | frequencyWrite value =>
      simp only [inverterDispatch, onFrequencyWriteCmd]
      split
      · trivial
      · split
        · exact queueFrequency_handles _ _ _
        · exact queueFrequency_handles _ _ _
  | faultControl value =>
      simp only [inverterDispatch, onFaultControlCmd]
      split
      · trivial
      · exact (onWrite_handles _ _ _).bind fun _ => trivial
  | mainPump dutyVal => exact onMainPumpDutyCmd_handles dutyVal
  | initInverter value => exact onRequestCmd_handles _ (fun _ => by exact handles_ask trivial) value
  | bypass value =>
      simp only [inverterDispatch, onBypassCmd]
      split
      · trivial
      · exact (onWrite_handles _ _ _).bind fun _ => trivial

theorem upsDispatch_handles (command : UpsCommand) : Handles (daemon.upsDispatch command) := by
  cases command with
  | initUps value => exact onRequestCmd_handles _ (fun _ => by exact handles_ask trivial) value
  | rebootUps value => exact onRequestCmd_handles _ (fun _ => by exact handles_ask trivial) value

end Handles

section Watches

abbrev Watches {α : Type} (prog : DaemonProg α) : Prop := Uses watches (fun _ => False) prog

theorem runEntry_watches (ctx entry : Nat) (profile : DeviceMapProfile) (row : AlarmEntry)
    (state : AlarmState) : Watches (runEntry ctx entry profile row state) := by
  refine Uses.bind ?_ fun value => ?_
  · unfold alarmReadRegister
    split
    · trivial
    · exact ⟨trivial, fun _ => trivial⟩
  · cases value with
    | none => trivial
    | some value =>
        refine Uses.bind ?_ fun _ => trivial
        unfold emit
        split
        · trivial
        · exact ⟨trivial, fun _ => trivial⟩

theorem runEntries_watches (ctx entry : Nat) (profile : DeviceMapProfile)
    (rows : List (AlarmEntry × AlarmState)) :
    Watches (runEntries ctx profile entry rows) := by
  induction rows generalizing entry with
  | nil => trivial
  | cons row rest ih =>
      exact (runEntry_watches _ _ _ _ _).bind fun _ => (ih _).bind fun _ => trivial

theorem runContexts_watches (ctx : Nat)
    (contexts : List ((List AlarmEntry × DeviceMapProfile) × List AlarmState)) :
    Watches (runContexts ctx contexts) := by
  induction contexts generalizing ctx with
  | nil => trivial
  | cons context rest ih =>
      exact (runEntries_watches _ _ _ _).bind fun _ => (ih _).bind fun _ => trivial

theorem alarmPass_watches {daemon : Daemon} (states : List (List AlarmState)) :
    Watches (daemon.alarmPass states) :=
  runContexts_watches _ _

end Watches

end Daemon

end Rs485Gateway
