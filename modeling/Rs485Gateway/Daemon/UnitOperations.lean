import Rs485Gateway.Daemon.ScanOperations

namespace Rs485Gateway

open Interaction

/-- What a unit asks for between two drains of its queue, writes and reboots where they belong. -/
def betweenDrains (writes : Bool) : DaemonOp → Prop
  | .writeSingle _ _ _ | .writeMultiple _ _ _ | .exchangeReboot => writes = true
  | .mark .drain | .queuePop | .queuePush _ _ | .message _ | .poolRead _ _ | .requestInit _
  | .requestReboot _ | .alarmEvent _ _ _ _ => False
  | _ => True

abbrev Between {α : Type} (writes : Bool) (prog : DaemonProg α) : Prop :=
  Uses (betweenDrains writes) (fun _ => False) prog

variable {unit : DeviceUnit} {st : UnitState} {writes : Bool}

theorem between_readDeviceValue (addr count : Reg) :
    Between writes (readDeviceValue unit addr count) :=
  uses_readDeviceValue (fun _ => trivial) (fun _ => trivial) fun _ => trivial

theorem between_writeRegistersLocked (addr : Reg) (values : List Reg) (mode : WriteMode) :
    Between true (writeRegistersLocked unit addr values mode) := by
  apply writeRegistersLocked_rule addr values mode
  · trivial
  · exact uses_ask rfl
  · exact uses_ask rfl

theorem between_writeRegistersToDevice (addr : Reg) (values : List Reg) (mode : WriteMode) :
    Between true (writeRegistersToDevice unit addr values mode) := by
  refine ⟨trivial, fun _ => ?_⟩
  apply (between_writeRegistersLocked addr values mode).bind
  exact fun _ => ⟨trivial, fun _ => trivial⟩

theorem between_readProfileToPool (trackCommFail : Bool) (st : UnitState) :
    Between writes (readProfileToPool unit trackCommFail st) := by
  have room : ScanAllows (betweenDrains writes) unit trackCommFail :=
    ⟨fun _ => trivial, fun _ => trivial, fun _ _ _ => trivial, fun _ _ _ _ => trivial,
      fun _ _ _ => trivial⟩
  exact uses_readProfileToPool room trivial trivial st

theorem between_probeDevice (path : CStr) (addr : Reg) :
    Between writes (probeDevice path addr) := by
  refine ⟨trivial, fun answer => ?_⟩
  cases answer with
  | none => trivial
  | some values => trivial

theorem between_programEach (registers : List (Reg × Option Reg)) :
    Between true (programEach unit registers) := by
  induction registers with
  | nil => trivial
  | cons register rest ih =>
      rcases register with ⟨addr, value⟩
      cases value with
      | none => exact ih
      | some value => exact (between_writeRegistersLocked _ _ _).bind fun _ => ih

theorem between_writeInOrder (registers : List (Reg × Reg)) :
    Between true (writeInOrder unit registers) := by
  induction registers with
  | nil => trivial
  | cons register rest ih =>
      apply (between_writeRegistersLocked _ _ _).bind
      intro result
      cases result with
      | fail => trivial
      | ok => exact ih

theorem between_inverterUnitConnect : Between true (inverterUnitConnect unit) := by
  unfold inverterUnitConnect
  split
  · exact uses_ask trivial
  · rename_i path baudRate _
    refine ⟨trivial, fun result => ?_⟩
    cases result with
    | fail => trivial
    | ok =>
        refine ⟨trivial, fun _ => ?_⟩
        have probing : Between true (probeTable unit path) := by
          unfold probeTable
          split
          · trivial
          · exact between_probeDevice path _
        apply probing.bind
        intro probed
        cases probed with
        | fail => exact ⟨trivial, fun _ => ⟨trivial, fun _ => trivial⟩⟩
        | ok => exact (between_programEach _).bind fun _ => ⟨trivial, fun _ => trivial⟩

theorem between_upsUnitConnect : Between writes (upsUnitConnect unit) := by
  unfold upsUnitConnect
  split
  · exact uses_ask trivial
  · rename_i path baudRate _
    refine ⟨trivial, fun result => ?_⟩
    cases result with
    | fail => trivial
    | ok =>
        cases unit.profile.table with
        | nil => trivial
        | cons row rest =>
            refine ⟨trivial, fun _ => ?_⟩
            apply (between_probeDevice path row.deviceAddress).bind
            intro probed
            refine ⟨trivial, fun _ => ?_⟩
            cases probed with
            | fail => exact ⟨trivial, fun _ => trivial⟩
            | ok => trivial

theorem between_initCallback {unitConnect : DeviceUnit → DaemonProg Rc} {statusReg : Reg}
    (connects : Between writes (unitConnect unit)) :
    Between writes (initCallback unitConnect statusReg unit st) := by
  apply connects.bind
  intro result
  cases result with
  | fail => trivial
  | ok => exact ⟨trivial, fun _ => trivial⟩

theorem between_errorCallback (statusReg state : Reg) :
    Between writes (errorCallback statusReg st state) :=
  ⟨trivial, fun _ => ⟨trivial, fun _ => trivial⟩⟩

theorem between_onRequest {exchange : DaemonProg Bool} {sequence : DaemonProg UnitState}
    (exchanges : Between writes exchange) (serves : Between writes sequence) :
    Between writes (onRequest exchange st sequence) := by
  apply exchanges.bind
  intro requested
  split
  · exact serves
  · trivial

theorem between_inverterRunInitSequence : Between true (inverterRunInitSequence unit) := by
  refine ⟨trivial, fun _ => ⟨trivial, fun _ => ?_⟩⟩
  apply (between_writeInOrder _).bind
  intro written
  refine ⟨trivial, fun _ => ?_⟩
  cases written with
  | fail => trivial
  | ok => exact uses_ask trivial

theorem between_inverterRunRequests : Between true (inverterRunRequests unit st) := by
  have exchanges : Between true (ask .exchangeInit) := uses_ask trivial
  exact between_onRequest exchanges (between_inverterRunInitSequence.bind fun _ => trivial)

theorem between_upsRunInitSequence : Between writes (upsRunInitSequence unit st) := by
  refine ⟨trivial, fun _ => ?_⟩
  apply (between_readProfileToPool false st).bind
  intro result
  rcases result with ⟨rc, scanned⟩
  cases rc with
  | fail => trivial
  | ok => exact ⟨trivial, fun _ => trivial⟩

theorem between_writeAndVerify (addr : Reg) (values : List Reg) (verifyBit : Reg) :
    Between true (writeAndVerify unit addr values verifyBit) := by
  apply (between_writeRegistersToDevice _ _ _).bind
  intro result
  cases result with
  | fail => trivial
  | ok =>
      apply (between_readDeviceValue _ _).bind
      intro answer
      cases answer with
      | none => trivial
      | some readValue =>
          simp only
          split
          · trivial
          · trivial

theorem between_upsRunRebootSequence : Between true (upsRunRebootSequence unit) := by
  apply (between_writeAndVerify _ _ _).bind
  intro result
  cases result with
  | fail => trivial
  | ok => exact (between_writeAndVerify _ _ _).bind fun _ => trivial

theorem between_upsRunRequests : Between true (upsRunRequests unit st) := by
  have inits : Between true (ask .exchangeInit) := uses_ask trivial
  have reboots : Between true (ask .exchangeReboot) := uses_ask rfl
  apply (between_onRequest inits between_upsRunInitSequence).bind
  exact fun st => between_onRequest reboots (between_upsRunRebootSequence.bind fun _ => trivial)

theorem between_runRequests (kind : DeviceKind) : Between true (runRequests kind unit st) := by
  cases kind with
  | inverter => exact between_inverterRunRequests
  | ups => exact between_upsRunRequests

theorem between_unitConnect (kind : DeviceKind) : Between true (unitConnect kind unit) := by
  cases kind with
  | inverter => exact between_inverterUnitConnect
  | ups => exact between_upsUnitConnect

end Rs485Gateway
