import Rs485Gateway.Daemon.ScanOperations

/-! What a callback can read from its device, which pool slots it can touch and
which scans it can start. Every function is followed once, for any footprint
that is large enough for it. -/

namespace Rs485Gateway

open Interaction

structure Footprint where
  marks : Mark → Prop
  reads : Reg → Reg → Prop
  writes : Reg → Reg → Prop
  stores : Reg → Prop

namespace Footprint

def allows (f : Footprint) : DaemonOp → Prop
  | .mark mark => f.marks mark
  | .readHolding _ addr count => f.reads addr count
  | .poolWrite poolAddress value => f.writes poolAddress value
  | .poolStore poolAddress _ => f.stores poolAddress
  | .message _ | .poolRead _ _ | .requestInit _ | .requestReboot _ | .queuePush _ _
  | .alarmEvent _ _ _ _ => False
  | _ => True

structure Fills (f : Footprint) (unit : DeviceUnit) (trackCommFail : Bool) : Prop where
  reads : ∀ addr count, f.reads addr count
  stores : ∀ devAddr slot, storeSlot unit.profile devAddr = some slot → f.stores slot
  losses : trackCommFail = true → ∀ row ∈ unit.profile.table,
    f.writes row.poolAddress commLossMarker

structure Scans (f : Footprint) (unit : DeviceUnit) (trackCommFail : Bool) : Prop
    extends Fills f unit trackCommFail where
  starts : f.marks (.scan trackCommFail)
  ends : f.marks .leave

variable {f : Footprint} {unit : DeviceUnit} {α β : Type}

/-- The program stays inside the footprint, whatever loops it enters. -/
def Stays (f : Footprint) (prog : DaemonProg α) : Prop := Uses f.allows (fun _ => True) prog

theorem Stays.bind {prog : DaemonProg α} {next : α → DaemonProg β} (head : Stays f prog)
    (tail : ∀ value, Stays f (next value)) : Stays f (prog.bind next) :=
  Uses.bind head tail

theorem stays_pure (value : α) : Stays f (pure value) := trivial

theorem stays_ask {operation : DaemonOp} (here : f.allows operation) : Stays f (ask operation) :=
  ⟨here, fun _ => trivial⟩

theorem ask_bind {operation : DaemonOp} {next : operation.Res → DaemonProg β}
    (here : f.allows operation) (tail : ∀ answer, Stays f (next answer)) :
    Stays f ((ask operation).bind next) :=
  ⟨here, tail⟩

theorem stays_readDeviceValue {addr count : Reg} (reads : f.reads addr count) :
    Stays f (readDeviceValue unit addr count) :=
  uses_readDeviceValue (fun _ => trivial) (fun _ => trivial) fun _ => reads

theorem stays_writeRegistersLocked (addr : Reg) (values : List Reg) (mode : WriteMode) :
    Stays f (writeRegistersLocked unit addr values mode) := by
  apply writeRegistersLocked_rule addr values mode
  · exact stays_pure _
  · exact stays_ask trivial
  · exact stays_ask trivial

theorem stays_writeRegistersToDevice (addr : Reg) (values : List Reg) (mode : WriteMode) :
    Stays f (writeRegistersToDevice unit addr values mode) :=
  ask_bind trivial fun _ => (stays_writeRegistersLocked _ _ _).bind fun _ =>
    ask_bind trivial fun _ => stays_pure _

theorem stays_markCommLoss (table : List DeviceRegisterMapping)
    (losses : ∀ row ∈ table, f.writes row.poolAddress commLossMarker) :
    Stays f (markCommLoss table) :=
  uses_markCommLoss table losses

theorem Fills.scanAllows {trackCommFail : Bool} (room : f.Fills unit trackCommFail) :
    ScanAllows f.allows unit trackCommFail where
  acquires := fun _ => trivial
  releases := fun _ => trivial
  reads := fun _ => room.reads
  stores := fun devAddr slot _ => room.stores devAddr slot
  losses := room.losses

theorem stays_readProfileToPool {trackCommFail : Bool} (room : f.Scans unit trackCommFail)
    (st : UnitState) : Stays f (readProfileToPool unit trackCommFail st) :=
  uses_readProfileToPool room.toFills.scanAllows room.starts room.ends st

theorem stays_drainBody (cmd : WriteCmd) : Stays f (drainBody unit cmd) := by
  refine (stays_writeRegistersLocked _ _ _).bind fun _ => ask_bind trivial fun next => ?_
  cases next with
  | none => exact stays_pure ()
  | some next => exact ⟨trivial, fun _ => stays_pure ()⟩

theorem stays_code (loop : DaemonLoop) : Stays f (daemonCode loop) := by
  obtain ⟨unit, cmd⟩ := loop
  exact stays_drainBody cmd

theorem Stays.runs {prog : DaemonProg α} {events : List DaemonEvent} {value : α}
    (stays : Stays f prog) (run : DaemonRuns prog events value) :
    ∀ event ∈ events, f.allows event.1 := by
  have bodies : ∀ loop : DaemonLoop, True → Uses f.allows (fun _ => True) (daemonCode loop) :=
    fun loop _ => stays_code loop
  exact Uses.runs bodies stays run

theorem stays_drainQueue (starts : f.marks .drain) (ends : f.marks .leave) :
    Stays f (drainQueue unit) := by
  refine ask_bind trivial fun cmd => ?_
  cases cmd with
  | none => exact stays_pure ()
  | some cmd =>
      refine ask_bind trivial fun _ => ask_bind starts fun _ => ⟨trivial, fun _ => ?_⟩
      exact ask_bind ends fun _ => by exact stays_ask trivial

theorem stays_scanSegments {trackCommFail : Bool} (room : f.Fills unit trackCommFail)
    (segments : List (List DeviceRegisterMapping)) (st : UnitState) :
    Stays f (scanSegments unit trackCommFail segments st) :=
  uses_scanSegments room.scanAllows segments st

/-- A slot outside the footprint keeps its value. -/
theorem poolAfter_outside {events : List DaemonEvent} {slot : Reg}
    (within : ∀ event ∈ events, f.allows event.1) (noWrite : ∀ value, ¬ f.writes slot value)
    (noStore : ¬ f.stores slot) (pool : Pool) : poolAfter pool events slot = pool slot := by
  induction events generalizing pool with
  | nil => rfl
  | cons event rest ih =>
      rw [poolAfter_cons, ih fun next member => within next (List.mem_cons_of_mem _ member)]
      have here := within event List.mem_cons_self
      obtain ⟨operation, answer⟩ := event
      cases operation with
      | poolStore address value =>
          exact assign_other _ _ fun same => noStore (same ▸ here)
      | poolWrite address value =>
          exact poolWriteRegister_other fun same => noWrite value (same ▸ here)
      | _ => rfl

theorem stays_probeDevice {addr : Reg} (path : CStr) (reads : f.reads addr 1) :
    Stays f (probeDevice path addr) := by
  refine ask_bind reads fun answer => ?_
  cases answer with
  | none => exact stays_pure _
  | some values => exact stays_pure _

theorem stays_probeTable (path : CStr) (reads : ∀ addr, f.reads addr 1) :
    Stays f (probeTable unit path) := by
  unfold probeTable
  split
  · exact stays_pure _
  · exact stays_probeDevice path (reads _)

theorem stays_programEach (writes : List (Reg × Option Reg)) :
    Stays f (programEach unit writes) := by
  induction writes with
  | nil => exact stays_pure ()
  | cons write rest ih =>
      obtain ⟨addr, value⟩ := write
      cases value with
      | none => exact ih
      | some value => exact (stays_writeRegistersLocked _ _ _).bind fun _ => ih

theorem stays_writeInOrder (writes : List (Reg × Reg)) : Stays f (writeInOrder unit writes) := by
  induction writes with
  | nil => exact stays_pure _
  | cons write rest ih =>
      refine (stays_writeRegistersLocked _ _ _).bind fun result => ?_
      cases result with
      | fail => exact stays_pure _
      | ok => exact ih

theorem stays_inverterUnitConnect (reads : ∀ addr, f.reads addr 1) :
    Stays f (inverterUnitConnect unit) := by
  unfold inverterUnitConnect
  split
  · exact stays_ask trivial
  · refine ask_bind trivial fun result => ?_
    cases result with
    | fail => exact stays_pure _
    | ok =>
        refine ask_bind trivial fun _ => (stays_probeTable _ reads).bind fun probed => ?_
        cases probed with
        | fail => exact ask_bind trivial fun _ => ask_bind trivial fun _ => stays_pure _
        | ok =>
            exact (stays_programEach _).bind fun _ => ask_bind trivial fun _ => stays_pure _

theorem stays_upsUnitConnect (reads : ∀ addr, f.reads addr 1) :
    Stays f (upsUnitConnect unit) := by
  unfold upsUnitConnect
  split
  · exact stays_ask trivial
  · rename_i path baudRate transport
    refine ask_bind trivial fun result => ?_
    cases result with
    | fail => exact stays_pure _
    | ok =>
        cases unit.profile.table with
        | nil => exact stays_pure _
        | cons row rest =>
            refine ask_bind trivial fun _ => (stays_probeDevice path (reads _)).bind fun probed =>
              ask_bind trivial fun _ => ?_
            cases probed with
            | fail => exact ask_bind trivial fun _ => stays_pure _
            | ok => exact stays_pure _

theorem stays_initCallback {unitConnect : DeviceUnit → DaemonProg Rc} {statusReg : Reg}
    {st : UnitState} (connects : Stays f (unitConnect unit))
    (status : f.writes statusReg connectionConnected) :
    Stays f (initCallback unitConnect statusReg unit st) := by
  refine connects.bind fun result => ?_
  cases result with
  | fail => exact stays_pure _
  | ok => exact ask_bind status fun _ => stays_pure _

theorem stays_errorCallback {statusReg state : Reg} {st : UnitState}
    (status : f.writes statusReg state) : Stays f (errorCallback statusReg st state) :=
  ask_bind trivial fun _ => ask_bind status fun _ => stays_pure _

theorem stays_onRequest {exchange : DaemonProg Bool} {st : UnitState}
    {sequence : DaemonProg UnitState} (asks : Stays f exchange) (runs : Stays f sequence) :
    Stays f (onRequest exchange st sequence) := by
  refine asks.bind fun requested => ?_
  split
  · exact runs
  · exact stays_pure _

theorem stays_inverterRunRequests {st : UnitState}
    (flag : ∀ value, f.writes intInverterInitFlagReg value) :
    Stays f (inverterRunRequests unit st) := by
  have asks : Stays f (ask .exchangeInit) := stays_ask trivial
  refine stays_onRequest asks (Stays.bind ?_ fun _ => stays_pure _)
  refine ask_bind (flag 0) fun _ => ask_bind trivial fun _ => ?_
  refine (stays_writeInOrder _).bind fun written => ask_bind trivial fun _ => ?_
  cases written with
  | fail => exact stays_pure ()
  | ok => exact stays_ask (flag 1)

theorem stays_writeAndVerify (addr : Reg) (values : List Reg) (verifyBit : Reg)
    (verifies : f.reads devUpsRebootVerifyReg 1) :
    Stays f (writeAndVerify unit addr values verifyBit) := by
  refine (stays_writeRegistersToDevice _ _ _).bind fun result => ?_
  cases result with
  | fail => exact stays_pure _
  | ok =>
      refine (stays_readDeviceValue verifies).bind fun answer => ?_
      cases answer with
      | none => exact stays_pure _
      | some readValue =>
          simp only
          split
          · exact stays_pure _
          · exact stays_pure _

theorem stays_upsRunRebootSequence (verifies : f.reads devUpsRebootVerifyReg 1) :
    Stays f (upsRunRebootSequence unit) := by
  refine (stays_writeAndVerify _ _ _ verifies).bind fun result => ?_
  cases result with
  | fail => exact stays_pure ()
  | ok => exact (stays_writeAndVerify _ _ _ verifies).bind fun _ => stays_pure ()

theorem stays_upsRunRequests {st : UnitState} (flag : ∀ value, f.writes intUpsInitFlagReg value)
    (room : f.Scans unit false) : Stays f (upsRunRequests unit st) := by
  have scans : Stays f (upsRunInitSequence unit st) := by
    refine ask_bind (flag 0) fun _ => (stays_readProfileToPool room st).bind fun result => ?_
    obtain ⟨rc, st⟩ := result
    cases rc with
    | fail => exact stays_pure _
    | ok => exact ask_bind (flag 1) fun _ => stays_pure _
  have asksInit : Stays f (ask .exchangeInit) := stays_ask trivial
  have asksReboot : Stays f (ask .exchangeReboot) := stays_ask trivial
  refine (stays_onRequest asksInit scans).bind fun st => ?_
  have reboots := @stays_upsRunRebootSequence f unit (room.reads _ _)
  exact stays_onRequest asksReboot (reboots.bind fun _ => stays_pure _)

theorem stays_runRequests {kind : DeviceKind} {st : UnitState}
    (flag : ∀ value, f.writes (initFlagReg kind) value) (room : f.Scans unit false) :
    Stays f (runRequests kind unit st) := by
  cases kind with
  | inverter => exact stays_inverterRunRequests flag
  | ups => exact stays_upsRunRequests flag room

end Footprint

end Rs485Gateway
