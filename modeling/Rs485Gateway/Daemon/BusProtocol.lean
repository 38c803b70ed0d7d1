import Rs485Gateway.Daemon.System

/-! How a thread must use its serial line: at most two nested acquires, every
frame under the lock, and the lock kept from one end of a scan or drain to the
other. -/

namespace Rs485Gateway

open Interaction

/-- What a thread's own events say about its line. -/
structure BusGhost where
  depth : Nat
  inside : Option Mark

namespace BusGhost

def outside : BusGhost where
  depth := 0
  inside := none

def after (g : BusGhost) : DaemonOp → BusGhost
  | .busAcquire _ => { g with depth := g.depth + 1 }
  | .busRelease _ => { g with depth := g.depth - 1 }
  | .mark .leave => { g with inside := none }
  | .mark mark => { g with inside := some mark }
  | _ => g

def Allows (line : Option CStr) (g : BusGhost) : DaemonOp → Prop
  | .busAcquire path => path = line ∧ g.depth ≤ 1
  | .busRelease path => path = line ∧ 0 < g.depth ∧ (g.inside ≠ none → 2 ≤ g.depth)
  | .mark .leave => True
  | .mark _ => 0 < g.depth
  | .readHolding on _ _ => on = line ∧ (line = none ∨ 0 < g.depth)
  | .writeSingle on _ _ => on = line ∧ (line = none ∨ 0 < g.depth)
  | .writeMultiple on _ _ => on = line ∧ (line = none ∨ 0 < g.depth)
  | _ => True

def Sound (g : BusGhost) : Prop := g.inside ≠ none → 0 < g.depth

variable {line : Option CStr} {g : BusGhost} {operation : DaemonOp} {path : CStr}

theorem Sound.after (sound : g.Sound) (allowed : g.Allows line operation) :
    (g.after operation).Sound := by
  cases operation with
  | busAcquire path => exact fun _ => Nat.succ_pos _
  | busRelease path =>
      intro inside
      have deep := allowed.2.2 inside
      simp only [BusGhost.after]
      omega
  | mark mark =>
      cases mark with
      | leave => exact fun inside => absurd rfl inside
      | scan track => exact fun _ => allowed
      | drain => exact fun _ => allowed
  | _ => exact sound

theorem line_held {on : Option CStr} (allowed : on = line ∧ (line = none ∨ 0 < g.depth))
    (transaction : on = some path) : line = some path ∧ 0 < g.depth := by
  obtain ⟨rfl, held⟩ := allowed
  rw [transaction] at held
  exact ⟨transaction, by simpa using held⟩

theorem Allows.holds (allowed : g.Allows line operation)
    (transaction : operation.transactionOn path = true) : line = some path ∧ 0 < g.depth := by
  cases operation with
  | readHolding on addr count =>
      exact line_held allowed (by simpa [DaemonOp.transactionOn] using transaction)
  | writeSingle on addr value =>
      exact line_held allowed (by simpa [DaemonOp.transactionOn] using transaction)
  | writeMultiple on addr values =>
      exact line_held allowed (by simpa [DaemonOp.transactionOn] using transaction)
  | _ => simp [DaemonOp.transactionOn] at transaction

end BusGhost

/-- The drain loop runs under the lock and gives the ghost state back as it was. -/
def busSpec (line : Option CStr) : Protocol daemonSig BusGhost where
  allow := fun g operation => g.Allows line operation
  rely := fun _ _ _ => True
  next := fun g operation _ => g.after operation
  enter := fun loop g =>
    match loop with
    | .drain unit _ => busPath unit = line ∧ 0 < g.depth
  leave := fun _ g _ g' => g' = g

namespace BusProtocol

variable {line : Option CStr} {g : BusGhost} {α β : Type}

def Keeps (line : Option CStr) (g : BusGhost) (prog : DaemonProg α) : Prop :=
  Safe (busSpec line) (fun _ g' => g' = g) g prog

theorem Keeps.bind {prog : DaemonProg α} {f : α → DaemonProg β} {post : β → BusGhost → Prop}
    (head : Keeps line g prog) (tail : ∀ value, Safe (busSpec line) post g (f value)) :
    Safe (busSpec line) post g (prog.bind f) := by
  refine Safe.bind head ?_
  rintro value g' rfl
  exact tail value

theorem keeps_pure (value : α) : Keeps line g (pure value) := rfl

theorem ask_bind {operation : DaemonOp} {f : operation.Res → DaemonProg β}
    {post : β → BusGhost → Prop} (allowed : g.Allows line operation)
    (tail : ∀ answer, Safe (busSpec line) post (g.after operation) (f answer)) :
    Safe (busSpec line) post g ((ask operation).bind f) :=
  ⟨allowed, fun answer _ => tail answer⟩

theorem keeps_ask {operation : DaemonOp} (allowed : g.Allows line operation)
    (same : g.after operation = g) : Keeps line g (ask operation) :=
  ⟨allowed, fun _ _ => same⟩

def deeper (g : BusGhost) : BusGhost := { g with depth := g.depth + 1 }

/-- Work between an acquire and its release. -/
theorem locked {body : DaemonProg α} {f : α → DaemonProg β} {post : β → BusGhost → Prop}
    (shallow : g.depth ≤ 1) (sound : g.Sound) (inner : Keeps line (deeper g) body)
    (tail : ∀ value, Safe (busSpec line) post g (f value)) :
    Safe (busSpec line) post g ((ask (.busAcquire line)).bind fun _ =>
      body.bind fun value => (ask (.busRelease line)).bind fun _ => f value) := by
  refine ask_bind ⟨rfl, shallow⟩ fun _ => ?_
  refine Keeps.bind (g := deeper g) inner fun value => ?_
  refine ask_bind ⟨rfl, Nat.succ_pos _, ?_⟩ fun _ => tail value
  intro inside
  have held := sound inside
  simp only [deeper]
  omega

theorem keeps_locked {body : DaemonProg α} (shallow : g.depth ≤ 1) (sound : g.Sound)
    (inner : Keeps line (deeper g) body) :
    Keeps line g ((ask (.busAcquire line)).bind fun _ =>
      body.bind fun value => (ask (.busRelease line)).bind fun _ => pure value) :=
  locked shallow sound inner fun value => keeps_pure value

section Shared

variable {unit : DeviceUnit}

theorem keeps_readDeviceValue (addr count : Reg) (shallow : g.depth ≤ 1) (sound : g.Sound) :
    Keeps (busPath unit) g (readDeviceValue unit addr count) := by
  cases transport : unit.cfg.transport with
  | tcp =>
      have line : busPath unit = none := by simp [busPath, transport]
      rw [readDeviceValue, transport, line]
      exact keeps_ask ⟨rfl, .inl rfl⟩ rfl
  | rtu path baudRate =>
      have line : busPath unit = some path := by simp [busPath, transport]
      rw [readDeviceValue, transport, line]
      exact keeps_locked shallow sound (keeps_ask ⟨rfl, .inr (Nat.succ_pos _)⟩ rfl)

theorem keeps_writeRegistersLocked (addr : Reg) (values : List Reg) (mode : WriteMode)
    (held : 0 < g.depth) : Keeps (busPath unit) g (writeRegistersLocked unit addr values mode) := by
  apply writeRegistersLocked_rule addr values mode
  · exact keeps_pure _
  · exact keeps_ask ⟨rfl, .inr held⟩ rfl
  · exact keeps_ask ⟨rfl, .inr held⟩ rfl

theorem keeps_writeRegistersToDevice (addr : Reg) (values : List Reg) (mode : WriteMode)
    (shallow : g.depth ≤ 1) (sound : g.Sound) :
    Keeps (busPath unit) g (writeRegistersToDevice unit addr values mode) :=
  keeps_locked shallow sound (keeps_writeRegistersLocked addr values mode (Nat.succ_pos _))

theorem keeps_storeRegister (profile : DeviceMapProfile) (devAddr raw : Reg) :
    Keeps line g (storeRegister profile devAddr raw) := by
  unfold storeRegister
  split
  · exact keeps_pure ()
  · split
    · exact keeps_pure ()
    · exact keeps_ask trivial rfl

theorem keeps_storeEach (profile : DeviceMapProfile) (start : Reg) {n : Nat}
    (values : Fin n → Reg) (indices : List (Fin n)) :
    Keeps line g (storeEach profile start values indices) := by
  induction indices with
  | nil => exact keeps_pure ()
  | cons i rest ih =>
      exact Keeps.bind (keeps_storeRegister _ _ _) fun _ => ih

theorem keeps_markCommLoss (table : List DeviceRegisterMapping) :
    Keeps line g (markCommLoss table) := by
  induction table with
  | nil => exact keeps_pure ()
  | cons row rest ih => exact ask_bind trivial fun _ => ih

theorem keeps_scanStep {again : UnitState → DaemonProg (Rc × UnitState)} (trackCommFail : Bool)
    (start count : Reg) (st : UnitState) (shallow : g.depth ≤ 1) (sound : g.Sound)
    (goesOn : ∀ st, Keeps (busPath unit) g (again st)) :
    Keeps (busPath unit) g (scanStep unit trackCommFail start count st again) := by
  refine Keeps.bind (keeps_readDeviceValue _ _ shallow sound) fun result => ?_
  cases result with
  | none =>
      simp only
      split
      · exact keeps_pure _
      · split
        · exact (keeps_markCommLoss _).bind fun _ => keeps_pure _
        · exact goesOn _
  | some values => exact (keeps_storeEach _ _ _ _).bind fun _ => goesOn _

theorem keeps_scanLoop (trackCommFail : Bool) (todo i segStart segLen : Nat) (st : UnitState)
    (shallow : g.depth ≤ 1) (sound : g.Sound) :
    Keeps (busPath unit) g (scanLoop unit trackCommFail todo i segStart segLen st) := by
  apply scanLoop_rule
  · exact fun st => keeps_pure _
  · exact fun start count st again => keeps_scanStep _ start count st shallow sound

theorem keeps_readProfileToPool (trackCommFail : Bool) (st : UnitState) :
    Keeps (busPath unit) .outside (readProfileToPool unit trackCommFail st) := by
  unfold readProfileToPool
  split
  · exact keeps_pure _
  · refine ask_bind ⟨rfl, Nat.zero_le _⟩ fun _ => ?_
    refine ask_bind (Nat.succ_pos _) fun _ => ?_
    refine Keeps.bind (keeps_scanLoop _ _ _ _ _ _ le_rfl fun _ => Nat.succ_pos _) fun result => ?_
    refine ask_bind trivial fun _ => ?_
    exact ask_bind ⟨rfl, Nat.succ_pos _, fun inside => absurd rfl inside⟩ fun _ => keeps_pure _

theorem keeps_drainBody (cmd : WriteCmd) (held : 0 < g.depth) :
    Keeps (busPath unit) g (drainBody unit cmd) := by
  refine (keeps_writeRegistersLocked _ _ _ held).bind fun _ => ?_
  refine ask_bind trivial fun next => ?_
  cases next with
  | none => exact keeps_pure ()
  | some next => exact ⟨⟨rfl, held⟩, fun _ _ left => left⟩

theorem busSpec_verifies : (busSpec line).Verifies daemonCode := by
  rintro ⟨unit, cmd⟩ g ⟨rfl, held⟩
  exact keeps_drainBody cmd held

theorem keeps_drainQueue : Keeps (busPath unit) .outside (drainQueue unit) := by
  refine ask_bind trivial fun cmd => ?_
  cases cmd with
  | none => exact keeps_pure ()
  | some cmd =>
      refine ask_bind ⟨rfl, Nat.zero_le _⟩ fun _ => ?_
      refine ask_bind (Nat.succ_pos _) fun _ => ?_
      refine And.intro ⟨rfl, Nat.succ_pos _⟩ ?_
      rintro _ g' rfl
      refine ask_bind trivial fun _ => ?_
      exact ⟨⟨rfl, Nat.succ_pos _, fun inside => absurd rfl inside⟩, fun _ _ => rfl⟩

theorem keeps_probeDevice (path : CStr) (addr : Reg) (held : 0 < g.depth) :
    Keeps (some path) g (probeDevice path addr) := by
  refine ask_bind ⟨rfl, .inr held⟩ fun result => ?_
  cases result with
  | none => exact keeps_pure _
  | some values => exact keeps_pure _

theorem keeps_probeTable (path : CStr) (held : 0 < g.depth) :
    Keeps (some path) g (probeTable unit path) := by
  unfold probeTable
  split
  · exact keeps_pure _
  · exact keeps_probeDevice path _ held

theorem keeps_unitSetConnection (statusReg : Reg) (st : UnitState) (state : Reg) :
    Keeps line g (unitSetConnection statusReg st state) :=
  ask_bind trivial fun _ => keeps_pure _

theorem keeps_initCallback {unitConnect : DeviceUnit → DaemonProg Rc} {statusReg : Reg}
    {st : UnitState} (connects : Keeps line g (unitConnect unit)) :
    Keeps line g (initCallback unitConnect statusReg unit st) := by
  refine connects.bind fun result => ?_
  cases result with
  | fail => exact keeps_pure _
  | ok => exact (keeps_unitSetConnection _ _ _).bind fun _ => keeps_pure _

theorem keeps_onRequest {exchange : DaemonProg Bool} {st : UnitState}
    {sequence : DaemonProg UnitState} (asks : Keeps line g exchange)
    (runs : Keeps line g sequence) : Keeps line g (onRequest exchange st sequence) := by
  refine asks.bind fun requested => ?_
  split
  · exact runs
  · exact keeps_pure _

theorem keeps_processCallback {runRequests : DeviceUnit → UnitState → DaemonProg UnitState}
    {st : UnitState} (requests : Keeps (busPath unit) .outside (runRequests unit st)) :
    Keeps (busPath unit) .outside (processCallback runRequests unit st) := by
  refine requests.bind fun st => ?_
  refine keeps_drainQueue.bind fun _ => ?_
  split
  · exact keeps_pure _
  · exact keeps_readProfileToPool true st

theorem keeps_errorCallback (statusReg : Reg) (st : UnitState) (state : Reg) :
    Keeps line g (errorCallback statusReg st state) :=
  ask_bind trivial fun _ => keeps_unitSetConnection _ _ _

end Shared

section Inverter

variable {unit : DeviceUnit}

theorem keeps_programEach (writes : List (Reg × Option Reg)) (held : 0 < g.depth) :
    Keeps (busPath unit) g (programEach unit writes) := by
  induction writes with
  | nil => exact keeps_pure ()
  | cons write rest ih =>
      obtain ⟨addr, value⟩ := write
      cases value with
      | none => exact ih
      | some value => exact (keeps_writeRegistersLocked _ _ _ held).bind fun _ => ih

theorem keeps_inverterUnitConnect : Keeps (busPath unit) .outside (inverterUnitConnect unit) := by
  cases transport : unit.cfg.transport with
  | tcp =>
      rw [inverterUnitConnect, transport]
      exact keeps_ask trivial rfl
  | rtu path baudRate =>
      have line : busPath unit = some path := by simp [busPath, transport]
      have programs : Keeps (some path) (deeper .outside) (initInverterReg unit baudRate) :=
        line ▸ keeps_programEach _ (Nat.succ_pos _)
      have released : BusGhost.Allows (some path) (deeper .outside) (.busRelease (some path)) :=
        ⟨rfl, Nat.succ_pos _, fun inside => absurd rfl inside⟩
      rw [inverterUnitConnect, transport, line]
      refine ask_bind trivial fun result => ?_
      cases result with
      | fail => exact keeps_pure _
      | ok =>
          refine ask_bind ⟨rfl, Nat.zero_le _⟩ fun _ => ?_
          have probes : Keeps (some path) (deeper .outside) (probeTable unit path) :=
            keeps_probeTable path (Nat.succ_pos _)
          refine probes.bind fun probed => ?_
          cases probed with
          | fail => exact ask_bind released fun _ => ask_bind trivial fun _ => keeps_pure _
          | ok => exact programs.bind fun _ => ask_bind released fun _ => keeps_pure _

theorem keeps_writeInOrder (writes : List (Reg × Reg)) (held : 0 < g.depth) :
    Keeps (busPath unit) g (writeInOrder unit writes) := by
  induction writes with
  | nil => exact keeps_pure _
  | cons write rest ih =>
      refine (keeps_writeRegistersLocked _ _ _ held).bind fun result => ?_
      cases result with
      | fail => exact keeps_pure _
      | ok => exact ih

theorem keeps_inverterRunInitSequence :
    Keeps (busPath unit) .outside (inverterRunInitSequence unit) := by
  refine ask_bind trivial fun _ => ?_
  refine locked (Nat.zero_le _) (fun inside => absurd rfl inside)
    (keeps_writeInOrder _ (Nat.succ_pos _)) fun written => ?_
  cases written with
  | fail => exact keeps_pure ()
  | ok => exact keeps_ask trivial rfl

theorem keeps_inverterRunRequests (st : UnitState) :
    Keeps (busPath unit) .outside (inverterRunRequests unit st) :=
  keeps_onRequest (keeps_ask trivial rfl)
    (keeps_inverterRunInitSequence.bind fun _ => keeps_pure _)

end Inverter

section Ups

variable {unit : DeviceUnit}

theorem keeps_upsUnitConnect : Keeps (busPath unit) .outside (upsUnitConnect unit) := by
  cases transport : unit.cfg.transport with
  | tcp =>
      rw [upsUnitConnect, transport]
      exact keeps_ask trivial rfl
  | rtu path baudRate =>
      have line : busPath unit = some path := by simp [busPath, transport]
      rw [upsUnitConnect, transport, line]
      refine ask_bind trivial fun result => ?_
      cases result with
      | fail => exact keeps_pure _
      | ok =>
          cases unit.profile.table with
          | nil => exact keeps_pure _
          | cons row rest =>
              refine locked (Nat.zero_le _) (fun inside => absurd rfl inside)
                (keeps_probeDevice path _ (Nat.succ_pos _)) fun probed => ?_
              cases probed with
              | fail => exact ask_bind trivial fun _ => keeps_pure _
              | ok => exact keeps_pure _

theorem keeps_upsRunInitSequence (st : UnitState) :
    Keeps (busPath unit) .outside (upsRunInitSequence unit st) := by
  refine ask_bind trivial fun _ => ?_
  refine (keeps_readProfileToPool false st).bind fun result => ?_
  obtain ⟨rc, st⟩ := result
  cases rc with
  | fail => exact keeps_pure _
  | ok => exact ask_bind trivial fun _ => keeps_pure _

theorem keeps_writeAndVerify (addr : Reg) (values : List Reg) (verifyBit : Reg) :
    Keeps (busPath unit) .outside (writeAndVerify unit addr values verifyBit) := by
  have sound : BusGhost.outside.Sound := fun inside => absurd rfl inside
  refine (keeps_writeRegistersToDevice _ _ _ (Nat.zero_le _) sound).bind fun result => ?_
  cases result with
  | fail => exact keeps_pure _
  | ok =>
      refine (keeps_readDeviceValue _ _ (Nat.zero_le _) sound).bind fun result => ?_
      cases result with
      | none => exact keeps_pure _
      | some readValue =>
          simp only
          split
          · exact keeps_pure _
          · exact keeps_pure _

theorem keeps_upsRunRebootSequence :
    Keeps (busPath unit) .outside (upsRunRebootSequence unit) := by
  refine (keeps_writeAndVerify _ _ _).bind fun result => ?_
  cases result with
  | fail => exact keeps_pure ()
  | ok => exact (keeps_writeAndVerify _ _ _).bind fun _ => keeps_pure ()

theorem keeps_upsRunRequests (st : UnitState) :
    Keeps (busPath unit) .outside (upsRunRequests unit st) := by
  have asksInit : Keeps (busPath unit) .outside (ask .exchangeInit) := keeps_ask trivial rfl
  have asksReboot : Keeps (busPath unit) .outside (ask .exchangeReboot) := keeps_ask trivial rfl
  refine (keeps_onRequest asksInit (keeps_upsRunInitSequence st)).bind fun st => ?_
  exact keeps_onRequest asksReboot (keeps_upsRunRebootSequence.bind fun _ => keeps_pure _)

end Ups

/-- Every callback of both modules returns with the line as it found it: free. -/
theorem keeps_callbacks (kind : DeviceKind) (unit : DeviceUnit) (st : UnitState) (state : Reg) :
    Keeps (busPath unit) .outside ((moduleCallbacks kind).init unit st) ∧
      Keeps (busPath unit) .outside ((moduleCallbacks kind).process unit st) ∧
      Keeps (busPath unit) .outside ((moduleCallbacks kind).error st state) := by
  cases kind with
  | inverter =>
      exact ⟨keeps_initCallback keeps_inverterUnitConnect,
        keeps_processCallback (keeps_inverterRunRequests st), keeps_errorCallback _ _ _⟩
  | ups =>
      exact ⟨keeps_initCallback keeps_upsUnitConnect,
        keeps_processCallback (keeps_upsRunRequests st), keeps_errorCallback _ _ _⟩

end BusProtocol

end Rs485Gateway
