import Rs485Gateway.Daemon.Handlers

/-! The daemon as a system of threads over its shared state. Devices, the serial
lines and the message bus answer as they please. -/

namespace Rs485Gateway

open Interaction

structure Shared where
  bus : BusCoord ThreadId
  pool : Pool
  queue : UnitId → CmdQueue
  initRequested : UnitId → Bool
  rebootRequested : UnitId → Bool

inductive Choice where
  | go
  | stop
  | connected (result : Rc)
  | answer (values : Option (List Reg))
  | wrote (result : Rc)
  | inverterMessage (command : InverterCommand)
  | upsMessage (command : UpsCommand)

inductive UnitPhase where
  | init
  | process
  | error
  | stopped
  deriving DecidableEq

/-- Where a thread rests: a unit between two callbacks, a subscriber between two
messages, the alarm monitor between two passes. -/
inductive Home where
  | unit (phase : UnitPhase) (st : UnitState)
  | subscriber
  | alarmMonitor (states : List (List AlarmState))

def exactly (count : Nat) (values : List Reg) : Option (Fin count → Reg) :=
  if enough : values.length = count then some fun i => values[i.val] else none

def mergeAllowed : DeviceKind → Reg → Bool
  | .inverter => inverterQueueMergeAllowed
  | .ups => upsQueueMergeAllowed

/-- A call of `bus_coord_acquire`, or a look at the slot the thread is parked on. -/
def Shared.busAcquire (s : Shared) (t : ThreadId) (path : Option CStr) :
    Option Unit × Shared :=
  let result := match s.bus.waiting t with
    | none => s.bus.acquire t path
    | some i => s.bus.takeOrWait t i
  (if result.2 = .blocked then none else some (), { s with bus := result.1 })

def perform (t : ThreadId) (choice : Choice) (s : Shared) :
    (operation : DaemonOp) → Option (Option operation.Res × Shared)
  | .message .inverter =>
      match choice with
      | .inverterMessage command => some (some command, s)
      | _ => none
  | .message .ups =>
      match choice with
      | .upsMessage command => some (some command, s)
      | _ => none
  | .mark _ => some (some (), s)
  | .busAcquire path => some (s.busAcquire t path)
  | .busRelease path => some (some (), { s with bus := (s.bus.release t path).1 })
  | .connect =>
      match choice with
      | .connected result => some (some result, s)
      | _ => none
  | .disconnect => some (some (), s)
  | .readHolding _ _ count =>
      match choice with
      | .answer none => some (some none, s)
      | .answer (some values) =>
          (exactly count.toNat values).map fun answer => (some (some answer), s)
      | _ => none
  | .writeSingle _ _ _ =>
      match choice with
      | .wrote result => some (some result, s)
      | _ => none
  | .writeMultiple _ _ _ =>
      match choice with
      | .wrote result => some (some result, s)
      | _ => none
  | .poolStore poolAddress value =>
      some (some (), { s with pool := assign s.pool poolAddress value })
  | .poolWrite poolAddress value =>
      some (some (), { s with pool := (poolWriteRegister s.pool poolAddress value).1 })
  | .poolRead _ poolAddress => some (some (poolReadRegister s.pool poolAddress), s)
  | .exchangeInit =>
      match t with
      | .unit id => some (some (s.initRequested id),
          { s with initRequested := assign s.initRequested id false })
      | _ => none
  | .exchangeReboot =>
      match t with
      | .unit id => some (some (s.rebootRequested id),
          { s with rebootRequested := assign s.rebootRequested id false })
      | _ => none
  | .requestInit target =>
      some (some (), { s with initRequested := assign s.initRequested target true })
  | .requestReboot target =>
      some (some (), { s with rebootRequested := assign s.rebootRequested target true })
  | .queuePop =>
      match t with
      | .unit id =>
          let popped := (s.queue id).pop
          some (some popped.2, { s with queue := assign s.queue id popped.1 })
      | _ => none
  | .queuePush target cmd =>
      let pushed := (s.queue target).push (mergeAllowed target.kind) cmd
      some (some pushed.2, { s with queue := assign s.queue target pushed.1 })
  | .alarmEvent _ _ _ _ => some (some (), s)

section Perform

variable {t : ThreadId} {choice : Choice} {s s' : Shared} {operation : DaemonOp}

/-- Only the two bus calls touch the bus table, and only an acquire blocks. -/
theorem perform_bus {result : Option operation.Res}
    (performed : perform t choice s operation = some (result, s'))
    (acquires : ∀ path, operation ≠ .busAcquire path)
    (releases : ∀ path, operation ≠ .busRelease path) :
    (∃ answer, result = some answer) ∧ s'.bus = s.bus := by
  cases operation with
  | busAcquire path => exact absurd rfl (acquires path)
  | busRelease path => exact absurd rfl (releases path)
  | message kind =>
      cases kind <;> cases choice <;> simp [perform] at performed <;>
        obtain ⟨rfl, rfl⟩ := performed <;> exact ⟨⟨_, rfl⟩, rfl⟩
  | readHolding line addr count =>
      cases choice with
      | answer values =>
          cases values with
          | none =>
              simp only [perform, Option.some.injEq, Prod.mk.injEq] at performed
              obtain ⟨rfl, rfl⟩ := performed
              exact ⟨⟨_, rfl⟩, rfl⟩
          | some values =>
              obtain ⟨answer, _, pair⟩ := Option.map_eq_some_iff.mp performed
              cases pair
              exact ⟨⟨_, rfl⟩, rfl⟩
      | _ => simp [perform] at performed
  | connect =>
      cases choice <;> simp [perform] at performed
      obtain ⟨rfl, rfl⟩ := performed
      exact ⟨⟨_, rfl⟩, rfl⟩
  | writeSingle line addr value =>
      cases choice <;> simp [perform] at performed
      obtain ⟨rfl, rfl⟩ := performed
      exact ⟨⟨_, rfl⟩, rfl⟩
  | writeMultiple line addr values =>
      cases choice <;> simp [perform] at performed
      obtain ⟨rfl, rfl⟩ := performed
      exact ⟨⟨_, rfl⟩, rfl⟩
  | exchangeInit =>
      cases t <;> simp [perform] at performed
      obtain ⟨rfl, rfl⟩ := performed
      exact ⟨⟨_, rfl⟩, rfl⟩
  | exchangeReboot =>
      cases t <;> simp [perform] at performed
      obtain ⟨rfl, rfl⟩ := performed
      exact ⟨⟨_, rfl⟩, rfl⟩
  | queuePop =>
      cases t <;> simp [perform] at performed
      obtain ⟨rfl, rfl⟩ := performed
      exact ⟨⟨_, rfl⟩, rfl⟩
  | _ =>
      simp only [perform, Option.some.injEq, Prod.mk.injEq] at performed
      obtain ⟨rfl, rfl⟩ := performed
      exact ⟨⟨_, rfl⟩, rfl⟩

end Perform

def afterInit : Rc × UnitState → Home
  | (.ok, st) => .unit .process st
  | (.fail, st) => .unit .init st

def afterProcess : Rc × UnitState → Home
  | (.ok, st) => .unit .process st
  | (.fail, st) => .unit .error st

/-- `inverter_thread` and `ups_thread`: which callback runs next. A cleared
`running` flag is seen between callbacks only. -/
def unitThread (kind : DeviceKind) (unit : DeviceUnit) (choice : Choice) (phase : UnitPhase)
    (st : UnitState) : Option (DaemonProg Home) :=
  let callbacks := moduleCallbacks kind
  match phase, choice with
  | .init, .go => some ((callbacks.init unit st).bind fun result => pure (afterInit result))
  | .process, .go =>
      some ((callbacks.process unit st).bind fun result => pure (afterProcess result))
  | .error, .go =>
      some ((callbacks.error st connectionDisconnected).bind fun st => pure (.unit .init st))
  | .init, .stop => some (unitDisconnect.bind fun _ => pure (.unit .stopped st))
  | .process, .stop => some (unitDisconnect.bind fun _ => pure (.unit .stopped st))
  | _, _ => none

inductive UnitStarts (kind : DeviceKind) (unit : DeviceUnit) (st : UnitState) :
    UnitPhase → DaemonProg Home → Prop
  | init : UnitStarts kind unit st .init
      (((moduleCallbacks kind).init unit st).bind fun result => pure (afterInit result))
  | process : UnitStarts kind unit st .process
      (((moduleCallbacks kind).process unit st).bind fun result => pure (afterProcess result))
  | error : UnitStarts kind unit st .error
      (((moduleCallbacks kind).error st connectionDisconnected).bind
        fun st => pure (.unit .init st))
  | stop {phase : UnitPhase} (calm : phase ≠ .error) : UnitStarts kind unit st phase
      (unitDisconnect.bind fun _ => pure (.unit .stopped st))

theorem unitThread_cases {kind : DeviceKind} {unit : DeviceUnit} {choice : Choice}
    {phase : UnitPhase} {st : UnitState} {prog : DaemonProg Home}
    (resumed : unitThread kind unit choice phase st = some prog) :
    UnitStarts kind unit st phase prog := by
  cases phase <;> cases choice <;> simp only [unitThread, reduceCtorEq] at resumed <;>
    cases resumed
  · exact .init
  · exact .stop (by simp)
  · exact .process
  · exact .stop (by simp)
  · exact .error

abbrev DaemonConfig := Config daemonSig ThreadId Shared Home

abbrev History := List (ThreadId × DaemonEvent)

namespace Daemon

def resume (daemon : Daemon) (t : ThreadId) (choice : Choice) (home : Home) :
    Option (DaemonProg Home) :=
  match t, home with
  | .unit id, .unit phase st =>
      (daemon.unit? id).bind fun unit => unitThread id.kind unit choice phase st
  | .subscriber kind, .subscriber =>
      some ((daemon.handleMessage kind).bind fun _ => pure .subscriber)
  | .alarmMonitor, .alarmMonitor states =>
      some ((daemon.alarmPass states).bind fun states => pure (.alarmMonitor states))
  | _, _ => none

inductive Resumed (daemon : Daemon) : ThreadId → Home → DaemonProg Home → Prop
  | unit {id : UnitId} {unit : DeviceUnit} {phase : UnitPhase} {st : UnitState}
      {prog : DaemonProg Home} (present : daemon.unit? id = some unit)
      (starts : UnitStarts id.kind unit st phase prog) :
      Resumed daemon (.unit id) (.unit phase st) prog
  | message (kind : DeviceKind) : Resumed daemon (.subscriber kind) .subscriber
      ((daemon.handleMessage kind).bind fun _ => pure .subscriber)
  | pass (states : List (List AlarmState)) : Resumed daemon .alarmMonitor (.alarmMonitor states)
      ((daemon.alarmPass states).bind fun states => pure (.alarmMonitor states))

theorem resume_cases {daemon : Daemon} {t : ThreadId} {choice : Choice} {home : Home}
    {prog : DaemonProg Home} (resumed : daemon.resume t choice home = some prog) :
    daemon.Resumed t home prog := by
  cases t with
  | unit id =>
      cases home with
      | unit phase st =>
          obtain ⟨unit, present, started⟩ := Option.bind_eq_some_iff.mp resumed
          exact .unit present (unitThread_cases started)
      | _ => simp [resume] at resumed
  | subscriber kind =>
      cases home with
      | subscriber =>
          cases resumed
          exact .message kind
      | _ => simp [resume] at resumed
  | alarmMonitor =>
      cases home with
      | alarmMonitor states =>
          cases resumed
          exact .pass states
      | _ => simp [resume] at resumed

def system (daemon : Daemon) : System daemonSig ThreadId Shared Choice Home where
  code := daemonCode
  perform := fun t operation choice s => perform t choice s operation
  resume := daemon.resume

def homeInit (daemon : Daemon) : ThreadId → Home
  | .unit _ => .unit .init { commFailCount := 0, connectionState := connectionDisconnected }
  | .subscriber _ => .subscriber
  | .alarmMonitor => .alarmMonitor daemon.alarmStatesInit

def start (daemon : Daemon) : Config daemonSig ThreadId Shared Home where
  shared :=
    { bus := busCoordInit, pool := fun _ => 0, queue := fun _ => queueInit,
      initRequested := fun _ => false, rebootRequested := fun _ => false }
  control := fun t => .ret (daemon.homeInit t)
  history := []

def Reachable (daemon : Daemon) (c : Config daemonSig ThreadId Shared Home) : Prop :=
  daemon.system.Reaches daemon.start c

end Daemon

end Rs485Gateway
