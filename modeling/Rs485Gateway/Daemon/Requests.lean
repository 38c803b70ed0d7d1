import Rs485Gateway.Daemon.StoredReads
import Rs485Gateway.Interaction.Guarantee

namespace Rs485Gateway

open Interaction

structure Requests where
  queue : UnitId → CmdQueue
  initRequested : UnitId → Bool
  rebootRequested : UnitId → Bool

def noRequests : Requests where
  queue := fun _ => queueInit
  initRequested := fun _ => false
  rebootRequested := fun _ => false

def Shared.requests (s : Shared) : Requests := ⟨s.queue, s.initRequested, s.rebootRequested⟩

def requestStep (t : ThreadId) (r : Requests) : DaemonOp → Requests
  | .queuePush target cmd =>
      { r with queue := assign r.queue target
                 ((r.queue target).push (mergeAllowed target.kind) cmd).1 }
  | .queuePop =>
      match t with
      | .unit id => { r with queue := assign r.queue id (r.queue id).pop.1 }
      | _ => r
  | .requestInit target => { r with initRequested := assign r.initRequested target true }
  | .requestReboot target => { r with rebootRequested := assign r.rebootRequested target true }
  | .exchangeInit =>
      match t with
      | .unit id => { r with initRequested := assign r.initRequested id false }
      | _ => r
  | .exchangeReboot =>
      match t with
      | .unit id => { r with rebootRequested := assign r.rebootRequested id false }
      | _ => r
  | _ => r

def requestAnswered (t : ThreadId) (r : Requests) : DaemonEvent → Prop
  | ⟨.queuePush target cmd, accepted⟩ =>
      accepted = ((r.queue target).push (mergeAllowed target.kind) cmd).2
  | ⟨.queuePop, popped⟩ => ∀ id, t = .unit id → popped = (r.queue id).pop.2
  | ⟨.exchangeInit, requested⟩ => ∀ id, t = .unit id → requested = r.initRequested id
  | ⟨.exchangeReboot, requested⟩ => ∀ id, t = .unit id → requested = r.rebootRequested id
  | _ => True

def requestsOf : History → Requests
  | [] => noRequests
  | (t, event) :: older => requestStep t (requestsOf older) event.1

def RequestsAnswered : History → Prop
  | [] => True
  | (t, event) :: older => requestAnswered t (requestsOf older) event ∧ RequestsAnswered older

section Perform

variable {t : ThreadId} {choice : Choice} {s s' : Shared} {operation : DaemonOp}

theorem perform_requests {result : Option operation.Res}
    (performed : perform t choice s operation = some (result, s')) :
    s'.requests = requestStep t s.requests operation ∧
      ∀ answer, result = some answer → requestAnswered t s.requests ⟨operation, answer⟩ := by
  cases operation with
  | message kind =>
      cases kind <;> cases choice <;> simp [perform] at performed <;>
        obtain ⟨rfl, rfl⟩ := performed <;> exact ⟨rfl, fun _ _ => trivial⟩
  | readHolding line addr count =>
      cases choice with
      | answer values =>
          cases values with
          | none =>
              simp only [perform, Option.some.injEq, Prod.mk.injEq] at performed
              obtain ⟨rfl, rfl⟩ := performed
              exact ⟨rfl, fun _ _ => trivial⟩
          | some values =>
              obtain ⟨answer, _, pair⟩ := Option.map_eq_some_iff.mp performed
              cases pair
              exact ⟨rfl, fun _ _ => trivial⟩
      | _ => simp [perform] at performed
  | connect =>
      cases choice <;> simp [perform] at performed
      obtain ⟨rfl, rfl⟩ := performed
      exact ⟨rfl, fun _ _ => trivial⟩
  | writeSingle line addr value =>
      cases choice <;> simp [perform] at performed
      obtain ⟨rfl, rfl⟩ := performed
      exact ⟨rfl, fun _ _ => trivial⟩
  | writeMultiple line addr values =>
      cases choice <;> simp [perform] at performed
      obtain ⟨rfl, rfl⟩ := performed
      exact ⟨rfl, fun _ _ => trivial⟩
  | busAcquire path =>
      simp only [perform, Option.some.injEq, Prod.ext_iff] at performed
      rw [← performed.2]
      exact ⟨rfl, fun _ _ => trivial⟩
  | queuePush target cmd =>
      simp only [perform, Option.some.injEq, Prod.mk.injEq] at performed
      obtain ⟨rfl, rfl⟩ := performed
      exact ⟨rfl, fun _ same => (Option.some.inj same).symm⟩
  | queuePop =>
      cases t with
      | unit id =>
          simp only [perform, Option.some.injEq, Prod.mk.injEq] at performed
          obtain ⟨rfl, rfl⟩ := performed
          refine ⟨rfl, ?_⟩
          rintro _ ⟨⟩ _ ⟨⟩
          rfl
      | _ => simp [perform] at performed
  | exchangeInit =>
      cases t with
      | unit id =>
          simp only [perform, Option.some.injEq, Prod.mk.injEq] at performed
          obtain ⟨rfl, rfl⟩ := performed
          refine ⟨rfl, ?_⟩
          rintro _ ⟨⟩ _ ⟨⟩
          rfl
      | _ => simp [perform] at performed
  | exchangeReboot =>
      cases t with
      | unit id =>
          simp only [perform, Option.some.injEq, Prod.mk.injEq] at performed
          obtain ⟨rfl, rfl⟩ := performed
          refine ⟨rfl, ?_⟩
          rintro _ ⟨⟩ _ ⟨⟩
          rfl
      | _ => simp [perform] at performed
  | _ =>
      simp only [perform, Option.some.injEq, Prod.mk.injEq] at performed
      obtain ⟨rfl, rfl⟩ := performed
      exact ⟨rfl, fun _ _ => trivial⟩

theorem perform_blocked (performed : perform t choice s operation = some (none, s')) :
    s'.requests = s.requests := by
  have stepped := (perform_requests performed).1
  by_cases acquires : ∃ path, operation = .busAcquire path
  · rcases acquires with ⟨path, rfl⟩
    exact stepped
  · by_cases releases : ∃ path, operation = .busRelease path
    · rcases releases with ⟨path, rfl⟩
      exact stepped
    · rcases perform_bus performed (fun path same => acquires ⟨path, same⟩)
        fun path same => releases ⟨path, same⟩ with ⟨⟨answer, impossible⟩, _⟩
      cases impossible

end Perform

section Reachable

variable {daemon : Daemon} {c c' : DaemonConfig}

/-- The step lemma: a completed operation is a request step, every other step is none. -/
theorem RequestsTracked.step {t : ThreadId} {choice : Choice}
    (moved : daemon.system.Step c t choice c')
    (tracked : c.shared.requests = requestsOf c.history ∧ RequestsAnswered c.history) :
    c'.shared.requests = requestsOf c'.history ∧ RequestsAnswered c'.history := by
  rcases tracked with ⟨requests, answered⟩
  cases moved with
  | resume => exact ⟨requests, answered⟩
  | enter => exact ⟨requests, answered⟩
  | block atOp performed => exact ⟨(perform_blocked performed).trans requests, answered⟩
  | @complete operation next answer shared atOp performed =>
      rcases perform_requests performed with ⟨stepped, fitting⟩
      rw [requests] at stepped fitting
      exact ⟨stepped, fitting answer rfl, answered⟩

/-- What a completed operation does to the queue of a unit. -/
inductive QueueStep (id : UnitId) (t : ThreadId) (q : CmdQueue) : DaemonOp → CmdQueue → Prop
  | push (cmd : WriteCmd) :
      QueueStep id t q (.queuePush id cmd) (q.push (mergeAllowed id.kind) cmd).1
  | pop (own : t = .unit id) : QueueStep id t q .queuePop q.pop.1
  | other {operation : DaemonOp} (pushes : ∀ cmd, operation ≠ .queuePush id cmd)
      (pops : t = .unit id → operation ≠ .queuePop) : QueueStep id t q operation q

theorem requestStep_queue (id : UnitId) (t : ThreadId) (r : Requests) (operation : DaemonOp) :
    QueueStep id t (r.queue id) operation ((requestStep t r operation).queue id) := by
  cases operation with
  | queuePush target cmd =>
      by_cases here : target = id
      · subst here
        simp only [requestStep, assign_self]
        exact .push cmd
      · simp only [requestStep, assign_other _ _ (Ne.symm here)]
        exact .other (fun _ same => here (by cases same; rfl)) (by simp)
  | queuePop =>
      cases t with
      | unit u =>
          by_cases own : u = id
          · subst own
            simp only [requestStep, assign_self]
            exact .pop rfl
          · simp only [requestStep, assign_other _ _ (Ne.symm own)]
            exact .other (by simp) fun same => absurd (ThreadId.unit.inj same) own
      | _ => exact .other (by simp) (by simp)
  | exchangeInit => cases t <;> exact .other (by simp) (by simp)
  | exchangeReboot => cases t <;> exact .other (by simp) (by simp)
  | _ => exact .other (by simp) (by simp)

inductive RebootFlagStep (id : UnitId) (t : ThreadId) (flag : Bool) : DaemonOp → Bool → Prop
  | raise : RebootFlagStep id t flag (.requestReboot id) true
  | take (own : t = .unit id) : RebootFlagStep id t flag .exchangeReboot false
  | other {operation : DaemonOp} (raises : operation ≠ .requestReboot id)
      (takes : t = .unit id → operation ≠ .exchangeReboot) :
      RebootFlagStep id t flag operation flag

theorem requestStep_reboot (id : UnitId) (t : ThreadId) (r : Requests) (operation : DaemonOp) :
    RebootFlagStep id t (r.rebootRequested id) operation
      ((requestStep t r operation).rebootRequested id) := by
  cases operation with
  | requestReboot target =>
      by_cases here : target = id
      · subst here
        simp only [requestStep, assign_self]
        exact .raise
      · simp only [requestStep, assign_other _ _ (Ne.symm here)]
        exact .other (by simpa using here) (by simp)
  | exchangeReboot =>
      cases t with
      | unit u =>
          by_cases own : u = id
          · subst own
            simp only [requestStep, assign_self]
            exact .take rfl
          · simp only [requestStep, assign_other _ _ (Ne.symm own)]
            exact .other (by simp) fun same => absurd (ThreadId.unit.inj same) own
      | _ => exact .other (by simp) (by simp)
  | exchangeInit => cases t <;> exact .other (by simp) (by simp)
  | queuePop => cases t <;> exact .other (by simp) (by simp)
  | _ => exact .other (by simp) (by simp)

theorem reachable_requests (reached : daemon.Reachable c) :
    c.shared.requests = requestsOf c.history ∧ RequestsAnswered c.history :=
  System.Reaches.induct ⟨rfl, trivial⟩
    (fun _ _ _ _ _ tracked moved => RequestsTracked.step moved tracked) reached

end Reachable

def anyFootprint : Footprint where
  marks := fun _ => True
  reads := fun _ _ => True
  writes := fun _ _ => True
  stores := fun _ => True

theorem stays_unitStarts {kind : DeviceKind} {unit : DeviceUnit} {st : UnitState}
    {phase : UnitPhase} {prog : DaemonProg Home} (starts : UnitStarts kind unit st phase prog) :
    Footprint.Stays anyFootprint prog := by
  have scans (track : Bool) : anyFootprint.Scans unit track :=
    ⟨⟨fun _ _ => trivial, fun _ _ _ => trivial, fun _ _ _ => trivial⟩, trivial, trivial⟩
  cases starts with
  | init =>
      rw [moduleCallbacks_init]
      apply Footprint.Stays.bind _ fun _ => Footprint.stays_pure _
      apply Footprint.stays_initCallback _ trivial
      cases kind with
      | inverter => exact Footprint.stays_inverterUnitConnect fun _ => trivial
      | ups => exact Footprint.stays_upsUnitConnect fun _ => trivial
  | process =>
      rw [moduleCallbacks_process]
      apply Footprint.Stays.bind _ fun _ => Footprint.stays_pure _
      apply Footprint.Stays.bind (Footprint.stays_runRequests (fun _ => trivial) (scans false))
      intro st
      apply Footprint.Stays.bind (Footprint.stays_drainQueue trivial trivial)
      intro _
      split
      · exact Footprint.stays_pure _
      · exact Footprint.stays_readProfileToPool (scans true) st
  | error =>
      rw [moduleCallbacks_error]
      exact (Footprint.stays_errorCallback trivial).bind fun _ => Footprint.stays_pure _
  | stop => exact Footprint.ask_bind trivial fun _ => Footprint.stays_pure _

namespace Daemon

section Subscribers

variable {daemon : Daemon} {allowed : DaemonOp → Prop}

theorem inverterDispatch_uses (reads : ∀ slot, allowed (.poolRead .handler slot))
    (inits : ∀ index, allowed (.requestInit ⟨.inverter, index⟩))
    (pushes : ∀ index addr val, allowed (.queuePush ⟨.inverter, index⟩ ⟨addr, [val], .auto⟩))
    (command : InverterCommand) :
    Uses allowed (fun _ => False) (daemon.inverterDispatch command) := by
  cases command with
  | operation value =>
      simp only [inverterDispatch, onOperationCmd]
      split
      · trivial
      · exact (onWrite_uses fun index => pushes index _ _).bind fun _ => trivial
  | frequencyWrite value =>
      simp only [inverterDispatch, onFrequencyWriteCmd]
      split
      · trivial
      · split
        · exact queueFrequency_uses (fun index => pushes index _ _) fun index => pushes index _ _
        · exact queueFrequency_uses (fun index => pushes index _ _) fun index => pushes index _ _
  | faultControl value =>
      simp only [inverterDispatch, onFaultControlCmd]
      split
      · trivial
      · exact (onWrite_uses fun index => pushes index _ _).bind fun _ => trivial
  | mainPump dutyVal =>
      refine ⟨reads _, fun _ => ⟨reads _, fun _ => ?_⟩⟩
      simp only [Prog.pure_eq, Prog.ret_bind]
      split
      · trivial
      · split
        · exact queueFrequency_uses (fun index => pushes index _ _) fun index => pushes index _ _
        · exact queueFrequency_uses (fun index => pushes index _ _) fun index => pushes index _ _
  | initInverter value =>
      exact onRequestCmd_uses .inverter fun _ index => ⟨inits index, fun _ => trivial⟩
  | bypass value =>
      simp only [inverterDispatch, onBypassCmd]
      split
      · trivial
      · exact (onWrite_uses fun index => pushes index _ _).bind fun _ => trivial

theorem upsDispatch_uses (inits : ∀ index, allowed (.requestInit ⟨.ups, index⟩))
    (reboots : ∀ index, allowed (.requestReboot ⟨.ups, index⟩)) (command : UpsCommand) :
    Uses allowed (fun _ => False) (daemon.upsDispatch command) := by
  cases command with
  | initUps value => exact onRequestCmd_uses .ups fun _ index => uses_ask (inits index)
  | rebootUps value => exact onRequestCmd_uses .ups fun _ index => uses_ask (reboots index)

structure ThreadAllows (daemon : Daemon) (t : ThreadId) (allowed : DaemonOp → Prop) : Prop where
  units : ∀ operation, anyFootprint.allows operation → allowed operation
  passes : ∀ operation, watches operation → allowed operation
  messages : ∀ kind, allowed (.message kind)
  inverter : t = .subscriber .inverter →
    ∀ command, Uses allowed (fun _ => False) (daemon.inverterDispatch command)
  ups : t = .subscriber .ups →
    ∀ command, Uses allowed (fun _ => False) (daemon.upsDispatch command)

theorem Resumed.uses {t : ThreadId} {home : Home} {prog : DaemonProg Home}
    (room : ThreadAllows daemon t allowed) (resumed : daemon.Resumed t home prog) :
    Uses allowed (fun _ => True) prog := by
  cases resumed with
  | unit present starts => exact (stays_unitStarts starts).mono room.units
  | message kind =>
      cases kind with
      | inverter =>
          exact ⟨room.messages _, fun command =>
            (room.inverter rfl command).anywhere.bind fun _ => trivial⟩
      | ups =>
          exact ⟨room.messages _, fun command =>
            (room.ups rfl command).anywhere.bind fun _ => trivial⟩
  | pass states =>
      exact ((alarmPass_watches states).mono room.passes).anywhere.bind fun _ => trivial

/-- Every operation a thread completed is one it may ask for. -/
theorem Reachable.uses {c : DaemonConfig} {t : ThreadId} (reached : daemon.Reachable c)
    (room : ThreadAllows daemon t allowed) :
    ∀ event, (t, event) ∈ c.history → allowed event.1 := by
  intro event member
  rcases List.append_of_mem member with ⟨newer, older, split⟩
  rcases event with ⟨operation, answer⟩
  have bodies (loop : DaemonLoop) : Uses allowed (fun _ => True) (daemonCode loop) :=
    Uses.mono (Footprint.stays_code loop) room.units
  exact System.Reaches.uses bodies (fun _ _ _ resumed => (resume_cases resumed).uses room) rfl rfl
    reached split

end Subscribers

end Daemon

end Rs485Gateway
