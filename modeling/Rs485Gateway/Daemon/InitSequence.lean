import Rs485Gateway.Daemon.Callbacks
import Rs485Gateway.Daemon.Registers

namespace Rs485Gateway

open Interaction Rs485Gateway.Lists

structure CommandInputs where
  queue : CmdQueue
  initRequested : Bool

/-- A call from the bridge, or an operation of the unit thread. -/
inductive Moment where
  | push (cmd : WriteCmd)
  | request
  | unit (event : DaemonEvent)

def takesInput : DaemonOp → Bool
  | .exchangeInit | .queuePop => true
  | _ => false

inductive Serves : CommandInputs → Moment → CommandInputs → Prop
  | push {inputs : CommandInputs} {cmd : WriteCmd}
      (accepted : (inputs.queue.push inverterQueueMergeAllowed cmd).2 = true) :
      Serves inputs (.push cmd)
        { inputs with queue := (inputs.queue.push inverterQueueMergeAllowed cmd).1 }
  | request {inputs : CommandInputs} :
      Serves inputs .request { inputs with initRequested := true }
  | exchange {inputs : CommandInputs} :
      Serves inputs (.unit ⟨.exchangeInit, inputs.initRequested⟩)
        { inputs with initRequested := false }
  | pop {inputs : CommandInputs} :
      Serves inputs (.unit ⟨.queuePop, inputs.queue.pop.2⟩)
        { inputs with queue := inputs.queue.pop.1 }
  | other {inputs : CommandInputs} {event : DaemonEvent} (apart : takesInput event.1 = false) :
      Serves inputs (.unit event) inputs

/-- Calls and unit operations in the order they took effect. -/
inductive Timeline : CommandInputs → List Moment → CommandInputs → Prop
  | nil (inputs : CommandInputs) : Timeline inputs [] inputs
  | cons {first middle last : CommandInputs} {moment : Moment} {rest : List Moment}
      (served : Serves first moment middle) (later : Timeline middle rest last) :
      Timeline first (moment :: rest) last

def unitEvents (moments : List Moment) : List DaemonEvent :=
  moments.filterMap fun moment =>
    match moment with
    | .unit event => some event
    | _ => none

def NoPush (moments : List Moment) : Prop := ∀ cmd, Moment.push cmd ∉ moments

def noInputs : CommandInputs := ⟨queueInit, false⟩

/-- The commands the queue handed out, in order, and the answer `none` where it was empty. -/
def popAnswers (events : List DaemonEvent) : List (Option WriteCmd) :=
  events.filterMap fun event =>
    match event with
    | ⟨.queuePop, answer⟩ => some answer
    | _ => none

@[simp] theorem popAnswers_append (first second : List DaemonEvent) :
    popAnswers (first ++ second) = popAnswers first ++ popAnswers second :=
  List.filterMap_append

theorem popAnswers_none {events : List DaemonEvent}
    (apart : ∀ event ∈ events, takesInput event.1 = false) : popAnswers events = [] := by
  apply List.filterMap_eq_nil_iff.mpr
  rintro ⟨operation, answer⟩ member
  have here := apart _ member
  cases operation <;> simp [takesInput] at here ⊢

theorem Serves.wellFormed {first last : CommandInputs} {moment : Moment}
    (served : Serves first moment last) (wellFormed : first.queue.WellFormed) :
    last.queue.WellFormed := by
  cases served with
  | push accepted => exact (CmdQueue.push_refines _ _ wellFormed).1
  | pop => exact (CmdQueue.pop_refines wellFormed).1
  | _ => exact wellFormed

theorem Timeline.wellFormed {first last : CommandInputs} {moments : List Moment}
    (timeline : Timeline first moments last) (wellFormed : first.queue.WellFormed) :
    last.queue.WellFormed := by
  induction timeline with
  | nil => exact wellFormed
  | cons served later ih => exact ih (served.wellFormed wellFormed)

theorem Timeline.suffix {first last : CommandInputs} {moments : List Moment}
    (timeline : Timeline first moments last) (wellFormed : first.queue.WellFormed)
    (quiet : NoPush moments) : last.queue.pending <:+ first.queue.pending := by
  induction timeline with
  | nil => exact List.suffix_rfl
  | cons served later ih =>
      have rest := ih (served.wellFormed wellFormed) fun cmd member =>
        quiet cmd (List.mem_cons_of_mem _ member)
      cases served with
      | push accepted => exact absurd List.mem_cons_self (quiet _)
      | pop =>
          have popped := (CmdQueue.pop_refines wellFormed).2.2
          simp only [popped] at rest
          exact rest.trans (List.tail_suffix _)
      | _ => exact rest

theorem popAnswers_skip {event : DaemonEvent} {events : List DaemonEvent}
    (apart : takesInput event.1 = false) : popAnswers (event :: events) = popAnswers events := by
  have alone : popAnswers [event] = [] := popAnswers_none (by simpa using apart)
  have split := popAnswers_append [event] events
  rw [alone] at split
  exact split

/-- Without pushes the pops are answered by the pending commands, one after the other. -/
theorem Timeline.answers {first last : CommandInputs} {moments : List Moment}
    (timeline : Timeline first moments last) (wellFormed : first.queue.WellFormed)
    (quiet : NoPush moments) (k : Nat) (bound : k < (popAnswers (unitEvents moments)).length) :
    (popAnswers (unitEvents moments))[k]? = some first.queue.pending[k]? := by
  induction timeline generalizing k with
  | nil => cases bound
  | @cons first middle last moment rest served later ih =>
      have next := ih (served.wellFormed wellFormed) fun cmd member =>
        quiet cmd (List.mem_cons_of_mem _ member)
      cases served with
      | push accepted => exact absurd List.mem_cons_self (quiet _)
      | request => exact next k bound
      | exchange => exact next k bound
      | pop =>
          obtain ⟨_, head, popped⟩ := CmdQueue.pop_refines wellFormed
          change (first.queue.pop.2 :: popAnswers (unitEvents rest))[k]? = _
          cases k with
          | zero => rw [List.getElem?_cons_zero, head, List.head?_eq_getElem?]
          | succ k =>
              have within : k < (popAnswers (unitEvents rest)).length :=
                Nat.lt_of_succ_lt_succ bound
              rw [List.getElem?_cons_succ, next k within, popped, List.getElem?_tail]
      | @other event apart =>
          have skipped : popAnswers (unitEvents (.unit event :: rest)) =
              popAnswers (unitEvents rest) := popAnswers_skip apart
          rw [skipped] at bound ⊢
          exact next k bound

theorem Timeline.drained {first last : CommandInputs} {moments : List Moment}
    {cmds : List WriteCmd} (timeline : Timeline first moments last)
    (wellFormed : first.queue.WellFormed) (quiet : NoPush moments)
    (emptied : popAnswers (unitEvents moments) = cmds.map some ++ [none]) :
    first.queue.pending = cmds := by
  have answers := timeline.answers wellFormed quiet
  rw [emptied] at answers
  have ended : first.queue.pending[cmds.length]? = none := by
    have last := answers cmds.length (by simp)
    simpa [eq_comm] using last
  apply List.ext_getElem?
  intro k
  by_cases inside : k < cmds.length
  · have here := answers k (by simp; omega)
    rw [List.getElem?_append_left (by simpa using inside), List.getElem?_map,
      List.getElem?_eq_getElem inside] at here
    rw [List.getElem?_eq_getElem inside]
    exact (Option.some.inj here).symm
  · have short := List.getElem?_eq_none_iff.mp ended
    rw [List.getElem?_eq_none (by omega), List.getElem?_eq_none (by omega)]

section Drain

variable {unit : DeviceUnit} {cmd : WriteCmd} {events : List DaemonEvent}

theorem writeRegistersLocked_answers {result : Rc}
    (run : DaemonRuns (writeRegistersLocked unit cmd.addr cmd.values cmd.mode) events result) :
    popAnswers events = [] := by
  rcases writeRegistersLocked_cases run with ⟨rfl, -⟩ | ⟨rfl, -⟩ | ⟨rfl, -⟩ <;> rfl

/-- The commands a run of the drain took, and what it sent for them. -/
def Drains (events : List DaemonEvent) (inHand : List WriteCmd) : Prop :=
  ∃ cmds, popAnswers events = cmds.map some ++ [none] ∧
    (WritesOk events → sentWrites events = (inHand ++ cmds).flatMap WriteCmd.sent)

theorem enterDrain_drains (run : DaemonRuns (enterDrain unit cmd) events ()) :
    Drains events [cmd] := by
  generalize size : events.length = n
  induction n using Nat.strong_induction_on generalizing cmd events with
  | _ n ih =>
      have body := Runs.call_inv run
      rw [Prog.bind_ret] at body
      obtain ⟨written, rc, asked, rfl, writing, rest⟩ := Runs.bind_inv body
      obtain ⟨answer, tail, rfl, goesOn⟩ := ask_bind_runs rest
      have quiet := writeRegistersLocked_answers writing
      cases answer with
      | none =>
          obtain ⟨rfl, -⟩ := Runs.ret_inv goesOn
          refine ⟨[], by rw [popAnswers_append, quiet]; rfl, fun worked => ?_⟩
          rw [sentWrites_append, writeRegistersLocked_sends writing worked.left]
          simp [sentBy]
      | some next =>
          have shorter : tail.length < n := by
            rw [← size, List.length_append, List.length_cons]
            omega
          obtain ⟨cmds, answers, sends⟩ := ih tail.length shorter goesOn rfl
          refine ⟨next :: cmds, ?_, fun worked => ?_⟩
          · rw [popAnswers_append, quiet]
            exact congrArg (some next :: ·) answers
          · have later : WritesOk tail := fun event member =>
              worked event (List.mem_append_right _ (List.mem_cons_of_mem _ member))
            rw [sentWrites_append, writeRegistersLocked_sends writing worked.left,
              sentWrites_cons, sends later]
            simp [sentBy]

theorem drainQueue_drains (run : DaemonRuns (drainQueue unit) events ()) : Drains events [] := by
  obtain ⟨answer, tail, rfl, goesOn⟩ := ask_bind_runs run
  cases answer with
  | none =>
      obtain ⟨rfl, -⟩ := Runs.ret_inv goesOn
      exact ⟨[], rfl, fun _ => rfl⟩
  | some cmd =>
      obtain ⟨_, _, rfl, acquired⟩ := ask_bind_runs goesOn
      obtain ⟨_, _, rfl, marked⟩ := ask_bind_runs acquired
      obtain ⟨looped, _, _, rfl, looping, left⟩ := Runs.bind_inv marked
      obtain ⟨_, _, rfl, released⟩ := ask_bind_runs left
      obtain rfl := ask_runs released
      obtain ⟨cmds, answers, sends⟩ := enterDrain_drains looping
      refine ⟨cmd :: cmds, ?_, fun worked => ?_⟩
      · have inner : popAnswers (looped ++ [⟨.mark .leave, ()⟩, ⟨.busRelease (busPath unit), ()⟩]) =
            cmds.map some ++ [none] := by
          rw [popAnswers_append, answers]
          exact List.append_nil _
        exact congrArg (some cmd :: ·) inner
      · have loopOk : WritesOk looped := fun event member => worked event (by simp [member])
        simp [sentBy, sends loopOk]

end Drain

def idleOp : DaemonOp → Bool
  | .exchangeInit | .queuePop | .writeSingle _ _ _ | .writeMultiple _ _ _ => false
  | _ => true

theorem idle_apart {events : List DaemonEvent} (idle : ∀ event ∈ events, idleOp event.1 = true) :
    ∀ event ∈ events, takesInput event.1 = false := by
  intro event member
  have here := idle event member
  obtain ⟨operation, answer⟩ := event
  cases operation <;> simp [idleOp, takesInput] at here ⊢

theorem idle_answers {events : List DaemonEvent} (idle : ∀ event ∈ events, idleOp event.1 = true) :
    popAnswers events = [] :=
  popAnswers_none (idle_apart idle)

theorem idle_sends {events : List DaemonEvent} (idle : ∀ event ∈ events, idleOp event.1 = true) :
    sentWrites events = [] := by
  apply List.flatMap_eq_nil_iff.mpr
  intro event member
  have here := idle event member
  obtain ⟨operation, answer⟩ := event
  cases operation <;> simp [idleOp, sentBy] at here ⊢

theorem idle_worked {events : List DaemonEvent} (idle : ∀ event ∈ events, idleOp event.1 = true) :
    WritesOk events := by
  intro event member
  have here := idle event member
  obtain ⟨operation, answer⟩ := event
  cases operation <;> simp [idleOp, wroteOk] at here ⊢

def initWrites : List (Reg × Reg) :=
  [(devFrequencyCmdReg, 0), (devOperationCmdReg, inverterStopBit ||| inverterEnableAccelerationBit)]

section Pass

variable {unit : DeviceUnit} {st : UnitState} {events : List DaemonEvent}

theorem scan_idle {result : Rc × UnitState}
    (run : DaemonRuns (readProfileToPool unit true st) events result) :
    ∀ event ∈ events, idleOp event.1 = true := by
  have room : ScanAllows (fun operation => idleOp operation = true) unit true :=
    ⟨fun _ => rfl, fun _ => rfl, fun _ _ _ => rfl, fun _ _ _ _ => rfl, fun _ _ _ => rfl⟩
  have bodies : ∀ loop : DaemonLoop, False →
      Uses (fun operation => idleOp operation = true) (fun _ => False) (daemonCode loop) :=
    fun _ never => never.elim
  exact Uses.runs bodies (uses_readProfileToPool room rfl rfl st) run

theorem writeInOrder_ok {writes : List (Reg × Reg)} {result : Rc}
    (run : DaemonRuns (writeInOrder unit writes) events result) (worked : WritesOk events) :
    result = .ok ∧ sentWrites events = writes ∧ popAnswers events = [] ∧
      ∀ pool, poolAfter pool events = pool := by
  induction writes generalizing events with
  | nil =>
      obtain ⟨rfl, rfl⟩ := Runs.ret_inv run
      exact ⟨rfl, rfl, rfl, fun _ => rfl⟩
  | cons write rest ih =>
      obtain ⟨addr, value⟩ := write
      obtain ⟨answer, tail, rfl, goesOn⟩ := ask_bind_runs run
      have answered : answer = Rc.ok := worked _ List.mem_cons_self
      subst answered
      obtain ⟨done, sent, popped, pool⟩ :=
        ih goesOn fun event member => worked event (List.mem_cons_of_mem _ member)
      exact ⟨done, by rw [sentWrites_cons, sent]; rfl, popped, pool⟩

theorem initSequence_runs (run : DaemonRuns (inverterRunInitSequence unit) events ())
    (worked : WritesOk events) :
    sentWrites events = initWrites ∧ popAnswers events = [] ∧
      ∀ pool, poolAfter pool events intInverterInitFlagReg = 1 := by
  obtain ⟨_, _, rfl, lowered⟩ := ask_bind_runs run
  obtain ⟨_, _, rfl, acquired⟩ := ask_bind_runs lowered
  obtain ⟨written, rc, _, rfl, writing, rest⟩ := Runs.bind_inv acquired
  obtain ⟨_, _, rfl, released⟩ := ask_bind_runs rest
  have writesOk : WritesOk written := fun event member => worked event (by simp [member])
  obtain ⟨rfl, sent, popped, pool⟩ := writeInOrder_ok writing writesOk
  obtain rfl := ask_runs released
  refine ⟨?_, ?_, fun before => ?_⟩
  · simp [sentBy, sent, initWrites]
  · have shape : popAnswers (written ++ [⟨.busRelease (busPath unit), ()⟩,
        ⟨.poolWrite intInverterInitFlagReg 1, ()⟩]) = [] := by
      rw [popAnswers_append, popped]
      rfl
    exact shape
  · rw [poolAfter_cons, poolAfter_cons, poolAfter_append, poolAfter_cons, poolAfter_cons,
      poolAfter_nil]
    exact poolWriteRegister_self (by decide)

/-- A pass that consumes an init request sends the init sequence and then what the
queue hands out. -/
theorem initPass_runs {result : Rc × UnitState}
    (run : DaemonRuns (inverterProcessCallback unit st) events result)
    (consumed : events.head? = some ⟨.exchangeInit, true⟩) (worked : WritesOk events)
    (outside : intInverterInitFlagReg ∉ unit.profile.table.map DeviceRegisterMapping.poolAddress) :
    (∃ cmds : List WriteCmd, popAnswers events = cmds.map some ++ [none] ∧
        sentWrites events = initWrites ++ cmds.flatMap WriteCmd.sent) ∧
      ∀ pool, poolAfter pool events intInverterInitFlagReg = 1 := by
  obtain ⟨requests, drained, scan, rfl, requested, draining, scanning⟩ :=
    @processCallback_runs .inverter unit st events result run
  obtain ⟨raised, tail, rfl, sequence⟩ := ask_bind_runs requested
  have taken : raised = true := by
    simpa using consumed
  subst taken
  obtain ⟨inner, _, _, rfl, running, last⟩ := Runs.bind_inv sequence
  obtain ⟨rfl, -⟩ := Runs.ret_inv last
  have innerOk : WritesOk inner := fun event member => worked event (by simp [member])
  have drainedOk : WritesOk drained := worked.left.right
  obtain ⟨sent, popped, flag⟩ := initSequence_runs running innerOk
  obtain ⟨cmds, answers, sends⟩ := drainQueue_drains draining
  have idle := scan_idle scanning
  constructor
  · refine ⟨cmds, ?_, ?_⟩
    · have front : popAnswers (⟨.exchangeInit, true⟩ :: (inner ++ [])) = [] := by
        rw [List.append_nil]
        exact popped
      rw [popAnswers_append, popAnswers_append, front, answers, idle_answers idle]
      simp
    · rw [sentWrites_append, sentWrites_append, sentWrites_cons, sentWrites_append, sent,
        sends drainedOk, idle_sends idle]
      simp [sentBy]
  · intro pool
    have starts : (rowsFootprint unit.profile).marks .drain := trivial
    have stays := (Footprint.stays_drainQueue starts trivial).runs draining
    rw [poolAfter_append, poolAfter_append, readProfileToPool_frame scanning _ outside,
      Footprint.poolAfter_outside stays (fun _ => outside) outside, poolAfter_cons,
      poolAfter_append, poolAfter_nil]
    exact flag _

end Pass

/-- The init flag is raised, and each command register keeps what the init sequence
sent unless a command that was queued before the request still comes after it. -/
theorem initPass_result (unit : DeviceUnit) (profile : unit.profile = inverter1Profile)
    (st : UnitState) (earlier since pass : List Moment)
    (atRequest atStart atEnd : CommandInputs) (result : Rc × UnitState)
    (history : Timeline noInputs earlier atRequest)
    (requested : Timeline atRequest (.request :: since) atStart) (quietSince : NoPush since)
    (passed : Timeline atStart pass atEnd) (quietPass : NoPush pass)
    (run : DaemonRuns (inverterProcessCallback unit st) (unitEvents pass) result)
    (consumed : (unitEvents pass).head? = some ⟨.exchangeInit, true⟩)
    (worked : WritesOk (unitEvents pass)) (pool : Pool) (image : Reg → Reg) :
    let left := atStart.queue.pending.flatMap WriteCmd.sent
    poolAfter pool (unitEvents pass) intInverterInitFlagReg = 1 ∧
      atStart.queue.pending <:+ atRequest.queue.pending ∧
      registersAfter image (unitEvents pass) devOperationCmdReg =
        (Lists.latest left devOperationCmdReg).getD
          (inverterStopBit ||| inverterEnableAccelerationBit) ∧
      registersAfter image (unitEvents pass) devFrequencyCmdReg =
        (Lists.latest left devFrequencyCmdReg).getD 0 := by
  have wellFormed := history.wellFormed CmdQueue.queueInit_wellFormed
  have outside : intInverterInitFlagReg ∉
      unit.profile.table.map DeviceRegisterMapping.poolAddress := by
    rw [profile]
    decide
  obtain ⟨⟨cmds, emptied, sent⟩, flag⟩ := initPass_runs run consumed worked outside
  have pending := passed.drained (requested.wellFormed wellFormed) quietPass emptied
  have kept : NoPush (.request :: since) := by
    intro cmd member
    rcases List.mem_cons.mp member with clash | later
    · cases clash
    · exact quietSince cmd later
  refine ⟨flag pool, requested.suffix wellFormed kept, ?_, ?_⟩
  · rw [registersAfter, sent, writeAll_append, writeAll_latest, pending]
    rfl
  · rw [registersAfter, sent, writeAll_append, writeAll_latest, pending]
    rfl

section Stale

def staleInverter : DeviceUnit := ⟨⟨1, .tcp⟩, inverter1Profile⟩

def staleCommand : WriteCmd := ⟨devOperationCmdReg, [inverterRunBit], .fc06⟩

def staleQueue : CmdQueue := (queueInit.push inverterQueueMergeAllowed staleCommand).1

theorem Timeline.append {first middle last : CommandInputs} {front back : List Moment}
    (before : Timeline first front middle) (after : Timeline middle back last) :
    Timeline first (front ++ back) last := by
  induction before with
  | nil => exact after
  | cons served _ ih => exact .cons served (ih after)

theorem Timeline.idle (inputs : CommandInputs) {events : List DaemonEvent}
    (apart : ∀ event ∈ events, takesInput event.1 = false) :
    Timeline inputs (events.map .unit) inputs := by
  induction events with
  | nil => exact .nil inputs
  | cons event rest ih =>
      have later := ih fun next member => apart next (List.mem_cons_of_mem _ member)
      exact .cons (.other (apart event List.mem_cons_self)) later

theorem unitEvents_map (events : List DaemonEvent) : unitEvents (events.map .unit) = events := by
  simp [unitEvents, List.filterMap_map]

theorem noPush_map (events : List DaemonEvent) : NoPush (events.map .unit) := by
  simp [NoPush]

def staleRequests : List DaemonEvent :=
  [⟨.exchangeInit, true⟩, ⟨.poolWrite intInverterInitFlagReg 0, ()⟩, ⟨.busAcquire none, ()⟩,
    ⟨.writeSingle none devFrequencyCmdReg 0, Rc.ok⟩,
    ⟨.writeSingle none devOperationCmdReg (inverterStopBit ||| inverterEnableAccelerationBit),
      Rc.ok⟩,
    ⟨.busRelease none, ()⟩, ⟨.poolWrite intInverterInitFlagReg 1, ()⟩]

def staleDrain : List DaemonEvent :=
  [⟨.queuePop, some staleCommand⟩, ⟨.busAcquire none, ()⟩, ⟨.mark .drain, ()⟩,
    ⟨.writeSingle none devOperationCmdReg inverterRunBit, Rc.ok⟩, ⟨.queuePop, none⟩,
    ⟨.mark .leave, ()⟩, ⟨.busRelease none, ()⟩]

theorem stale_pass : ∃ events result,
    Timeline noInputs [.push staleCommand] ⟨staleQueue, false⟩ ∧
      Timeline ⟨staleQueue, false⟩ [.request] ⟨staleQueue, true⟩ ∧
      Timeline ⟨staleQueue, true⟩ (events.map .unit) ⟨staleQueue.pop.1.pop.1, false⟩ ∧
      DaemonRuns (inverterProcessCallback staleInverter ⟨0, connectionConnected⟩) events result ∧
      events.head? = some ⟨.exchangeInit, true⟩ ∧ WritesOk events ∧
      sentWrites events = initWrites ++ [(devOperationCmdReg, inverterRunBit)] := by
  have requested : DaemonRuns (inverterRunRequests staleInverter ⟨0, connectionConnected⟩)
      staleRequests ⟨0, connectionConnected⟩ :=
    .op (.op (.op (.op (.op (.op (.op (.ret _)))))))
  have drained : DaemonRuns (drainQueue staleInverter) staleDrain () :=
    .op (.op (.op (.call (.op (.op (.op (.op (.ret _))))))))
  obtain ⟨scan, result, scanning, -⟩ := runs_of_check daemonCode
    (steadyDevice (fun _ => true) fun _ => 0) 0
    (readProfileToPool staleInverter true ⟨0, connectionConnected⟩) (fun _ => true)
    (by decide +kernel)
  have idle := scan_idle scanning
  have pass : DaemonRuns (inverterProcessCallback staleInverter ⟨0, connectionConnected⟩)
      (staleRequests ++ (staleDrain ++ scan)) result :=
    Runs.bind requested (Runs.bind drained scanning)
  have pushed : Timeline noInputs [.push staleCommand] ⟨staleQueue, false⟩ :=
    .cons (.push (by decide)) (.nil _)
  have lowered : Timeline ⟨staleQueue, true⟩ (staleRequests.map .unit) ⟨staleQueue, false⟩ :=
    .cons .exchange (Timeline.idle _ (by decide))
  have handedOut : staleQueue.pop.2 = some staleCommand := by decide
  have emptied : staleQueue.pop.1.pop.2 = none := by decide
  have popped : Timeline ⟨staleQueue, false⟩ (staleDrain.map .unit)
      ⟨staleQueue.pop.1.pop.1, false⟩ := by
    have first : Serves ⟨staleQueue, false⟩ (.unit ⟨.queuePop, some staleCommand⟩)
        ⟨staleQueue.pop.1, false⟩ := by
      rw [← handedOut]
      exact .pop
    have second : Serves ⟨staleQueue.pop.1, false⟩ (.unit ⟨.queuePop, none⟩)
        ⟨staleQueue.pop.1.pop.1, false⟩ := by
      rw [← emptied]
      exact .pop
    exact .cons first (.cons (.other rfl) (.cons (.other rfl) (.cons (.other rfl)
      (.cons second (Timeline.idle _ (by decide))))))
  refine ⟨_, result, pushed, .cons .request (.nil _), ?_, pass, rfl, ?_, ?_⟩
  · rw [List.map_append, List.map_append]
    exact lowered.append (popped.append (Timeline.idle _ (idle_apart idle)))
  · have requestsOk : WritesOk staleRequests :=
      .cons trivial (.cons trivial (.cons trivial (.cons rfl (.cons rfl
        (.cons trivial (.cons trivial .nil))))))
    have drainOk : WritesOk staleDrain :=
      .cons trivial (.cons trivial (.cons trivial (.cons rfl (.cons trivial
        (.cons trivial (.cons trivial .nil))))))
    exact requestsOk.append (drainOk.append (idle_worked idle))
  · rw [sentWrites_append, sentWrites_append, idle_sends idle]
    decide

theorem initPass_result_stale : ∃ events result,
    DaemonRuns (inverterProcessCallback staleInverter ⟨0, connectionConnected⟩) events result ∧
      poolAfter (fun _ => 0) events intInverterInitFlagReg = 1 ∧
      registersAfter (fun _ => 0) events devOperationCmdReg = inverterRunBit ∧
      registersAfter (fun _ => 0) events devFrequencyCmdReg = 0 := by
  obtain ⟨events, result, pushed, requested, passed, run, consumed, worked, -⟩ := stale_pass
  have whole := initPass_result staleInverter rfl ⟨0, connectionConnected⟩ [.push staleCommand] []
    (events.map .unit) _ _ _ result pushed requested (by simp [NoPush]) passed (noPush_map events)
    (by rwa [unitEvents_map]) (by rwa [unitEvents_map]) (by rwa [unitEvents_map])
    (fun _ => 0) (fun _ => 0)
  rw [unitEvents_map] at whole
  obtain ⟨flag, -, operation, frequency⟩ := whole
  exact ⟨events, result, run, flag, operation.trans (by decide), frequency.trans (by decide)⟩

/-- The run command comes after the init sequence, so the stop does not last. -/
theorem initPass_undone : ¬ ∀ (unit : DeviceUnit) (st : UnitState)
    (earlier since pass : List Moment) (atRequest atStart atEnd : CommandInputs)
    (result : Rc × UnitState), unit.profile = inverter1Profile →
    Timeline noInputs earlier atRequest → Timeline atRequest (.request :: since) atStart →
    NoPush since → Timeline atStart pass atEnd → NoPush pass →
    DaemonRuns (inverterProcessCallback unit st) (unitEvents pass) result →
    (unitEvents pass).head? = some ⟨.exchangeInit, true⟩ → WritesOk (unitEvents pass) →
    ∀ pool image, poolAfter pool (unitEvents pass) intInverterInitFlagReg = 1 ∧
      registersAfter image (unitEvents pass) devOperationCmdReg =
        inverterStopBit ||| inverterEnableAccelerationBit ∧
      registersAfter image (unitEvents pass) devFrequencyCmdReg = 0 := by
  intro claimed
  obtain ⟨events, result, pushed, requested, passed, run, consumed, worked, sent⟩ := stale_pass
  have wrong := (claimed staleInverter ⟨0, connectionConnected⟩ [.push staleCommand] []
    (events.map .unit) _ _ _ result rfl pushed requested (by simp [NoPush]) passed
    (noPush_map events) (by rwa [unitEvents_map]) (by rwa [unitEvents_map])
    (by rwa [unitEvents_map]) (fun _ => 0) (fun _ => 0)).2.1
  rw [unitEvents_map, registersAfter, sent] at wrong
  revert wrong
  decide

end Stale

end Rs485Gateway
