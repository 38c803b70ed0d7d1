import Rs485Gateway.Daemon.Coalescing
import Rs485Gateway.Daemon.Requests
import Rs485Gateway.Daemon.UnitOperations
import Rs485Gateway.Device.QueueHistory
import Rs485Gateway.Lists.Coalesced

namespace Rs485Gateway

open Interaction Rs485Gateway.Lists

def WriteCmd.Single (cmd : WriteCmd) : Prop := ∃ value, cmd = ⟨cmd.addr, [value], .auto⟩

theorem WriteCmd.Single.length {cmd : WriteCmd} (single : cmd.Single) : cmd.values.length = 1 := by
  rcases single with ⟨value, same⟩
  rw [same]
  rfl

/-- A drain, and the command taken out of the queue and not written yet. -/
structure DrainState where
  draining : Bool
  hand : Option WriteCmd

def drainIdle : DrainState := ⟨false, none⟩

def drainStep (g : DrainState) : DaemonEvent → DrainState
  | ⟨.mark .drain, _⟩ => { g with draining := true }
  | ⟨.mark .leave, _⟩ => { g with draining := false }
  | ⟨.queuePop, popped⟩ => { g with hand := popped }
  | ⟨.writeSingle _ _ _, _⟩ => if g.draining then { g with hand := none } else g
  | _ => g

/-- A drain writes the command in hand and nothing else, and takes the next when that is done. -/
def drainAllows (g : DrainState) : DaemonOp → Prop
  | .queuePop => g.hand = none
  | .writeSingle _ addr value =>
      g.draining = true → ∃ cmd, g.hand = some cmd ∧ cmd.writes = [(addr, value)]
  | .writeMultiple _ _ _ => g.draining = false
  | _ => True

def popsSingle : DaemonEvent → Prop
  | ⟨.queuePop, popped⟩ => ∀ cmd, popped = some cmd → cmd.Single
  | _ => True

def drainSpec : Protocol daemonSig DrainState where
  allow := drainAllows
  rely := fun _ operation answer => popsSingle ⟨operation, answer⟩
  next := fun g operation answer => drainStep g ⟨operation, answer⟩
  enter
    | .drain _ cmd, g => g = ⟨true, some cmd⟩ ∧ cmd.Single
  leave
    | .drain _ _, _, _, g => g = ⟨true, none⟩

section Programs

variable {kind : DeviceKind} {unit : DeviceUnit} {st : UnitState}

theorem drainSpec_verifies : drainSpec.Verifies daemonCode := by
  rintro ⟨unit, addr, values, mode⟩ g ⟨rfl, value, single⟩
  cases single
  refine ⟨fun _ => ⟨_, rfl, block_single rfl⟩, fun _ _ => ⟨rfl, fun popped trusted => ?_⟩⟩
  cases popped with
  | none => rfl
  | some next =>
      refine ⟨⟨rfl, trusted next rfl⟩, ?_⟩
      intro _ _ left
      exact left

theorem Between.drainSafe {α : Type} {writes : Bool} {prog : DaemonProg α}
    (between : Between writes prog) : Safe drainSpec (fun _ g => g = drainIdle) drainIdle prog := by
  apply Uses.safe between
  · intro operation here
    cases operation with
    | queuePop => exact here.elim
    | writeSingle line addr value => exact fun draining => by cases draining
    | writeMultiple line addr values => rfl
    | _ => trivial
  · intro operation answer here
    cases operation with
    | queuePop => exact here.elim
    | mark mark =>
        cases mark with
        | drain => exact here.elim
        | _ => rfl
    | _ => rfl
  · exact fun _ => False.elim
  · exact fun _ _ _ => False.elim

theorem drainQueue_safe :
    Safe drainSpec (fun _ g => g = drainIdle) drainIdle (drainQueue unit) := by
  refine ⟨rfl, fun popped trusted => ?_⟩
  cases popped with
  | none => rfl
  | some cmd =>
      refine ⟨trivial, fun _ _ => ⟨trivial, fun _ _ => ⟨⟨rfl, trusted cmd rfl⟩, ?_⟩⟩⟩
      rintro _ _ rfl
      exact ⟨trivial, fun _ _ => ⟨trivial, fun _ _ => rfl⟩⟩

theorem unitStarts_drainSafe {phase : UnitPhase} {prog : DaemonProg Home}
    (starts : UnitStarts kind unit st phase prog) :
    Safe drainSpec (fun _ g => g = drainIdle) drainIdle prog := by
  have ends {α : Type} {part : DaemonProg α} {f : α → Home}
      (safe : Safe drainSpec (fun _ g => g = drainIdle) drainIdle part) :
      Safe drainSpec (fun _ g => g = drainIdle) drainIdle (part.bind fun value => pure (f value)) :=
    safe.bind fun _ _ rest => rest
  cases starts with
  | init =>
      rw [moduleCallbacks_init]
      exact ends (between_initCallback (between_unitConnect kind)).drainSafe
  | process =>
      rw [moduleCallbacks_process]
      apply ends
      apply (between_runRequests kind).drainSafe.bind
      rintro st _ rfl
      apply drainQueue_safe.bind
      rintro _ _ rfl
      split
      · rfl
      · have scans : Between true (readProfileToPool unit true st) :=
          between_readProfileToPool true st
        exact scans.drainSafe
  | error =>
      rw [moduleCallbacks_error]
      have closes : Between true (errorCallback (statusReg kind) st connectionDisconnected) :=
        between_errorCallback _ _
      exact ends closes.drainSafe
  | stop => exact ⟨trivial, fun _ _ => rfl⟩

end Programs

section History

def drainState (id : UnitId) (history : History) : DrainState :=
  drainSpec.ghost drainIdle (.unit id) history

/-- The register writes an operation asks for, whatever comes of them. -/
def requestedBy : DaemonOp → List (Reg × Reg)
  | .writeSingle _ addr value => [(addr, value)]
  | .writeMultiple _ addr values => block addr values
  | _ => []

def drainWrites (id : UnitId) : History → List (Reg × Reg)
  | [] => []
  | (t, event) :: older =>
      if t = .unit id ∧ (drainState id older).draining = true then
        drainWrites id older ++ requestedBy event.1
      else drainWrites id older

def acceptedBy (id : UnitId) : DaemonEvent → List WriteCmd
  | ⟨.queuePush target cmd, accepted⟩ => if target = id ∧ accepted = true then [cmd] else []
  | _ => []

def acceptedCommands (id : UnitId) : History → List WriteCmd
  | [] => []
  | (_, event) :: older => acceptedCommands id older ++ acceptedBy id event

/-- What the writes of a unit will be once what is in hand and what is pending are written too. -/
def commandWrites (id : UnitId) (history : History) (queue : CmdQueue) : List (Reg × Reg) :=
  drainWrites id history ++ plainWrites ((drainState id history).hand.toList ++ queue.pending)

def pushesSingle : DaemonOp → Prop
  | .queuePush target cmd => target.kind = .inverter ∧ cmd.Single
  | _ => True

variable {id : UnitId} {t : ThreadId} {history older : History} {event : DaemonEvent}

@[simp] theorem drainState_self :
    drainState id ((.unit id, event) :: older) = drainStep (drainState id older) event :=
  Protocol.ghost_self _ _ _ _ _ _

theorem drainState_other (other : t ≠ .unit id) :
    drainState id ((t, event) :: older) = drainState id older :=
  Protocol.ghost_other _ _ _ _ other

end History

section Queue

variable {id : UnitId} {mergeAllowed : Reg → Bool} {q : CmdQueue}

theorem plainWrites_nil : plainWrites [] = [] := rfl

theorem plainWrites_cons (cmd : WriteCmd) (rest : List WriteCmd) :
    plainWrites (cmd :: rest) = cmd.writes ++ plainWrites rest :=
  List.flatMap_cons

theorem WriteCmd.Single.writes_eq {cmd : WriteCmd} (single : cmd.Single) :
    cmd.writes = [(cmd.addr, cmd.values.headD 0)] := block_single single.length

theorem valuesOf_length {register : Reg} {cmds : List WriteCmd}
    (single : ∀ cmd ∈ cmds, cmd.Single) :
    (valuesOf register (plainWrites cmds)).length = singles register cmds := by
  induction cmds with
  | nil => rfl
  | cons cmd rest ih =>
      have here := single cmd List.mem_cons_self
      have later := ih fun next member => single next (List.mem_cons_of_mem _ member)
      rw [singles] at later ⊢
      rw [plainWrites_cons, valuesOf_append, List.length_append, later, here.writes_eq,
        List.countP_cons, Nat.add_comm]
      by_cases same : cmd.addr = register
      · rw [same, valuesOf_self, if_pos (by simp [here.length])]
        rfl
      · rw [valuesOf_other same, if_neg (by simp [same])]
        rfl

structure PendingSound (mergeAllowed : Reg → Bool) (pending : List WriteCmd) : Prop where
  single : ∀ cmd ∈ pending, cmd.Single
  alone : ∀ addr, mergeAllowed addr = true → singles addr pending ≤ 1

theorem PendingSound.step {pending next : List WriteCmd} {call : QueueCall} {answer : QueueAnswer}
    (sound : PendingSound mergeAllowed pending)
    (pushed : ∀ cmd, call = .push cmd → cmd.Single)
    (step : ListStep mergeAllowed pending call next answer) : PendingSound mergeAllowed next := by
  refine ⟨?_, fun addr allowed => step.singles_le allowed (sound.alone addr allowed)⟩
  intro other member
  cases step with
  | @merged before behind entry cmd mergeable first here =>
      have replaced : WriteCmd.mk entry.addr cmd.values cmd.mode = cmd := by rw [here.1]
      rw [replaced] at member
      rcases List.mem_append.mp member with earlier | rest
      · exact sound.single other (List.mem_append_left _ earlier)
      · rcases List.mem_cons.mp rest with rfl | later
        · exact pushed _ rfl
        · exact sound.single other (List.mem_append_right _ (List.mem_cons_of_mem _ later))
  | @appended _ cmd valid fresh room =>
      rcases List.mem_append.mp member with earlier | last
      · exact sound.single other earlier
      · rw [List.mem_singleton.mp last]
        exact pushed cmd rfl
  | invalid => exact sound.single other member
  | full => exact sound.single other member
  | popped => exact sound.single other (List.mem_cons_of_mem _ member)
  | empty => cases member

theorem CmdQueue.push_step (wellFormed : q.WellFormed) (cmd : WriteCmd) :
    (q.push mergeAllowed cmd).1.WellFormed ∧
      ListStep mergeAllowed q.pending (.push cmd) (q.push mergeAllowed cmd).1.pending
        (.pushed (q.push mergeAllowed cmd).2) := by
  rcases push_refines mergeAllowed cmd wellFormed with ⟨kept, refines⟩
  have bounded : q.pending.length ≤ cmdQueueCapacity := by
    rw [pending_length]
    exact wellFormed.count_le
  have step := @pushPending_step mergeAllowed q.pending cmd bounded
  rw [refines] at step
  exact ⟨kept, step⟩

/-- The step lemma of the flow: an accepted push counts once, at the end or in the place of the
only command of its register. -/
theorem coalesced_push {pending next : List WriteCmd} {cmd : WriteCmd} {accepted : Bool}
    {register : Reg} {pushed written : List Reg}
    (step : ListStep mergeAllowed pending (.push cmd) next (.pushed accepted))
    (sound : PendingSound mergeAllowed pending) (single : cmd.Single)
    (coalesced : Coalesced (mergeAllowed register = true) pushed
      (written ++ valuesOf register (plainWrites pending))) :
    Coalesced (mergeAllowed register = true)
      (pushed ++ valuesOf register (plainWrites (if accepted then [cmd] else [])))
      (written ++ valuesOf register (plainWrites next)) := by
  have one : plainWrites [cmd] = [(cmd.addr, cmd.values.headD 0)] := by
    rw [plainWrites_cons, single.writes_eq]
    rfl
  cases step with
  | @merged before behind entry _ mergeable first here =>
      have replaced : WriteCmd.mk entry.addr cmd.values cmd.mode = cmd := by rw [here.1]
      have old : entry.Single := sound.single entry (by simp)
      rw [if_pos rfl, replaced, one, plainWrites_append, plainWrites_cons, single.writes_eq,
        valuesOf_append, valuesOf_append]
      rw [plainWrites_append, plainWrites_cons, old.writes_eq, here.1, valuesOf_append,
        valuesOf_append] at coalesced
      by_cases same : cmd.addr = register
      · subst same
        -- the command replaced was the only one of its register
        have alone := sound.alone cmd.addr mergeable.2
        have counted : singles cmd.addr [entry] = 1 := by
          simp [singles, here.1, here.2]
        have split : singles cmd.addr (before ++ [entry] ++ behind) =
            singles cmd.addr before + 1 + singles cmd.addr behind := by
          rw [singles, List.countP_append, List.countP_append, ← singles, ← singles, ← singles,
            counted]
        rw [List.append_assoc, List.singleton_append] at split
        have earlier : valuesOf cmd.addr (plainWrites before) = [] := by
          apply List.eq_nil_of_length_eq_zero
          rw [valuesOf_length fun entry member =>
            sound.single entry (List.mem_append_left _ member)]
          omega
        have later : valuesOf cmd.addr (plainWrites behind) = [] := by
          apply List.eq_nil_of_length_eq_zero
          rw [valuesOf_length fun entry member =>
            sound.single entry (List.mem_append_right _ (List.mem_cons_of_mem _ member))]
          omega
        rw [earlier, later, valuesOf_self] at coalesced ⊢
        exact coalesced.merge mergeable.2 _
      · rw [valuesOf_other same] at coalesced ⊢
        rw [List.append_nil]
        exact coalesced
  | appended =>
      rw [if_pos rfl, plainWrites_append, valuesOf_append, ← List.append_assoc, one]
      by_cases same : cmd.addr = register
      · rw [same, valuesOf_self]
        exact coalesced.append _
      · rw [valuesOf_other same, List.append_nil, List.append_nil]
        exact coalesced
  | invalid =>
      rw [if_neg Bool.false_ne_true, plainWrites_nil, valuesOf_nil, List.append_nil]
      exact coalesced
  | full =>
      rw [if_neg Bool.false_ne_true, plainWrites_nil, valuesOf_nil, List.append_nil]
      exact coalesced

end Queue

section Flow

variable {id : UnitId} {t : ThreadId} {history older : History} {event : DaemonEvent}

theorem requestsOf_sound (pushes : ∀ entry ∈ history, pushesSingle entry.2.1) :
    ((requestsOf history).queue id).WellFormed ∧
      PendingSound (mergeAllowed id.kind) ((requestsOf history).queue id).pending := by
  induction history with
  | nil =>
      refine ⟨CmdQueue.queueInit_wellFormed, ⟨?_, fun _ _ => Nat.zero_le _⟩⟩
      intro cmd member
      cases member
  | cons entry older ih =>
      rcases entry with ⟨t, operation, answer⟩
      rcases ih fun entry member => pushes entry (List.mem_cons_of_mem _ member) with
        ⟨wellFormed, sound⟩
      have here := pushes _ List.mem_cons_self
      have step := requestStep_queue id t (requestsOf older) operation
      rw [requestsOf]
      generalize (requestStep t (requestsOf older) operation).queue id = next at step
      cases step with
      | push cmd =>
          rcases CmdQueue.push_step wellFormed cmd with ⟨kept, pushed⟩
          exact ⟨kept, sound.step (fun _ same => by cases same; exact here.2) pushed⟩
      | pop own =>
          rcases CmdQueue.pop_refines wellFormed with ⟨kept, -, rest⟩
          refine ⟨kept, ?_⟩
          rw [rest]
          generalize ((requestsOf older).queue id).pending = pending at sound
          cases pending with
          | nil => exact sound
          | cons cmd behind => exact sound.step (by simp) .popped
      | other => exact ⟨wellFormed, sound⟩

theorem pops_trusted (pushes : ∀ entry ∈ history, pushesSingle entry.2.1)
    (answered : RequestsAnswered history) : drainSpec.Trusted drainIdle (.unit id) history := by
  induction history with
  | nil => trivial
  | cons entry older ih =>
      rcases entry with ⟨t, operation, answer⟩
      have earlier := fun entry member => pushes entry (List.mem_cons_of_mem _ member)
      refine ⟨?_, ih earlier answered.2⟩
      rintro rfl
      cases operation with
      | queuePop =>
          rintro cmd rfl
          rcases @requestsOf_sound id older earlier with ⟨wellFormed, sound⟩
          have popped := answered.1 id rfl
          rw [(CmdQueue.pop_refines wellFormed).2.1] at popped
          exact sound.single cmd (List.mem_of_mem_head? popped.symm)
      | _ => trivial

/-- Anything but taking a command: a drain writes what is in hand, and nothing else moves. -/
theorem handover (allowed : t = .unit id → drainAllows (drainState id older) event.1)
    (pops : t = .unit id → event.1 ≠ .queuePop) :
    drainWrites id ((t, event) :: older) ++
        plainWrites (drainState id ((t, event) :: older)).hand.toList =
      drainWrites id older ++ plainWrites (drainState id older).hand.toList := by
  by_cases own : t = .unit id
  · subst own
    rw [drainState_self, drainWrites]
    have here := allowed rfl
    generalize drainState id older = g at here
    rcases event with ⟨operation, answer⟩
    cases draining : g.draining with
    | false =>
        rw [if_neg (by simp)]
        cases operation with
        | queuePop => exact absurd rfl (pops rfl)
        | writeSingle line addr value =>
            simp only [drainStep, draining, Bool.false_eq_true, if_false]
        | mark mark => cases mark <;> rfl
        | _ => rfl
    | true =>
        rw [if_pos ⟨rfl, rfl⟩]
        cases operation with
        | queuePop => exact absurd rfl (pops rfl)
        | writeSingle line addr value =>
            rcases here draining with ⟨cmd, inHand, writes⟩
            simp only [drainStep, draining, if_true, inHand, requestedBy, Option.toList, ← writes]
            rw [plainWrites_cons, plainWrites_nil, List.append_nil, List.append_nil]
        | writeMultiple line addr values =>
            have idle : g.draining = false := here
            rw [draining] at idle
            cases idle
        | mark mark => cases mark <;> simp only [drainStep, requestedBy, List.append_nil]
        | _ => simp only [drainStep, requestedBy, List.append_nil]
  · rw [drainState_other own, drainWrites, if_neg fun both => own both.1]

/-- The run lemma: along a history the commands accepted are those written, in hand or pending. -/
theorem coalesced_history (pushes : ∀ entry ∈ history, pushesSingle entry.2.1)
    (answered : RequestsAnswered history) (kept : drainSpec.Kept drainIdle (.unit id) history)
    (register : Reg) :
    Coalesced (mergeAllowed id.kind register = true)
      (valuesOf register (plainWrites (acceptedCommands id history)))
      (valuesOf register (commandWrites id history ((requestsOf history).queue id))) := by
  induction history with
  | nil => exact .nil
  | cons entry older ih =>
      rcases entry with ⟨t, operation, answer⟩
      have earlier := fun entry member => pushes entry (List.mem_cons_of_mem _ member)
      have before := ih earlier answered.2 kept.2
      have here := pushes _ List.mem_cons_self
      have answers := answered.1
      rcases @requestsOf_sound id older earlier with ⟨wellFormed, sound⟩
      have step := requestStep_queue id t (requestsOf older) operation
      rw [commandWrites, plainWrites_append, ← List.append_assoc, valuesOf_append] at before ⊢
      rw [acceptedCommands, plainWrites_append, valuesOf_append, requestsOf]
      generalize (requestStep t (requestsOf older) operation).queue id = next at step
      cases step with
      | push cmd =>
          have single : cmd.Single := here.2
          have accepted : answer =
              (((requestsOf older).queue id).push (mergeAllowed id.kind) cmd).2 := answers
          have counted : acceptedBy id ⟨.queuePush id cmd, answer⟩ =
              if answer then [cmd] else [] := by
            simp [acceptedBy]
          have handed := @handover id t older ⟨.queuePush id cmd, answer⟩ (fun _ => trivial)
            fun _ => by simp
          rw [handed, counted, accepted]
          exact coalesced_push (CmdQueue.push_step wellFormed cmd).2 sound single before
      | pop own =>
          subst own
          rcases CmdQueue.pop_refines wellFormed with ⟨-, oldest, rest⟩
          have popped : answer = ((requestsOf older).queue id).pending.head? :=
            (answers id rfl).trans oldest
          have empty : (drainState id older).hand = none := kept.1 rfl
          have written : drainWrites id ((.unit id, ⟨.queuePop, answer⟩) :: older) =
              drainWrites id older := by
            rw [drainWrites]
            split
            · exact List.append_nil _
            · rfl
          have taken :
              (drainState id ((.unit id, ⟨.queuePop, answer⟩) :: older)).hand = answer := by
            rw [drainState_self]
            rfl
          have whole : answer.toList ++ ((requestsOf older).queue id).pending.tail =
              ((requestsOf older).queue id).pending := by
            rw [popped]
            cases ((requestsOf older).queue id).pending <;> rfl
          have nothing : acceptedBy id ⟨.queuePop, answer⟩ = [] := rfl
          rw [empty, Option.toList_none, plainWrites_nil, List.append_nil] at before
          rw [nothing, plainWrites_nil, valuesOf_nil, List.append_nil, written, taken, rest,
            valuesOf_append, List.append_assoc, ← valuesOf_append, ← plainWrites_append, whole]
          exact before
      | other notPush notPop =>
          have apart : acceptedBy id ⟨operation, answer⟩ = [] := by
            cases operation with
            | queuePush target cmd =>
                exact if_neg fun both => notPush cmd (by rw [both.1])
            | _ => rfl
          rw [handover kept.1 notPop, apart, plainWrites_nil, valuesOf_nil,
            List.append_nil]
          exact before

end Flow

section Reachable

variable {daemon : Daemon} {c : DaemonConfig}

theorem reachable_pushes (reached : daemon.Reachable c) :
    ∀ entry ∈ c.history, pushesSingle entry.2.1 := by
  rintro ⟨t, event⟩ member
  apply reached.uses _ event member
  constructor
  · intro operation allowed
    cases operation with
    | queuePush target cmd => exact allowed.elim
    | _ => trivial
  · intro operation watches
    cases operation with
    | queuePush target cmd => exact watches.elim
    | _ => trivial
  · exact fun _ => trivial
  · exact fun _ => Daemon.inverterDispatch_uses (fun _ => trivial) (fun _ => trivial)
      fun _ _ value => ⟨rfl, value, rfl⟩
  · exact fun _ => Daemon.upsDispatch_uses (fun _ => trivial) fun _ => trivial

theorem reachable_drains (reached : daemon.Reachable c) (id : UnitId) :
    SafeThread drainSpec drainIdle (fun _ g => g = drainIdle) (.unit id) c ∧
      drainSpec.Kept drainIdle (.unit id) c.history := by
  have resumes (choice : Choice) (home : Home) (prog : DaemonProg Home)
      (resumed : daemon.system.resume (.unit id) choice home = some prog) :
      ∀ g, g = drainIdle → Safe drainSpec (fun _ g => g = drainIdle) g prog := by
    rintro _ rfl
    cases Daemon.resume_cases resumed with
    | unit present starts => exact unitStarts_drainSafe starts
  have trusted : drainSpec.Trusted drainIdle (.unit id) c.history :=
    pops_trusted (reachable_pushes reached) (reachable_requests reached).2
  have starts : SafeThread drainSpec drainIdle (fun _ g => g = drainIdle) (.unit id)
      daemon.start := rfl
  exact System.Reaches.guarantee drainSpec_verifies resumes rfl starts reached trusted

theorem reachable_coalesced (reached : daemon.Reachable c) (id : UnitId) (register : Reg) :
    Coalesced (mergeAllowed id.kind register = true)
      (valuesOf register (plainWrites (acceptedCommands id c.history)))
      (valuesOf register (commandWrites id c.history (c.shared.queue id))) := by
  rcases reachable_requests reached with ⟨requests, answered⟩
  have conserved := coalesced_history (reachable_pushes reached) answered
    (reachable_drains reached id).2 register
  rw [← requests] at conserved
  exact conserved

/-- Whatever the threads and the device do, the values accepted for a register are the ones
written, then the one in hand, then those pending, in this order: all of them or, where commands
merge, some with the newest. A unit between two callbacks has nothing in hand. -/
theorem commands_conserved (reached : daemon.Reachable c) (id : UnitId) (register : Reg) :
    Coalesced (mergeAllowed id.kind register = true)
        (valuesOf register (plainWrites (acceptedCommands id c.history)))
        (valuesOf register (commandWrites id c.history (c.shared.queue id))) ∧
      ∀ home, c.control (.unit id) = .ret home → (drainState id c.history).hand = none := by
  refine ⟨reachable_coalesced reached id register, fun home rests => ?_⟩
  have idle : drainState id c.history = drainIdle := (reachable_drains reached id).1.returned rests
  rw [idle]
  rfl

def orders (value : UInt64) : List (ThreadId × Choice) :=
  [(.subscriber .inverter, .go), (.subscriber .inverter, .inverterMessage (.operation value)),
    (.subscriber .inverter, .go)]

/-- Two orders are merged, a third comes while the second is written. -/
theorem commands_conserved_merged : ∃ c, Daemon.loneInverter.Reachable c ∧
    drainWrites ⟨.inverter, 0⟩ c.history = [(devOperationCmdReg, 2)] ∧
    Coalesced (mergeAllowed .inverter devOperationCmdReg = true) [(1 : Reg), 2, 3] [2, 3] := by
  rcases System.reaches_of_check Daemon.loneInverter.system Daemon.loneInverter.start
    (Daemon.inverterSteps [Choice.go, .connected .ok, .go] ++ orders 1 ++ orders 2 ++
      Daemon.inverterSteps [Choice.go, .go, .go, .go, .go, .go] ++ orders 3 ++
      Daemon.inverterSteps [Choice.wrote .fail])
    (fun c => decide (drainWrites ⟨.inverter, 0⟩ c.history = [(devOperationCmdReg, 2)]) &&
      decide (valuesOf devOperationCmdReg
        (plainWrites (acceptedCommands ⟨.inverter, 0⟩ c.history)) = [1, 2, 3]) &&
      decide (valuesOf devOperationCmdReg (commandWrites ⟨.inverter, 0⟩ c.history
        (c.shared.queue ⟨.inverter, 0⟩)) = [2, 3])) (by decide +kernel) with
    ⟨c, reached, checked⟩
  simp only [Bool.and_eq_true, decide_eq_true_eq] at checked
  have conserved := (commands_conserved reached ⟨.inverter, 0⟩ devOperationCmdReg).1
  rw [checked.1.2, checked.2] at conserved
  exact ⟨c, reached, checked.1.1, conserved⟩

end Reachable

end Rs485Gateway
