import Rs485Gateway.Daemon.CommandFlow

namespace Rs485Gateway

open Interaction

/-- How far the thread of a UPS is with a reboot. -/
inductive RebootStage where
  | rest
  | asked
  | restarted
  | confirmed
  deriving DecidableEq

def restartVerified (addr : Reg) {n : Nat} (values : Fin n → Reg) : Bool :=
  decide (addr = devUpsRebootVerifyReg) && !decide ((List.ofFn values).headD 0 &&& 0x2000 = 0)

/-- A request, a restart that was written, a read that shows it. -/
def rebootStep (stage : RebootStage) : DaemonEvent → RebootStage
  | ⟨.exchangeReboot, requested⟩ => if requested then .asked else stage
  | ⟨.writeMultiple _ _ _, result⟩ =>
      if stage = .asked ∧ result = Rc.ok then .restarted else .rest
  | ⟨.readHolding _ addr _, some values⟩ =>
      if stage = .restarted ∧ restartVerified addr values then .confirmed else .rest
  | ⟨.readHolding _ _ _, none⟩ => .rest
  | _ => stage

inductive RebootWrite : RebootStage → Reg → List Reg → Prop
  | restart : RebootWrite .asked devUpsRestartReg [0x3030, 0x3031]
  | shutdown : RebootWrite .confirmed devUpsShutdownReg [0x3031]

def rebootAllows (stage : RebootStage) : DaemonOp → Prop
  | .writeSingle _ _ _ => False
  | .writeMultiple _ addr values => RebootWrite stage addr values
  | .exchangeReboot => stage = .rest
  | _ => True

def popsNothing : DaemonEvent → Prop
  | ⟨.queuePop, popped⟩ => popped = none
  | _ => True

def rebootSpec : Protocol daemonSig RebootStage where
  allow := rebootAllows
  rely := fun _ operation answer => popsNothing ⟨operation, answer⟩
  next := fun stage operation answer => rebootStep stage ⟨operation, answer⟩
  enter := fun _ _ => False
  leave := fun _ _ _ _ => False

section Programs

variable {unit : DeviceUnit} {st : UnitState}

abbrev EndsAtRest {α : Type} (prog : DaemonProg α) : Prop :=
  Safe rebootSpec (fun _ stage => stage = .rest) .rest prog

theorem Between.endsAtRest {α : Type} {prog : DaemonProg α} (between : Between false prog) :
    EndsAtRest prog := by
  apply Uses.safe between
  · intro operation here
    cases operation with
    | writeSingle line addr value => cases here
    | writeMultiple line addr values => cases here
    | exchangeReboot => cases here
    | _ => trivial
  · intro operation answer here
    cases operation with
    | writeMultiple line addr values => cases here
    | exchangeReboot => cases here
    | readHolding line addr count => cases answer <;> rfl
    | _ => rfl
  · exact fun _ => False.elim
  · exact fun _ _ _ => False.elim

theorem EndsAtRest.bind {α β : Type} {prog : DaemonProg α} {f : α → DaemonProg β}
    (head : EndsAtRest prog) (tail : ∀ value, EndsAtRest (f value)) :
    EndsAtRest (prog.bind f) := by
  apply Safe.bind head
  rintro value _ rfl
  exact tail value

theorem drainQueue_endsAtRest : EndsAtRest (drainQueue unit) := by
  refine ⟨trivial, fun popped trusted => ?_⟩
  cases trusted
  rfl

theorem readDeviceValue_safe (addr : Reg) (stage : RebootStage)
    {post : Option (Fin (1 : Reg).toNat → Reg) → RebootStage → Prop} (missing : post none .rest)
    (read : ∀ values,
      post (some values) (rebootStep stage ⟨.readHolding none addr 1, some values⟩)) :
    Safe rebootSpec post stage (readDeviceValue unit addr 1) := by
  unfold readDeviceValue
  split
  · refine ⟨trivial, fun answer _ => ?_⟩
    cases answer with
    | none => exact missing
    | some values => exact read values
  · refine ⟨trivial, fun _ _ => ⟨trivial, fun answer _ => ?_⟩⟩
    cases answer with
    | none => exact ⟨trivial, fun _ _ => missing⟩
    | some values => exact ⟨trivial, fun _ _ => read values⟩

theorem writeRegistersToDevice_safe {stage : RebootStage} {addr : Reg} {values : List Reg}
    (write : RebootWrite stage addr values) :
    Safe rebootSpec
      (fun result after => after = if stage = .asked ∧ result = Rc.ok then .restarted else .rest)
      stage (writeRegistersToDevice unit addr values .fc16) :=
  ⟨trivial, fun _ _ => ⟨write, fun _ _ => ⟨trivial, fun _ _ => rfl⟩⟩⟩

theorem restartVerified_eq {n : Nat} (values : Fin n → Reg) (positive : 0 < n) :
    restartVerified devUpsRebootVerifyReg values =
      !decide (values ⟨0, positive⟩ &&& 0x2000 = 0) := by
  cases n with
  | zero => cases positive
  | succ n =>
      rw [restartVerified, List.ofFn_succ, List.headD_cons]
      rfl

def afterRestart : Rc → RebootStage
  | .ok => .confirmed
  | .fail => .rest

theorem upsRestartCmd_safe : Safe rebootSpec (fun result after => after = afterRestart result)
    .asked (upsRestartCmd unit) := by
  apply (writeRegistersToDevice_safe .restart).bind
  rintro result _ rfl
  cases result with
  | fail => rfl
  | ok =>
      rw [if_pos ⟨rfl, rfl⟩]
      apply Safe.bind_iff.mpr
      apply readDeviceValue_safe
      · rfl
      · intro readValue
        have verified := restartVerified_eq readValue (by decide)
        by_cases clear : readValue ⟨0, by decide⟩ &&& 0x2000 = 0
        · rw [decide_eq_true clear] at verified
          rw [rebootStep, verified]
          simp only
          rw [if_pos clear]
          rfl
        · rw [decide_eq_false clear] at verified
          rw [rebootStep, verified]
          simp only
          rw [if_neg clear]
          rfl

theorem upsShutdownCmd_safe : Safe rebootSpec (fun _ after => after = .rest)
    .confirmed (upsShutdownCmd unit) := by
  apply (writeRegistersToDevice_safe .shutdown).bind
  rintro result _ rfl
  rw [if_neg (by simp)]
  cases result with
  | fail => rfl
  | ok =>
      have reads : Between false (readDeviceValue unit devUpsRebootVerifyReg 1) :=
        between_readDeviceValue _ _
      apply reads.endsAtRest.bind
      intro answer
      cases answer with
      | none => rfl
      | some readValue =>
          simp only
          split
          · rfl
          · rfl

theorem upsRunRebootSequence_safe :
    Safe rebootSpec (fun _ stage => stage = .rest) .asked (upsRunRebootSequence unit) := by
  apply upsRestartCmd_safe.bind
  rintro result _ rfl
  cases result with
  | fail => rfl
  | ok => exact upsShutdownCmd_safe.bind fun _ _ rest => rest

theorem upsRunRequests_endsAtRest : EndsAtRest (upsRunRequests unit st) := by
  have inits : Between false (ask .exchangeInit) := uses_ask trivial
  apply (between_onRequest inits between_upsRunInitSequence).endsAtRest.bind
  intro st
  refine ⟨rfl, fun requested _ => ?_⟩
  cases requested with
  | false => rfl
  | true => exact upsRunRebootSequence_safe.bind fun _ _ rest => rest

theorem unitStarts_endsAtRest {phase : UnitPhase} {prog : DaemonProg Home}
    (starts : UnitStarts .ups unit st phase prog) : EndsAtRest prog := by
  have ends (home : Home) : EndsAtRest (pure home) := rfl
  cases starts with
  | init =>
      have connects : Between false (upsInitCallback unit st) :=
        between_initCallback between_upsUnitConnect
      exact connects.endsAtRest.bind fun _ => ends _
  | process =>
      apply EndsAtRest.bind _ fun _ => ends _
      apply upsRunRequests_endsAtRest.bind
      intro st
      apply drainQueue_endsAtRest.bind
      intro _
      split
      · rfl
      · have scans : Between false (readProfileToPool unit true st) :=
          between_readProfileToPool true st
        exact scans.endsAtRest
  | error =>
      have closes : Between false (upsErrorCallback st connectionDisconnected) :=
        between_errorCallback _ _
      exact closes.endsAtRest.bind fun _ => ends _
  | stop => exact ⟨trivial, fun _ _ => rfl⟩

end Programs

section Orders

def orderStep (ordered : Bool) : DaemonEvent → Bool
  | ⟨.message .ups, .rebootUps value⟩ => decide (value.toUInt16 = 1)
  | ⟨.message .ups, .initUps _⟩ => false
  | ⟨.requestReboot _, _⟩ => false
  | _ => ordered

def orderAllows (ordered : Bool) : DaemonOp → Prop
  | .requestReboot target => ordered = true ∧ target.index = 0
  | _ => True

def orderSpec : Protocol daemonSig Bool where
  allow := orderAllows
  rely := fun _ _ _ => True
  next := fun ordered operation answer => orderStep ordered ⟨operation, answer⟩
  enter := fun _ _ => True
  leave := fun _ _ _ _ => True

variable {daemon : Daemon}

/-- The primary unit is the first one. -/
theorem primary_first {kind : DeviceKind} {target : UnitId}
    (found : (daemon.primaryUid kind).bind (daemon.unitFromUid kind) = some target) :
    target.index = 0 := by
  rcases Option.bind_eq_some_iff.mp found with ⟨uid, primary, search⟩
  rcases Option.map_eq_some_iff.mp primary with ⟨unit, head, rfl⟩
  rcases Option.map_eq_some_iff.mp search with ⟨index, here, rfl⟩
  cases units : daemon.units kind with
  | nil =>
      rw [units] at head
      cases head
  | cons first rest =>
      rw [units] at head here
      cases head
      rw [List.findIdx?_cons, decide_eq_true rfl] at here
      exact (Option.some.inj here).symm

theorem upsDispatch_orderSafe (command : UpsCommand) (ordered : Bool) :
    Safe orderSpec (fun _ _ => True) (orderStep ordered ⟨.message .ups, command⟩)
      (daemon.upsDispatch command) := by
  cases command with
  | initUps value =>
      simp only [Daemon.upsDispatch, Daemon.onInitUpsCmd, Daemon.onRequestCmd]
      split
      · trivial
      · split
        · trivial
        · exact ⟨trivial, fun _ _ => trivial⟩
  | rebootUps value =>
      simp only [Daemon.upsDispatch, Daemon.onRebootUpsCmd, Daemon.onRequestCmd]
      split
      · trivial
      · rename_i one
        split
        · trivial
        · rename_i target found
          exact ⟨⟨decide_eq_true (not_not.mp one), primary_first found⟩, fun _ _ => trivial⟩

def raisesNone : DaemonOp → Prop
  | .requestReboot _ => False
  | _ => True

theorem reachable_raises {c : DaemonConfig} (reached : daemon.Reachable c) {t : ThreadId}
    (other : t ≠ .subscriber .ups) {event : DaemonEvent} (member : (t, event) ∈ c.history) :
    raisesNone event.1 := by
  apply reached.uses _ event member
  constructor
  · intro operation allowed
    cases operation with
    | requestReboot target => exact allowed.elim
    | _ => trivial
  · intro operation watches
    cases operation with
    | requestReboot target => exact watches.elim
    | _ => trivial
  · exact fun _ => trivial
  · exact fun _ => Daemon.inverterDispatch_uses (fun _ => trivial) (fun _ => trivial)
      fun _ _ _ => trivial
  · exact fun same => absurd same other

end Orders

section History

def rebootStage (id : UnitId) (history : History) : RebootStage :=
  rebootSpec.ghost .rest (.unit id) history

def rebootOrdered (history : History) : Bool :=
  orderSpec.ghost false (.subscriber .ups) history

def isOrder : ThreadId × DaemonEvent → Bool
  | (.subscriber .ups, ⟨.message .ups, .rebootUps value⟩) => decide (value.toUInt16 = 1)
  | _ => false

def isRaise (id : UnitId) : ThreadId × DaemonEvent → Bool
  | (_, ⟨.requestReboot target, _⟩) => decide (target = id)
  | _ => false

def isTaken (id : UnitId) : ThreadId × DaemonEvent → Bool
  | (t, ⟨.exchangeReboot, requested⟩) => decide (t = .unit id) && requested
  | _ => false

def isBlock (id : UnitId) (addr : Reg) : ThreadId × DaemonEvent → Bool
  | (t, ⟨.writeMultiple _ written _, _⟩) => decide (t = .unit id) && decide (written = addr)
  | _ => false

variable {daemon : Daemon} {c : DaemonConfig} {id : UnitId} {history older : History}

theorem isOrder_other {t : ThreadId} {event : DaemonEvent} (other : t ≠ .subscriber .ups) :
    isOrder (t, event) = false := by
  unfold isOrder
  split
  · rename_i same
    exact absurd (Prod.ext_iff.mp same).1 other
  · rfl

theorem isRaise_none {t : ThreadId} {event : DaemonEvent} (quiet : raisesNone event.1) :
    isRaise id (t, event) = false := by
  rcases event with ⟨operation, answer⟩
  cases operation with
  | requestReboot target => exact False.elim quiet
  | _ => rfl

/-- Every flag raised was ordered, and an order raises one flag. -/
theorem raises_ordered
    (raises : ∀ t event, (t, event) ∈ history → t ≠ .subscriber .ups → raisesNone event.1)
    (kept : orderSpec.Kept false (.subscriber .ups) history) :
    history.countP (isRaise id) + (rebootOrdered history).toNat ≤ history.countP isOrder ∧
      (id.index ≠ 0 → history.countP (isRaise id) = 0) := by
  induction history with
  | nil => simp [rebootOrdered]
  | cons entry older ih =>
      rcases entry with ⟨t, operation, answer⟩
      have quieter := fun t event member => raises t event (List.mem_cons_of_mem _ member)
      have earlier := ih quieter kept.2
      rw [List.countP_cons, List.countP_cons]
      by_cases own : t = .subscriber .ups
      · subst own
        have ordered : rebootOrdered ((.subscriber .ups, ⟨operation, answer⟩) :: older) =
            orderStep (rebootOrdered older) ⟨operation, answer⟩ := Protocol.ghost_self _ _ _ _ _ _
        have allowed : orderAllows (rebootOrdered older) operation := kept.1 rfl
        rw [ordered]
        cases operation with
        | requestReboot target =>
            rcases allowed with ⟨flag, first⟩
            rw [flag] at earlier
            by_cases here : target = id
            · subst here
              simpa [isRaise, isOrder, orderStep, first] using earlier.1
            · simp only [isRaise, isOrder, orderStep, here, decide_false, Bool.false_eq_true,
                if_false, Bool.toNat_false, Nat.add_zero]
              exact ⟨Nat.le_of_add_right_le earlier.1, earlier.2⟩
        | message kind =>
            cases kind with
            | inverter => exact earlier
            | ups =>
                have counted := Nat.le_of_add_right_le earlier.1
                cases answer with
                | initUps value => exact ⟨counted, earlier.2⟩
                | rebootUps value =>
                    refine ⟨?_, earlier.2⟩
                    simp only [isRaise, isOrder, orderStep, Bool.false_eq_true, if_false]
                    by_cases one : value.toUInt16 = 1
                    · simpa [one] using counted
                    · simpa [one] using counted
        | _ => exact earlier
      · have quiet : raisesNone operation := raises t _ List.mem_cons_self own
        have ordered : rebootOrdered ((t, ⟨operation, answer⟩) :: older) = rebootOrdered older :=
          Protocol.ghost_other _ _ _ _ own
        rw [ordered, isOrder_other own, isRaise_none quiet]
        exact earlier

theorem taken_raised (answered : RequestsAnswered history) :
    history.countP (isTaken id) + ((requestsOf history).rebootRequested id).toNat ≤
      history.countP (isRaise id) := by
  induction history with
  | nil => simp [requestsOf, noRequests]
  | cons entry older ih =>
      rcases entry with ⟨t, operation, answer⟩
      have earlier := ih answered.2
      have answers := answered.1
      have step := requestStep_reboot id t (requestsOf older) operation
      rw [List.countP_cons, List.countP_cons, requestsOf]
      generalize (requestStep t (requestsOf older) operation).rebootRequested id = after at step
      cases step with
      | raise =>
          have small := Bool.toNat_le ((requestsOf older).rebootRequested id)
          simp only [isTaken, isRaise, decide_true, Bool.false_eq_true, if_false, if_true,
            Bool.toNat_true]
          omega
      | take own =>
          have flag : answer = (requestsOf older).rebootRequested id := answers id own
          simp only [isTaken, isRaise, own, decide_true, Bool.true_and, Bool.false_eq_true,
            if_false, Bool.toNat_false, flag]
          cases taken : (requestsOf older).rebootRequested id <;> simpa [taken] using earlier
      | other raises takes =>
          have untaken : isTaken id (t, ⟨operation, answer⟩) = false := by
            cases operation with
            | exchangeReboot =>
                have apart : t ≠ .unit id := fun own => takes own rfl
                simp [isTaken, apart]
            | _ => rfl
          have unraised : isRaise id (t, ⟨operation, answer⟩) = false := by
            cases operation with
            | requestReboot target => simpa [isRaise] using raises
            | _ => rfl
          rw [untaken, unraised]
          exact earlier

def RebootStage.restartDue : RebootStage → Nat
  | .asked => 1
  | _ => 0

def RebootStage.shutdownDue : RebootStage → Nat
  | .restarted | .confirmed => 1
  | _ => 0

theorem rebootStep_read (stage : RebootStage) {line : Option CStr} {addr count : Reg}
    (answer : Option (Fin count.toNat → Reg)) :
    (rebootStep stage ⟨.readHolding line addr count, answer⟩).restartDue = 0 ∧
      (rebootStep stage ⟨.readHolding line addr count, answer⟩).shutdownDue ≤
        stage.shutdownDue := by
  cases answer with
  | none => exact ⟨rfl, Nat.zero_le _⟩
  | some values =>
      simp only [rebootStep]
      split
      · rename_i verified
        rw [verified.1]
        exact ⟨rfl, Nat.le_refl _⟩
      · exact ⟨rfl, Nat.zero_le _⟩

/-- A reboot restarts once and shuts down at most once. -/
theorem blocks_taken (kept : rebootSpec.Kept .rest (.unit id) history) :
    history.countP (isBlock id devUpsRestartReg) + (rebootStage id history).restartDue ≤
        history.countP (isTaken id) ∧
      history.countP (isBlock id devUpsShutdownReg) + (rebootStage id history).shutdownDue ≤
        history.countP (isBlock id devUpsRestartReg) := by
  induction history with
  | nil => exact ⟨Nat.le_refl 0, Nat.le_refl 0⟩
  | cons entry older ih =>
      rcases entry with ⟨t, operation, answer⟩
      have earlier := ih kept.2
      rw [List.countP_cons, List.countP_cons, List.countP_cons]
      by_cases own : t = .unit id
      · subst own
        have stage : rebootStage id ((.unit id, ⟨operation, answer⟩) :: older) =
            rebootStep (rebootStage id older) ⟨operation, answer⟩ := Protocol.ghost_self _ _ _ _ _ _
        have allowed : rebootAllows (rebootStage id older) operation := kept.1 rfl
        rw [stage]
        generalize rebootStage id older = before at earlier allowed
        cases operation with
        | writeMultiple line addr values =>
            cases allowed with
            | restart =>
                cases answer with
                | ok =>
                    simp [isBlock, isTaken, rebootStep, RebootStage.restartDue,
                      RebootStage.shutdownDue, devUpsRestartReg, devUpsShutdownReg] at earlier ⊢
                    omega
                | fail =>
                    simp [isBlock, isTaken, rebootStep, RebootStage.restartDue,
                      RebootStage.shutdownDue, devUpsRestartReg, devUpsShutdownReg] at earlier ⊢
                    omega
            | shutdown =>
                simp [isBlock, isTaken, rebootStep, RebootStage.restartDue,
                  RebootStage.shutdownDue, devUpsRestartReg, devUpsShutdownReg] at earlier ⊢
                omega
        | exchangeReboot =>
            have rest : before = .rest := allowed
            subst rest
            cases answer with
            | true =>
                simp [isBlock, isTaken, rebootStep, RebootStage.restartDue,
                  RebootStage.shutdownDue] at earlier ⊢
                omega
            | false => simpa [isBlock, isTaken, rebootStep] using earlier
        | readHolding line addr count =>
            rcases rebootStep_read before answer with ⟨unread, less⟩
            refine ⟨?_, (Nat.add_le_add_left less _).trans earlier.2⟩
            rw [unread]
            exact (Nat.le_add_right _ _).trans earlier.1
        | _ => exact earlier
      · have stage : rebootStage id ((t, ⟨operation, answer⟩) :: older) = rebootStage id older :=
          Protocol.ghost_other _ _ _ _ own
        have untaken : isTaken id (t, ⟨operation, answer⟩) = false := by
          cases operation with
          | exchangeReboot => simp [isTaken, own]
          | _ => rfl
        have unwritten (addr : Reg) : isBlock id addr (t, ⟨operation, answer⟩) = false := by
          cases operation with
          | writeMultiple line written values => simp [isBlock, own]
          | _ => rfl
        rw [stage, untaken, unwritten, unwritten]
        exact earlier

theorem upsQueue_empty (ups : id.kind = .ups)
    (pushes : ∀ entry ∈ history, pushesSingle entry.2.1) :
    ((requestsOf history).queue id).count = 0 := by
  induction history with
  | nil => rfl
  | cons entry older ih =>
      rcases entry with ⟨t, operation, answer⟩
      have empty := ih fun entry member => pushes entry (List.mem_cons_of_mem _ member)
      have here := pushes _ List.mem_cons_self
      have step := requestStep_queue id t (requestsOf older) operation
      rw [requestsOf]
      generalize (requestStep t (requestsOf older) operation).queue id = next at step
      cases step with
      | push cmd =>
          have inverter : id.kind = .inverter := here.1
          rw [ups] at inverter
          cases inverter
      | pop => rw [CmdQueue.pop, if_pos empty, empty]
      | other => exact empty

theorem ups_trusted (ups : id.kind = .ups) (pushes : ∀ entry ∈ history, pushesSingle entry.2.1)
    (answered : RequestsAnswered history) : rebootSpec.Trusted .rest (.unit id) history := by
  induction history with
  | nil => trivial
  | cons entry older ih =>
      rcases entry with ⟨t, operation, answer⟩
      have earlier := fun entry member => pushes entry (List.mem_cons_of_mem _ member)
      refine ⟨?_, ih earlier answered.2⟩
      rintro rfl
      cases operation with
      | queuePop =>
          have popped := answered.1 id rfl
          rw [CmdQueue.pop, if_pos (upsQueue_empty ups earlier)] at popped
          exact popped
      | _ => trivial

theorem reachable_rebootKept (ups : id.kind = .ups) (reached : daemon.Reachable c) :
    rebootSpec.Kept .rest (.unit id) c.history := by
  have resumes (choice : Choice) (home : Home) (prog : DaemonProg Home)
      (resumed : daemon.system.resume (.unit id) choice home = some prog) :
      ∀ stage, stage = .rest → Safe rebootSpec (fun _ stage => stage = .rest) stage prog := by
    rintro _ rfl
    cases Daemon.resume_cases resumed with
    | unit present starts =>
        rw [ups] at starts
        exact unitStarts_endsAtRest starts
  have starts : SafeThread rebootSpec .rest (fun _ stage => stage = .rest) (.unit id)
      daemon.start := rfl
  have trusted : rebootSpec.Trusted .rest (.unit id) c.history :=
    ups_trusted ups (reachable_pushes reached) (reachable_requests reached).2
  exact (System.Reaches.guarantee (fun _ _ => False.elim) resumes rfl starts reached trusted).2

theorem reachable_orderKept (reached : daemon.Reachable c) :
    orderSpec.Kept false (.subscriber .ups) c.history := by
  have resumes (choice : Choice) (home : Home) (prog : DaemonProg Home)
      (resumed : daemon.system.resume (.subscriber .ups) choice home = some prog) :
      ∀ ordered, True → Safe orderSpec (fun _ _ => True) ordered prog := by
    intro ordered _
    cases Daemon.resume_cases resumed with
    | message =>
        exact ⟨trivial, fun command _ => (upsDispatch_orderSafe command ordered).bind
          fun _ _ _ => trivial⟩
  have starts : SafeThread orderSpec false (fun _ _ => True) (.subscriber .ups)
      daemon.start := trivial
  have verified : orderSpec.Verifies daemonCode := by
    intro loop ordered _
    apply Uses.safe_any (Footprint.stays_code (f := anyFootprint) loop)
    · intro ordered operation allowed
      cases operation with
      | requestReboot target => exact allowed.elim
      | _ => trivial
    · exact fun _ _ _ => trivial
  exact (System.Reaches.guarantee verified resumes rfl starts reached
    (Protocol.Trusted.of_forall (fun _ _ _ => trivial) _)).2

structure RebootsSound (id : UnitId) (history : History) : Prop where
  /-- A block write is the restart of a request just taken, or the shutdown behind a restart that
  was written and then read back with its bit. -/
  ordered : ∀ newer older line addr values result,
    history = newer ++ (.unit id, ⟨.writeMultiple line addr values, result⟩) :: older →
      RebootWrite (rebootStage id older) addr values
  blocks : ∀ newer older line addr value result,
    history ≠ newer ++ (.unit id, ⟨.writeSingle line addr value, result⟩) :: older
  shutdowns : history.countP (isBlock id devUpsShutdownReg) ≤
    history.countP (isBlock id devUpsRestartReg)
  restarts : history.countP (isBlock id devUpsRestartReg) ≤ history.countP isOrder
  primary : id.index ≠ 0 → history.countP (isBlock id devUpsRestartReg) = 0

/-- In every run a UPS gets nothing but reboots: each is ordered by a message of its own, is for
the primary unit, and shuts down only what has shown that it will restart. -/
theorem reboots_sound (reached : daemon.Reachable c) (ups : id.kind = .ups) :
    RebootsSound id c.history := by
  have kept := reachable_rebootKept ups reached
  rcases blocks_taken kept with ⟨restarts, shutdowns⟩
  have taken := @taken_raised id c.history (reachable_requests reached).2
  have raises := fun t event member other => @reachable_raises daemon c reached t other event member
  rcases @raises_ordered id c.history raises (reachable_orderKept reached) with ⟨ordered, primary⟩
  refine ⟨?_, ?_, by omega, by omega, fun other => ?_⟩
  · intro newer older line addr values result split
    rw [split] at kept
    exact kept.allowed
  · intro newer older line addr value result split
    rw [split] at kept
    exact kept.allowed
  · have unwritten := primary other
    omega

def loneUps : Daemon where
  inverters := []
  ups := [⟨⟨1, .tcp⟩, ups1Profile⟩]
  alarms := []

/-- A reboot from the message to the shutdown. -/
theorem reboots_sound_ordered : ∃ c, loneUps.Reachable c ∧
    c.history.countP (isBlock ⟨.ups, 0⟩ devUpsShutdownReg) = 1 ∧
    RebootsSound ⟨.ups, 0⟩ c.history := by
  rcases System.reaches_of_check loneUps.system loneUps.start
    ([(ThreadId.subscriber .ups, Choice.go), (.subscriber .ups, .upsMessage (.rebootUps 1)),
        (.subscriber .ups, .go)] ++
      [Choice.go, .connected .ok, .go, .go, .go, .go, .go, .wrote .ok, .go,
        .answer (some [0x2000]), .go, .wrote .ok].map fun choice => (.unit ⟨.ups, 0⟩, choice))
    (fun c => c.history.countP (isBlock ⟨.ups, 0⟩ devUpsShutdownReg) = 1)
    (by decide +kernel) with ⟨c, reached, shutdown⟩
  exact ⟨c, reached, of_decide_eq_true shutdown, reboots_sound reached rfl⟩

end History

end Rs485Gateway
