import Rs485Gateway.Bridge.CommandRoutes
import Rs485Gateway.Daemon.CommandFlow
import Rs485Gateway.Daemon.PairedWrites

namespace Rs485Gateway

open Interaction Rs485Gateway.Lists

namespace InverterCommand

def registers : InverterCommand → List Reg
  | operation _ => [devOperationCmdReg]
  | frequencyWrite _ | mainPump _ => [devFrequencyCmdReg, devOperationCmdReg]
  | faultControl _ | bypass _ => [devFaultControlCmdReg]
  | initInverter _ => []

/-- The values it may give them; a pump duty becomes its frequency under the limits it finds. -/
def orders : InverterCommand → Reg → Reg → Prop
  | operation value, _, val => val = value.toUInt16
  | frequencyWrite value, addr, val =>
      if addr = devFrequencyCmdReg then val = value.toUInt16
      else val = if value.toUInt16 = 0 then Daemon.stopOperation else Daemon.runOperation
  | faultControl value, _, val => val = value.toUInt16
  | mainPump duty, addr, val =>
      if addr = devFrequencyCmdReg then ∃ upper lower, val = pumpFrequency duty upper lower
      else val = if duty = 0 then Daemon.stopOperation else Daemon.runOperation
  | initInverter _, _, _ => False
  | bypass value, _, val => val = if value.toUInt16 = 1 then inverterFireModeBit else inverterEfBit

theorem registers_nodup (command : InverterCommand) : command.registers.Nodup := by
  cases command <;> simp only [registers] <;> decide

end InverterCommand

structure Handling where
  command : Option InverterCommand
  left : List Reg

def noHandling : Handling := ⟨none, []⟩

def handlingStep (g : Handling) : DaemonEvent → Handling
  | ⟨.message .inverter, command⟩ => ⟨some command, command.registers⟩
  | ⟨.queuePush _ cmd, _⟩ => { g with left := g.left.erase cmd.addr }
  | _ => g

def handlingAllows (g : Handling) : DaemonOp → Prop
  | .queuePush target cmd => target = primaryInverter ∧ cmd.addr ∈ g.left ∧
      ∃ command val, g.command = some command ∧ cmd = ⟨cmd.addr, [val], .auto⟩ ∧
        cmd.addr ∈ command.registers ∧ command.orders cmd.addr val
  | _ => True

def handlingSpec : Protocol daemonSig Handling where
  allow := handlingAllows
  rely := fun _ _ _ => True
  next := fun g operation answer => handlingStep g ⟨operation, answer⟩
  enter := fun _ _ => True
  leave := fun _ _ _ _ => True

section Handlers

variable {daemon : Daemon} {command : InverterCommand} {uid : UInt8} {g : Handling}
  {addr val frequency operation : Reg}

theorem unitFromUid_primary {kind : DeviceKind} (primary : daemon.primaryUid kind = some uid) :
    daemon.unitFromUid kind uid = some ⟨kind, 0⟩ := by
  rcases Option.map_eq_some_iff.mp primary with ⟨unit, head, rfl⟩
  rcases List.head?_eq_some_iff.mp head with ⟨rest, running⟩
  exact primary_target kind running

theorem onWrite_handling (primary : daemon.primaryUid .inverter = some uid)
    (handled : g.command = some command) (unwritten : addr ∈ g.left)
    (own : addr ∈ command.registers) (ordered : command.orders addr val) :
    Safe handlingSpec
      (fun _ after => after.command = some command ∧ ∀ other ∈ g.left, other ≠ addr →
        other ∈ after.left) g (daemon.onWrite uid addr val) := by
  have stays : g.command = some command ∧ ∀ other ∈ g.left, other ≠ addr → other ∈ g.left :=
    ⟨handled, fun other member _ => member⟩
  unfold Daemon.onWrite
  split
  · exact stays
  · split
    · exact stays
    · unfold Daemon.inverterCmdPush
      rw [unitFromUid_primary primary]
      split
      · exact stays
      · refine ⟨⟨rfl, unwritten, command, val, handled, rfl, own, ordered⟩, fun accepted _ => ?_⟩
        refine ⟨handled, fun other member differs => ?_⟩
        exact (List.mem_erase_of_ne differs).mpr member

theorem queueFrequency_handling (primary : daemon.primaryUid .inverter = some uid)
    (writes : command.registers = [devFrequencyCmdReg, devOperationCmdReg])
    (first : command.orders devFrequencyCmdReg frequency)
    (second : command.orders devOperationCmdReg operation) :
    Safe handlingSpec (fun _ _ => True) ⟨some command, command.registers⟩
      (daemon.queueFrequency uid frequency operation) := by
  have opened : devFrequencyCmdReg ∈ command.registers := by simp [writes]
  have later : devOperationCmdReg ∈ command.registers := by simp [writes]
  apply (onWrite_handling primary rfl opened opened first).bind
  rintro result after ⟨same, left⟩
  cases result with
  | fail => trivial
  | ok =>
      apply (onWrite_handling primary same (left _ later (by decide)) later second).bind
      exact fun _ _ _ => trivial

theorem inverterDispatch_handling (command : InverterCommand) :
    Safe handlingSpec (fun _ _ => True) ⟨some command, command.registers⟩
      (daemon.inverterDispatch command) := by
  cases command with
  | operation value =>
      simp only [Daemon.inverterDispatch, Daemon.onOperationCmd]
      split
      · trivial
      · rename_i uid primary
        have opened : devOperationCmdReg ∈ (InverterCommand.operation value).registers := by
          simp [InverterCommand.registers]
        exact (onWrite_handling primary rfl opened opened rfl).bind fun _ _ _ => trivial
  | frequencyWrite value =>
      simp only [Daemon.inverterDispatch, Daemon.onFrequencyWriteCmd]
      split
      · trivial
      · rename_i uid primary
        split
        · rename_i zero
          exact queueFrequency_handling primary rfl rfl (by
            rw [InverterCommand.orders, if_neg (by decide), if_pos zero])
        · rename_i running
          exact queueFrequency_handling primary rfl rfl (by
            rw [InverterCommand.orders, if_neg (by decide), if_neg running])
  | faultControl value =>
      simp only [Daemon.inverterDispatch, Daemon.onFaultControlCmd]
      split
      · trivial
      · rename_i uid primary
        have opened : devFaultControlCmdReg ∈ (InverterCommand.faultControl value).registers := by
          simp [InverterCommand.registers]
        exact (onWrite_handling primary rfl opened opened rfl).bind fun _ _ _ => trivial
  | mainPump duty =>
      refine ⟨trivial, fun upper _ => ⟨trivial, fun lower _ => ?_⟩⟩
      simp only [Prog.pure_eq, Prog.ret_bind]
      split
      · trivial
      · rename_i uid primary
        split
        · rename_i zero
          apply queueFrequency_handling primary rfl
          · exact ⟨0, 0, by rw [pumpFrequency, if_pos zero]⟩
          · rw [InverterCommand.orders, if_neg (by decide), if_pos zero]
        · rename_i running
          apply queueFrequency_handling primary rfl
          · exact ⟨_, _, by rw [pumpFrequency, if_neg running]⟩
          · rw [InverterCommand.orders, if_neg (by decide), if_neg running]
  | initInverter value =>
      have requests : Uses (fun operation : DaemonOp =>
          ∃ index, operation = .requestInit ⟨.inverter, index⟩) (fun _ => False)
          (daemon.onInitInverterCmd value) :=
        Daemon.onRequestCmd_uses .inverter fun _ index => uses_ask ⟨index, rfl⟩
      apply requests.safe_any
      · rintro g _ ⟨index, rfl⟩
        trivial
      · exact fun _ _ => False.elim
  | bypass value =>
      simp only [Daemon.inverterDispatch, Daemon.onBypassCmd]
      split
      · trivial
      · rename_i uid primary
        have opened : devFaultControlCmdReg ∈ (InverterCommand.bypass value).registers := by
          simp [InverterCommand.registers]
        exact (onWrite_handling primary rfl opened opened rfl).bind fun _ _ _ => trivial

end Handlers

section History

def handling (history : History) : Handling :=
  handlingSpec.ghost noHandling (.subscriber .inverter) history

def heardCommands : History → List InverterCommand
  | [] => []
  | (t, event) :: older =>
      heardCommands older ++
        (if t = .subscriber .inverter then received? event else none).toList

def writesRegister (addr : Reg) (command : InverterCommand) : Bool := addr ∈ command.registers

def isPush (addr : Reg) (entry : ThreadId × DaemonEvent) : Bool :=
  match entry.2.1 with
  | .queuePush _ cmd => cmd.addr = addr
  | _ => false

def noPush : DaemonOp → Prop
  | .queuePush _ _ => False
  | _ => True

def pushedBy (entry : ThreadId × DaemonEvent) : Prop :=
  ∀ target cmd, entry.2.1 = .queuePush target cmd → entry.1 = .subscriber .inverter

variable {t : ThreadId} {history older : History} {event : DaemonEvent} {addr : Reg}

@[simp] theorem handling_self :
    handling ((.subscriber .inverter, event) :: older) = handlingStep (handling older) event :=
  Protocol.ghost_self _ _ _ _ _ _

theorem handling_other (other : t ≠ .subscriber .inverter) :
    handling ((t, event) :: older) = handling older :=
  Protocol.ghost_other _ _ _ _ other

theorem heardCommands_other (other : t ≠ .subscriber .inverter) :
    heardCommands ((t, event) :: older) = heardCommands older := by
  rw [heardCommands, if_neg other]
  exact List.append_nil _

theorem handling_heard {command : InverterCommand}
    (handled : (handling history).command = some command) : command ∈ heardCommands history := by
  induction history with
  | nil => cases handled
  | cons entry older ih =>
      rcases entry with ⟨t, operation, answer⟩
      rw [heardCommands, List.mem_append]
      by_cases own : t = .subscriber .inverter
      · subst own
        rw [handling_self] at handled
        cases operation with
        | message kind =>
            cases kind with
            | inverter =>
                cases handled
                exact .inr (by simp [received?])
            | ups => exact .inl (ih handled)
        | queuePush target cmd => exact .inl (ih handled)
        | _ => exact .inl (ih handled)
      · rw [handling_other own] at handled
        exact .inl (ih handled)

/-- The run lemma: every push of a register, and every one its command still has to make, is
there for a command that writes the register. -/
theorem pushes_counted (pushers : ∀ entry ∈ history, pushedBy entry)
    (kept : handlingSpec.Kept noHandling (.subscriber .inverter) history) :
    history.countP (isPush addr) + (handling history).left.count addr ≤
      (heardCommands history).countP (writesRegister addr) := by
  induction history with
  | nil => exact le_rfl
  | cons entry older ih =>
      rcases entry with ⟨t, operation, answer⟩
      have before := ih (fun entry member => pushers entry (List.mem_cons_of_mem _ member)) kept.2
      have mine := pushers _ List.mem_cons_self
      by_cases own : t = .subscriber .inverter
      · subst own
        have allowed : handlingAllows (handling older) operation := kept.1 rfl
        rw [handling_self, heardCommands, if_pos rfl, List.countP_append, List.countP_cons]
        generalize handling older = g at before allowed
        cases operation with
        | message kind =>
            cases kind with
            | inverter =>
                have once := List.nodup_iff_count_le_one.mp answer.registers_nodup addr
                have counted : (handlingStep g ⟨.message .inverter, answer⟩).left.count addr ≤
                    (received? ⟨.message .inverter, answer⟩).toList.countP
                      (writesRegister addr) := by
                  simp only [handlingStep, received?, Option.toList_some, List.countP_singleton,
                    writesRegister, decide_eq_true_eq]
                  split
                  · exact once
                  · rename_i absent
                    rw [List.count_eq_zero_of_not_mem absent]
                simp only [isPush, Bool.false_eq_true, if_false]
                omega
            | ups => exact before
        | queuePush target cmd =>
            simp only [isPush, handlingStep, received?, Option.toList_none, List.countP_nil,
              decide_eq_true_eq]
            by_cases same : cmd.addr = addr
            · have there : 0 < g.left.count addr := by
                rw [← same]
                exact List.count_pos_iff.mpr allowed.2.1
              rw [if_pos same, same, List.count_erase_self]
              omega
            · rw [if_neg same, List.count_erase_of_ne (Ne.symm same)]
              omega
        | _ => exact before
      · have silent : isPush addr (t, ⟨operation, answer⟩) = false := by
          cases operation with
          | queuePush target cmd => exact absurd (mine target cmd rfl) own
          | _ => rfl
        rw [handling_other own, heardCommands_other own, List.countP_cons_of_neg (by simp [silent])]
        exact before

theorem push_ordered {target : UnitId} {cmd : WriteCmd} {accepted : Bool}
    (pushers : ∀ entry ∈ history, pushedBy entry)
    (kept : handlingSpec.Kept noHandling (.subscriber .inverter) history)
    (member : (t, ⟨.queuePush target cmd, accepted⟩) ∈ history) :
    target = primaryInverter ∧ ∃ command ∈ heardCommands history, ∃ val,
      cmd = ⟨cmd.addr, [val], .auto⟩ ∧ cmd.addr ∈ command.registers ∧
        command.orders cmd.addr val := by
  have by_subscriber : t = .subscriber .inverter := pushers _ member target cmd rfl
  subst by_subscriber
  rcases List.append_of_mem member with ⟨newer, older, split⟩
  rw [split] at kept
  rcases kept.allowed with ⟨primary, -, command, val, handled, single, own, ordered⟩
  refine ⟨primary, command, ?_, val, single, own, ordered⟩
  have heard : command ∈ heardCommands older := handling_heard handled
  rw [split]
  clear split kept
  induction newer with
  | nil =>
      rw [List.nil_append, heardCommands]
      exact List.mem_append_left _ heard
  | cons entry newer ih =>
      rw [List.cons_append, heardCommands]
      exact List.mem_append_left _ ih

end History

section Accepted

variable {id : UnitId} {history : History} {cmd : WriteCmd} {addr : Reg}

theorem accepted_push (accepted : cmd ∈ acceptedCommands id history) :
    ∃ t, (t, ⟨.queuePush id cmd, true⟩) ∈ history := by
  induction history with
  | nil => cases accepted
  | cons entry older ih =>
      rcases entry with ⟨t, operation, answer⟩
      rcases List.mem_append.mp accepted with earlier | here
      · rcases ih earlier with ⟨u, member⟩
        exact ⟨u, List.mem_cons_of_mem _ member⟩
      · cases operation with
        | queuePush target pushed =>
            simp only [acceptedBy] at here
            split at here
            · rename_i both
              rcases both with ⟨rfl, rfl⟩
              rcases List.mem_singleton.mp here with rfl
              exact ⟨t, List.mem_cons_self⟩
            · cases here
        | _ => cases here

theorem accepted_counted (id : UnitId) (history : History) (addr : Reg) :
    (acceptedCommands id history).countP (fun cmd => cmd.addr = addr) ≤
      history.countP (isPush addr) := by
  induction history with
  | nil => exact le_rfl
  | cons entry older ih =>
      rcases entry with ⟨t, operation, answer⟩
      rw [acceptedCommands, List.countP_append, List.countP_cons]
      apply Nat.add_le_add ih
      cases operation with
      | queuePush target pushed =>
          simp only [acceptedBy, isPush]
          split
          · exact le_of_eq List.countP_singleton
          · exact Nat.zero_le _
      | _ => exact Nat.zero_le _

theorem plainWrites_counted {cmds : List WriteCmd} (single : ∀ cmd ∈ cmds, cmd.Single)
    (addr : Reg) : (plainWrites cmds).countP (fun write => write.1 = addr) =
      cmds.countP fun cmd => cmd.addr = addr := by
  induction cmds with
  | nil => rfl
  | cons cmd rest ih =>
      have here := (single cmd List.mem_cons_self).writes_eq
      have later := ih fun next member => single next (List.mem_cons_of_mem _ member)
      rw [plainWrites_cons, List.countP_append, later, here, List.countP_singleton,
        List.countP_cons, Nat.add_comm]

end Accepted

section Reachable

variable {daemon : Daemon} {c : DaemonConfig} {id : UnitId} {addr val : Reg}

theorem reachable_pushers (reached : daemon.Reachable c) : ∀ entry ∈ c.history, pushedBy entry := by
  rintro ⟨t, operation, answer⟩ member target cmd rfl
  by_contra other
  have room : Daemon.ThreadAllows daemon t noPush := by
    constructor
    · intro operation allowed
      cases operation with
      | queuePush target cmd => exact allowed
      | _ => trivial
    · intro operation watches
      cases operation with
      | queuePush target cmd => exact watches
      | _ => trivial
    · exact fun _ => trivial
    · exact fun same => absurd same other
    · exact fun _ => Daemon.upsDispatch_uses (fun _ => trivial) fun _ => trivial
  exact reached.uses room _ member

theorem reachable_handlingKept (reached : daemon.Reachable c) :
    handlingSpec.Kept noHandling (.subscriber .inverter) c.history := by
  have resumes (choice : Choice) (home : Home) (prog : DaemonProg Home)
      (resumed : daemon.system.resume (.subscriber .inverter) choice home = some prog) :
      ∀ g, True → Safe handlingSpec (fun _ _ => True) g prog := by
    intro g _
    cases Daemon.resume_cases resumed with
    | message =>
        exact ⟨trivial, fun command _ => (inverterDispatch_handling command).bind
          fun _ _ _ => trivial⟩
  have starts : SafeThread handlingSpec noHandling (fun _ _ => True) (.subscriber .inverter)
      daemon.start := trivial
  have verified : handlingSpec.Verifies daemonCode := by
    intro loop g _
    apply Uses.safe_any (Footprint.stays_code (f := anyFootprint) loop)
    · intro g operation allowed
      cases operation with
      | queuePush target cmd => exact allowed.elim
      | _ => trivial
    · exact fun _ _ _ => trivial
  exact (System.Reaches.guarantee verified resumes rfl starts reached
    (Protocol.Trusted.of_forall (fun _ _ _ => trivial) _)).2

theorem accepted_single (reached : daemon.Reachable c) :
    ∀ cmd ∈ acceptedCommands id c.history, cmd.Single := by
  intro cmd accepted
  rcases accepted_push accepted with ⟨t, member⟩
  exact (reachable_pushes reached _ member).2

theorem drained_accepted (reached : daemon.Reachable c) (id : UnitId) (addr : Reg) :
    (valuesOf addr (drainWrites id c.history)).Sublist
      (valuesOf addr (plainWrites (acceptedCommands id c.history))) := by
  have coalesced := (reachable_coalesced reached id addr).inOrder
  rw [commandWrites, valuesOf_append] at coalesced
  exact (List.sublist_append_left _ _).trans coalesced

theorem drained_ordered (reached : daemon.Reachable c)
    (written : (addr, val) ∈ drainWrites id c.history) :
    id = primaryInverter ∧ ∃ command ∈ heardCommands c.history,
      addr ∈ command.registers ∧ command.orders addr val := by
  have accepted := (drained_accepted reached id addr).subset (mem_valuesOf.mpr written)
  rcases List.mem_flatMap.mp (mem_valuesOf.mp accepted) with ⟨cmd, member, inside⟩
  rcases accepted_push member with ⟨t, pushed⟩
  rcases push_ordered (reachable_pushers reached) (reachable_handlingKept reached) pushed with
    ⟨primary, command, heard, value, single, own, ordered⟩
  rw [(accepted_single reached cmd member).writes_eq, List.mem_singleton] at inside
  cases inside
  rw [single]
  exact ⟨primary, command, heard, own, ordered⟩

theorem drained_counted (reached : daemon.Reachable c) (id : UnitId) (addr : Reg) :
    (drainWrites id c.history).countP (fun write => write.1 = addr) ≤
      (heardCommands c.history).countP (writesRegister addr) := by
  have kept := reachable_handlingKept reached
  calc
    _ = (valuesOf addr (drainWrites id c.history)).length := (valuesOf_countP _ _).symm
    _ ≤ (valuesOf addr (plainWrites (acceptedCommands id c.history))).length :=
      (drained_accepted reached id addr).length_le
    _ = (acceptedCommands id c.history).countP fun cmd => cmd.addr = addr := by
      rw [valuesOf_countP, plainWrites_counted (accepted_single reached)]
    _ ≤ c.history.countP (isPush addr) := accepted_counted _ _ _
    _ ≤ (heardCommands c.history).countP (writesRegister addr) :=
      (Nat.le_add_right _ _).trans (pushes_counted (reachable_pushers reached) kept)

end Reachable

section EndToEnd

variable {daemon : Daemon} {c : DaemonConfig} {d : Delivery} {messages : List Message}
  {history : History}

def callCommand (call : Nat × CStr) : Option InverterCommand :=
  (inverterSubscriptions[call.1]?).bind fun sub => sub.callback call.2

def messageCommand (message : Message) : Option InverterCommand :=
  (route inverterSubscriptions controlOutput message).bind callCommand

/-- The subscriber takes up what its callbacks were given, one after another. -/
def Hears (history : History) (d : Delivery) : Prop :=
  (heardCommands history).map some <+: d.handled.map callCommand

theorem Hears.counted (hears : Hears history d)
    (run : Delivers (subscribed inverterSubscriptions) controlOutput d)
    (sent : Published controlOutput messages d.published) (p : InverterCommand → Bool) :
    (heardCommands history).countP p ≤ messages.countP fun m => (messageCommand m).any p := by
  have parts := calls_subperm inverterSubscriptions_distinct run sent
  have sides := parts.countP_le fun call => (callCommand call).any p
  calc
    _ = ((heardCommands history).map some).countP fun command => command.any p := by
      rw [List.countP_map]
      rfl
    _ ≤ (d.handled.map callCommand).countP fun command => command.any p :=
      hears.sublist.countP_le
    _ = d.handled.countP fun call => (callCommand call).any p := by
      rw [List.countP_map]
      rfl
    _ ≤ _ := sides
    _ = _ := by
      rw [List.countP_filterMap]
      apply List.countP_congr
      intro message _
      cases routed : route inverterSubscriptions controlOutput message <;>
        simp [messageCommand, routed]

structure OrdersSound (messages : List Message) (id : UnitId) (history : History) : Prop where
  ordered : ∀ addr val, (addr, val) ∈ drainWrites id history → id = primaryInverter ∧
    ∃ message ∈ messages, ∃ command, messageCommand message = some command ∧
      addr ∈ command.registers ∧ command.orders addr val
  once : ∀ addr, (drainWrites id history).countP (fun write => write.1 = addr) ≤
    messages.countP fun message => (messageCommand message).any (writesRegister addr)

/-- From the publisher to the device, in every run: what a unit writes for its queue is what some
published message orders, and no message is written more than once to a register. -/
theorem orders_sound (reached : daemon.Reachable c)
    (run : Delivers (subscribed inverterSubscriptions) controlOutput d)
    (sent : Published controlOutput messages d.published) (hears : Hears c.history d)
    (id : UnitId) : OrdersSound messages id c.history where
  ordered addr val written := by
    rcases drained_ordered reached written with ⟨primary, command, heard, own, ordered⟩
    refine ⟨primary, ?_⟩
    have some_heard : 0 < (heardCommands c.history).countP (· = command) :=
      List.countP_pos_iff.mpr ⟨command, heard, by simp⟩
    have published := some_heard.trans_le (hears.counted run sent (· = command))
    rcases List.countP_pos_iff.mp published with ⟨message, member, made⟩
    rcases (Option.any_eq_true _ _).mp made with ⟨other, makes, same⟩
    rw [of_decide_eq_true same] at makes
    exact ⟨message, member, command, makes, own, ordered⟩
  once addr := (drained_counted reached id addr).trans (hears.counted run sent _)

def frequencyOrdered (value : UInt64) : List (ThreadId × Choice) :=
  [(.subscriber .inverter, .go), (.subscriber .inverter, .inverterMessage (.frequencyWrite value)),
    (.subscriber .inverter, .go), (.subscriber .inverter, .go)]

/-- A frequency, then an operation that replaces the one the frequency brought along; the third
order is still under way. -/
theorem orders_sound_orders : ∃ c, Daemon.loneInverter.Reachable c ∧
    drainWrites primaryInverter c.history =
      [(devFrequencyCmdReg, 3000), (devOperationCmdReg, 1)] ∧
    OrdersSound publishedOrders primaryInverter c.history := by
  rcases System.reaches_of_check Daemon.loneInverter.system Daemon.loneInverter.start
    (Daemon.inverterSteps [Choice.go, .connected .ok, .go] ++ frequencyOrdered 3000 ++ orders 1 ++
      Daemon.inverterSteps [Choice.go, .go, .go, .go, .go, .go, .wrote .ok, .go, .go, .wrote .ok])
    (fun c => decide (drainWrites primaryInverter c.history =
        [(devFrequencyCmdReg, 3000), (devOperationCmdReg, 1)]) &&
      decide (heardCommands c.history =
        [InverterCommand.frequencyWrite 3000, InverterCommand.operation 1]))
    (by decide +kernel) with ⟨c, reached, checked⟩
  simp only [Bool.and_eq_true, decide_eq_true_eq] at checked
  have hears : Hears c.history deliveredOrders := by
    rw [Hears, checked.2]
    decide +kernel
  exact ⟨c, reached, checked.1,
    orders_sound reached deliveredOrders_delivers deliveredOrders_published hears primaryInverter⟩

end EndToEnd

end Rs485Gateway
