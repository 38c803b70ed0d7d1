import Rs485Gateway.Daemon.StoredReads
import Rs485Gateway.Device.QueueHistory
import Rs485Gateway.Interaction.Alone

namespace Rs485Gateway

open Interaction

/-- The messages of `on_main_pump_duty_cmd` and `on_frequency_write_cmd`. -/
inductive PairedMessage where
  | mainPump (dutyVal : Reg)
  | frequencyWrite (value : UInt64)

namespace PairedMessage

def command : PairedMessage → InverterCommand
  | .mainPump dutyVal => .mainPump dutyVal
  | .frequencyWrite value => .frequencyWrite value

def frequency (pool : Pool) : PairedMessage → Reg
  | .mainPump dutyVal =>
      if dutyVal = 0 then dutyVal
      else Daemon.dutyFrequency dutyVal (pool intFrequencyUpperLimitReg)
        (pool intFrequencyLowerLimitReg)
  | .frequencyWrite value => value.toUInt16

def operation : PairedMessage → Reg
  | .mainPump dutyVal => if dutyVal = 0 then Daemon.stopOperation else Daemon.runOperation
  | .frequencyWrite value =>
      if value.toUInt16 = 0 then Daemon.stopOperation else Daemon.runOperation

end PairedMessage

def frequencyCmd (value : Reg) : WriteCmd := ⟨devFrequencyCmdReg, [value], .auto⟩

def operationCmd (value : Reg) : WriteCmd := ⟨devOperationCmdReg, [value], .auto⟩

def primaryInverter : UnitId := ⟨.inverter, 0⟩

def Shared.setQueue (s : Shared) (q : CmdQueue) : Shared :=
  { s with queue := assign s.queue primaryInverter q }

@[simp] theorem setQueue_queue (s : Shared) (q : CmdQueue) :
    (s.setQueue q).queue primaryInverter = q := by
  simp [Shared.setQueue]

theorem setQueue_setQueue (s : Shared) (first second : CmdQueue) :
    (s.setQueue first).setQueue second = s.setQueue second := by
  have same : assign (assign s.queue primaryInverter first) primaryInverter second =
      assign s.queue primaryInverter second := by
    funext id
    by_cases here : id = primaryInverter
    · rw [here, assign_self, assign_self]
    · rw [assign_other _ _ here, assign_other _ _ here, assign_other _ _ here]
  rw [Shared.setQueue, Shared.setQueue, Shared.setQueue]
  simp only [same]

/-- The two pushes, the second only behind an accepted first: what they leave of the queue
and how they were answered. -/
def pushPair (q : CmdQueue) (frequency operation : Reg) : CmdQueue × List Bool :=
  let first := q.push inverterQueueMergeAllowed (frequencyCmd frequency)
  if first.2 then
    let second := first.1.push inverterQueueMergeAllowed (operationCmd operation)
    (second.1, [true, second.2])
  else (first.1, [false])

def pushAnswers (events : List DaemonEvent) : List Bool :=
  events.filterMap fun
    | ⟨.queuePush _ _, accepted⟩ => some accepted
    | _ => none

/-- The subscriber thread handles a message while no other thread moves. -/
def handledAlone (daemon : Daemon) (message : PairedMessage) (s : Shared) :
    Option (Shared × List DaemonEvent × Unit) :=
  daemon.system.alone (.subscriber .inverter) .go (daemon.inverterDispatch message.command) s

/-- The handler comes to its end with both writes accepted, or with the queue as it was. -/
def AllOrNothing (daemon : Daemon) (message : PairedMessage) (s : Shared) : Prop :=
  ∃ after events, handledAlone daemon message s = some (after, events, ()) ∧
    (pushAnswers events = [true, true] ∨
      after.queue primaryInverter = s.queue primaryInverter)

/-- No operation is pending, and the frequency takes the last free slot, or changes the
frequency pending in a full queue. -/
structure HalfApplied (q : CmdQueue) (frequency : Reg) : Prop where
  noOperation : q.findPending devOperationCmdReg q.count q.head = none
  noRoom : q.count = 15 ∧ q.findPending devFrequencyCmdReg q.count q.head = none ∨
    q.count = 16 ∧ ∃ idx, q.findPending devFrequencyCmdReg q.count q.head = some idx ∧
      q.entries (CmdQueue.slot idx) ≠ frequencyCmd frequency

section Handler

variable {daemon : Daemon} {unit : DeviceUnit} {rest : List DeviceUnit} {s : Shared}

abbrev subscriberAlone (daemon : Daemon) {α : Type} (prog : DaemonProg α) (s : Shared) :=
  daemon.system.alone (.subscriber .inverter) .go prog s

theorem primary_target (kind : DeviceKind) (running : daemon.units kind = unit :: rest) :
    daemon.unitFromUid kind (UInt8.ofInt unit.cfg.modbusUid) = some ⟨kind, 0⟩ := by
  rw [Daemon.unitFromUid, running, List.findIdx?_cons]
  simp

theorem onWrite_primary (running : daemon.inverters = unit :: rest) {addr : Reg}
    {row : DeviceRegisterMapping} (mapped : deviceFindSlot inverter1Profile addr = some row)
    (writable : row.access ≠ .ro) (val : Reg) :
    daemon.onWrite (UInt8.ofInt unit.cfg.modbusUid) addr val =
      Prog.op (S := daemonSig) (.queuePush primaryInverter ⟨addr, [val], .auto⟩)
        fun accepted => Prog.ret (if accepted then Rc.ok else Rc.fail) := by
  have target := primary_target .inverter running
  have valid : ¬ ([val].length = 0 ∨ [val].length > modbusMaxWriteRegisters) := by
    simp [modbusMaxWriteRegisters]
  rw [Daemon.onWrite, mapped]
  simp only [if_neg writable, Daemon.inverterCmdPush, if_neg valid, target]
  rfl

theorem onWrite_alone (running : daemon.inverters = unit :: rest) {addr val : Reg}
    {row : DeviceRegisterMapping} (mapped : deviceFindSlot inverter1Profile addr = some row)
    (writable : row.access ≠ .ro) {cmd : WriteCmd} (written : cmd = ⟨addr, [val], .auto⟩)
    {pushed : CmdQueue × Bool}
    (push : (s.queue primaryInverter).push inverterQueueMergeAllowed cmd = pushed) :
    subscriberAlone daemon (daemon.onWrite (UInt8.ofInt unit.cfg.modbusUid) addr val) s =
      some (s.setQueue pushed.1, [⟨.queuePush primaryInverter cmd, pushed.2⟩],
        if pushed.2 then Rc.ok else Rc.fail) := by
  subst written push
  rw [onWrite_primary running mapped writable]
  rfl

theorem frequency_mapped : deviceFindSlot inverter1Profile devFrequencyCmdReg =
    some ⟨0x2001, 0xA10C, .rw⟩ := by decide +kernel

theorem operation_mapped : deviceFindSlot inverter1Profile devOperationCmdReg =
    some ⟨0x2000, 0xA10B, .rw⟩ := by decide +kernel

theorem queueFrequency_alone (running : daemon.inverters = unit :: rest)
    (frequency operation : Reg) (s : Shared) :
    ∃ events, subscriberAlone daemon
        (daemon.queueFrequency (UInt8.ofInt unit.cfg.modbusUid) frequency operation) s =
      some (s.setQueue (pushPair (s.queue primaryInverter) frequency operation).1, events, ()) ∧
      pushAnswers events = (pushPair (s.queue primaryInverter) frequency operation).2 := by
  rw [Daemon.queueFrequency, subscriberAlone, Prog.bind_eq, pushPair]
  cases push :
      (s.queue primaryInverter).push inverterQueueMergeAllowed (frequencyCmd frequency) with
  | mk middle accepted =>
      have first := onWrite_alone running frequency_mapped (by decide) rfl push
      rw [System.alone_bind first]
      cases accepted with
      | false => exact ⟨_, rfl, rfl⟩
      | true =>
          let pushed := middle.push inverterQueueMergeAllowed (operationCmd operation)
          have second := @onWrite_alone daemon unit rest (s.setQueue middle) running _ operation _
            operation_mapped (by decide) (operationCmd operation) rfl pushed
            (by rw [setQueue_queue])
          rw [setQueue_setQueue] at second
          have both : subscriberAlone daemon ((daemon.onWrite (UInt8.ofInt unit.cfg.modbusUid)
              devOperationCmdReg operation).bind fun _ => Prog.ret ()) (s.setQueue middle) =
              some (s.setQueue pushed.1,
                [⟨.queuePush primaryInverter (operationCmd operation), pushed.2⟩], ()) := by
            rw [subscriberAlone, System.alone_bind second]
            rfl
          refine ⟨[⟨.queuePush primaryInverter (frequencyCmd frequency), true⟩,
            ⟨.queuePush primaryInverter (operationCmd operation), pushed.2⟩], ?_, rfl⟩
          exact congrArg (Option.map _) both

theorem handledAlone_eq (running : daemon.inverters = unit :: rest) (message : PairedMessage)
    (s : Shared) :
    ∃ events, handledAlone daemon message s =
        some (s.setQueue (pushPair (s.queue primaryInverter) (message.frequency s.pool)
          message.operation).1, events, ()) ∧
      pushAnswers events = (pushPair (s.queue primaryInverter) (message.frequency s.pool)
        message.operation).2 := by
  have primary : daemon.primaryUid .inverter = some (UInt8.ofInt unit.cfg.modbusUid) := by
    rw [Daemon.primaryUid, Daemon.units, running]
    rfl
  have pair := @queueFrequency_alone daemon unit rest running
  cases message with
  | frequencyWrite value =>
      simp only [handledAlone, PairedMessage.command, Daemon.inverterDispatch,
        Daemon.onFrequencyWriteCmd, primary, PairedMessage.frequency, PairedMessage.operation]
      split
      · exact pair _ _ s
      · exact pair _ _ s
  | mainPump dutyVal =>
      have limits : subscriberAlone daemon (Daemon.dutyConvertFrequency dutyVal) s =
          some (s, [⟨.poolRead .handler intFrequencyUpperLimitReg,
              some (s.pool intFrequencyUpperLimitReg)⟩,
            ⟨.poolRead .handler intFrequencyLowerLimitReg,
              some (s.pool intFrequencyLowerLimitReg)⟩],
            Daemon.dutyFrequency dutyVal (s.pool intFrequencyUpperLimitReg)
              (s.pool intFrequencyLowerLimitReg)) := rfl
      rw [handledAlone, PairedMessage.command, Daemon.inverterDispatch, Daemon.onMainPumpDutyCmd,
        Prog.bind_eq, System.alone_bind limits]
      simp only [primary, PairedMessage.frequency, PairedMessage.operation]
      split
      · obtain ⟨events, ran, answers⟩ := pair dutyVal Daemon.stopOperation s
        exact ⟨_, congrArg (Option.map _) ran, answers⟩
      · obtain ⟨events, ran, answers⟩ := pair (Daemon.dutyFrequency dutyVal
          (s.pool intFrequencyUpperLimitReg) (s.pool intFrequencyLowerLimitReg))
          Daemon.runOperation s
        exact ⟨_, congrArg (Option.map _) ran, answers⟩

/-- Where no other thread moves, this is what the running system does with a message. -/
theorem paired_reaches (running : daemon.inverters = unit :: rest) (message : PairedMessage)
    {c : Config daemonSig ThreadId Shared Home}
    (handling : c.control (.subscriber .inverter) =
      (daemon.inverterDispatch message.command).bind fun _ => Prog.ret Home.subscriber) :
    ∃ c', daemon.system.Reaches c c' ∧ c'.shared = c.shared.setQueue
      (pushPair (c.shared.queue primaryInverter) (message.frequency c.shared.pool)
        message.operation).1 := by
  obtain ⟨events, handled, -⟩ := handledAlone_eq running message c.shared
  have ran := System.alone_bind handled (f := fun _ => Prog.ret Home.subscriber)
  obtain ⟨c', reached, shared, -⟩ := System.alone_reaches handling ran
  exact ⟨c', reached, shared⟩

end Handler

section Pair

open CmdQueue (slot)

variable {q : CmdQueue} {cmd : WriteCmd}

theorem push_single (single : cmd.values.length = 1)
    (allowed : inverterQueueMergeAllowed cmd.addr = true) :
    (∃ idx, q.findPending cmd.addr q.count q.head = some idx ∧
        q.push inverterQueueMergeAllowed cmd = (q.setEntry idx cmd, true)) ∨
      q.findPending cmd.addr q.count q.head = none ∧
        q.push inverterQueueMergeAllowed cmd = q.append cmd := by
  have valid : ¬ (cmd.values.length = 0 ∨ cmd.values.length > modbusMaxWriteRegisters) := by
    rw [single]
    decide
  rw [CmdQueue.push, if_neg valid, if_pos ⟨single, allowed⟩]
  cases found : q.findPending cmd.addr q.count q.head with
  | none => exact .inr ⟨rfl, rfl⟩
  | some idx =>
      have merged : WriteCmd.mk (q.entries (slot idx)).addr cmd.values cmd.mode = cmd := by
        rw [(CmdQueue.findPending_found found).1]
      exact .inl ⟨idx, rfl, by simp only [merged]⟩

theorem findPending_setEntry {addr : Reg} {at_ : Nat} {entry : WriteCmd}
    (before : (q.entries (slot at_)).addr ≠ addr) (after : entry.addr ≠ addr) (todo idx : Nat) :
    (q.setEntry at_ entry).findPending addr todo idx = q.findPending addr todo idx := by
  induction todo generalizing idx with
  | zero => rfl
  | succ todo ih =>
      rw [CmdQueue.findPending, CmdQueue.findPending, ih]
      by_cases here : slot idx = slot at_
      · simp only [CmdQueue.setEntry, here, assign_self, before, after, false_and, if_false]
      · simp only [CmdQueue.setEntry, assign_other _ _ here]

theorem setEntry_eq {idx : Nat} : q.setEntry idx cmd = q ↔ q.entries (slot idx) = cmd := by
  constructor
  · intro same
    rw [← same]
    exact assign_self _ _ _
  · intro same
    have entries : assign q.entries (slot idx) cmd = q.entries := by
      funext i
      by_cases here : i = slot idx
      · rw [here, assign_self, same]
      · rw [assign_other _ _ here]
    rw [CmdQueue.setEntry, entries]

theorem findPending_none (wellFormed : q.WellFormed) :
    q.findPending cmd.addr q.count q.head = none ↔ coalesce cmd q.pending = none := by
  rcases CmdQueue.findPending_window q cmd q.count wellFormed.head_lt with
    ⟨missing, absent⟩ | ⟨i, -, found, -, merged⟩
  · exact iff_of_true missing absent
  · rw [found, CmdQueue.pending, merged]
    simp

theorem coalesce_append {entry : WriteCmd} (other : ¬ cmd.replaces entry)
    (pending : List WriteCmd) :
    coalesce cmd (pending ++ [entry]) = none ↔ coalesce cmd pending = none := by
  induction pending with
  | nil => simp [coalesce, other]
  | cons first rest ih =>
      rw [List.cons_append, coalesce, coalesce]
      split
      · simp
      · rw [Option.map_eq_none_iff, Option.map_eq_none_iff, ih]

theorem frequency_merges : inverterQueueMergeAllowed devFrequencyCmdReg = true := by decide

theorem operation_merges : inverterQueueMergeAllowed devOperationCmdReg = true := by decide

theorem push_operation (operation : Reg) :
    (q.findPending devOperationCmdReg q.count q.head ≠ none ∨ q.count < 16) ∧
        (q.push inverterQueueMergeAllowed (operationCmd operation)).2 = true ∨
      q.findPending devOperationCmdReg q.count q.head = none ∧ 16 ≤ q.count ∧
        q.push inverterQueueMergeAllowed (operationCmd operation) = (q, false) := by
  rcases @push_single q (operationCmd operation) rfl operation_merges with
    ⟨idx, found, pushed⟩ | ⟨missing, pushed⟩
  · have here : q.findPending devOperationCmdReg q.count q.head ≠ none :=
      Option.ne_none_iff_exists'.mpr ⟨idx, found⟩
    exact .inl ⟨.inl here, by rw [pushed]⟩
  · rw [pushed, CmdQueue.append]
    by_cases full : q.count ≥ cmdQueueCapacity
    · rw [if_pos full]
      exact .inr ⟨missing, full, rfl⟩
    · rw [if_neg full]
      exact .inl ⟨.inr (Nat.lt_of_not_le full), rfl⟩

/-- Behind an accepted frequency the operation decides. -/
theorem pushPair_behind {frequency : Reg} {middle : CmdQueue}
    (first : q.push inverterQueueMergeAllowed (frequencyCmd frequency) = (middle, true))
    (operation : Reg) :
    (middle.findPending devOperationCmdReg middle.count middle.head ≠ none ∨ middle.count < 16) ∧
        (pushPair q frequency operation).2 = [true, true] ∨
      middle.findPending devOperationCmdReg middle.count middle.head = none ∧ 16 ≤ middle.count ∧
        pushPair q frequency operation = (middle, [true, false]) := by
  rw [pushPair, first]
  rcases @push_operation middle operation with ⟨room, accepted⟩ | ⟨missing, full, refused⟩
  · exact .inl ⟨room, by simp only [accepted, if_true]⟩
  · exact .inr ⟨missing, full, by simp only [refused, if_true]⟩

theorem pushPair_merged (wellFormed : q.WellFormed) {frequency : Reg} {idx : Nat}
    (found : q.findPending devFrequencyCmdReg q.count q.head = some idx)
    (pushed : q.push inverterQueueMergeAllowed (frequencyCmd frequency) =
      (q.setEntry idx (frequencyCmd frequency), true)) (operation : Reg) :
    (pushPair q frequency operation).2 = [true, true] ∨ (pushPair q frequency operation).1 = q ↔
      ¬ HalfApplied q frequency := by
  have bound : q.count ≤ 16 := wellFormed.count_le
  have before : (q.entries (slot idx)).addr ≠ devOperationCmdReg := by
    rw [(CmdQueue.findPending_found found).1]
    decide
  have after : (frequencyCmd frequency).addr ≠ devOperationCmdReg :=
    (by decide : devFrequencyCmdReg ≠ devOperationCmdReg)
  have search := findPending_setEntry before after q.count q.head
  rcases pushPair_behind pushed operation with ⟨room, both⟩ | ⟨missing, full, result⟩
  · apply iff_of_true (.inl both)
    intro half
    rcases half.noRoom with ⟨-, absent⟩ | ⟨count, -⟩
    · rw [found] at absent
      cases absent
    · rcases room with here | few
      · exact here (search.trans half.noOperation)
      · exact absurd count (Nat.ne_of_lt few)
  · have refused : ([true, false] : List Bool) ≠ [true, true] := by decide
    have same := @setEntry_eq q (frequencyCmd frequency) idx
    have count : q.count = 16 := Nat.le_antisymm bound full
    rw [result]
    simp only [refused, false_or, same]
    constructor
    · intro unchanged half
      rcases half.noRoom with ⟨-, absent⟩ | ⟨-, other, there, changed⟩
      · rw [found] at absent
        cases absent
      · obtain rfl : idx = other := Option.some.inj (found.symm.trans there)
        exact changed unchanged
    · intro whole
      by_contra changed
      exact whole ⟨search.symm.trans missing, .inr ⟨count, idx, found, changed⟩⟩

theorem pushPair_appended (wellFormed : q.WellFormed) {frequency : Reg}
    (missing : q.findPending devFrequencyCmdReg q.count q.head = none)
    (pushed : q.push inverterQueueMergeAllowed (frequencyCmd frequency) =
      q.append (frequencyCmd frequency)) (operation : Reg) :
    (pushPair q frequency operation).2 = [true, true] ∨ (pushPair q frequency operation).1 = q ↔
      ¬ HalfApplied q frequency := by
  have bound : q.count ≤ 16 := wellFormed.count_le
  have onlyLast (half : HalfApplied q frequency) : q.count = 15 := by
    rcases half.noRoom with ⟨last, -⟩ | ⟨-, idx, found, -⟩
    · exact last
    · rw [missing] at found
      cases found
  by_cases full : q.count ≥ cmdQueueCapacity
  · rw [CmdQueue.append, if_pos full] at pushed
    have result : (pushPair q frequency operation).1 = q := by
      rw [pushPair, pushed]
      rfl
    apply iff_of_true (.inr result)
    intro half
    have count := onlyLast half
    rw [count] at full
    exact absurd full (by decide)
  · obtain ⟨kept, pending⟩ := @CmdQueue.append_refines q (frequencyCmd frequency) wellFormed
    have room : ¬ q.pending.length ≥ cmdQueueCapacity := by
      rw [CmdQueue.pending_length]
      exact full
    rw [appendPending, if_neg room] at pending
    obtain ⟨appended, accepted⟩ := Prod.mk.inj pending
    have middle : q.push inverterQueueMergeAllowed (frequencyCmd frequency) =
        ((q.append (frequencyCmd frequency)).1, true) :=
      pushed.trans (Prod.ext rfl accepted.symm)
    have count : (q.append (frequencyCmd frequency)).1.count = q.count + 1 := by
      rw [CmdQueue.append, if_neg full]
    have other : ¬ (operationCmd operation).replaces (frequencyCmd frequency) :=
      fun same => absurd same.1 (by decide : devFrequencyCmdReg ≠ devOperationCmdReg)
    have search := (@findPending_none _ (operationCmd operation) kept).trans
      ((appended ▸ coalesce_append other q.pending).trans (findPending_none wellFormed).symm)
    have free : q.count < 16 := Nat.lt_of_not_le full
    rcases pushPair_behind middle operation with ⟨here | few, both⟩ | ⟨absent, filled, result⟩
    · apply iff_of_true (.inl both)
      intro half
      exact here (search.mpr half.noOperation)
    · apply iff_of_true (.inl both)
      intro half
      have last := onlyLast half
      omega
    · have refused : ([true, false] : List Bool) ≠ [true, true] := by decide
      rw [result]
      apply iff_of_false
      · rintro (both | unchanged)
        · exact refused both
        · have same : (q.append (frequencyCmd frequency)).1.count = q.count :=
            congrArg CmdQueue.count unchanged
          omega
      · intro whole
        exact whole ⟨search.mp absent, .inl ⟨by omega, missing⟩⟩

theorem pushPair_allOrNothing (wellFormed : q.WellFormed) (frequency operation : Reg) :
    (pushPair q frequency operation).2 = [true, true] ∨ (pushPair q frequency operation).1 = q ↔
      ¬ HalfApplied q frequency := by
  rcases @push_single q (frequencyCmd frequency) rfl frequency_merges with
    ⟨idx, found, pushed⟩ | ⟨missing, pushed⟩
  · exact pushPair_merged wellFormed found pushed operation
  · exact pushPair_appended wellFormed missing pushed operation

end Pair

/-- A message sets frequency and operation both or neither, unless the queue is such that
only the frequency goes in. -/
theorem pairedWrites_allOrNothing (daemon : Daemon) (running : daemon.inverters ≠ [])
    (message : PairedMessage) (s : Shared) (wellFormed : (s.queue primaryInverter).WellFormed) :
    AllOrNothing daemon message s ↔
      ¬ HalfApplied (s.queue primaryInverter) (message.frequency s.pool) := by
  obtain ⟨unit, rest, inverters⟩ := List.exists_cons_of_ne_nil running
  obtain ⟨events, handled, answers⟩ := handledAlone_eq inverters message s
  rw [← pushPair_allOrNothing wellFormed (message.frequency s.pool) message.operation, ← answers]
  constructor
  · rintro ⟨after, others, ran, result⟩
    rw [handled] at ran
    cases ran
    rwa [setQueue_queue] at result
  · intro result
    refine ⟨_, events, handled, ?_⟩
    rwa [setQueue_queue]

def nearlyFull : CmdQueue :=
  (List.replicate 15 (WriteCmd.mk devFaultControlCmdReg [2] .auto)).foldl
    (fun q cmd => (q.push inverterQueueMergeAllowed cmd).1) queueInit

theorem nearlyFull_wellFormed : nearlyFull.WellFormed := ⟨by decide, by decide, by decide⟩

def fullQueue : CmdQueue := (nearlyFull.push inverterQueueMergeAllowed (frequencyCmd 300)).1

theorem fullQueue_wellFormed : fullQueue.WellFormed :=
  (CmdQueue.push_refines _ _ nearlyFull_wellFormed).1

theorem pairedWrites_allOrNothing_same : AllOrNothing Daemon.loneInverter (.frequencyWrite 300)
    (Daemon.loneInverter.start.shared.setQueue fullQueue) := by
  have queue_eq : (Daemon.loneInverter.start.shared.setQueue fullQueue).queue primaryInverter =
      fullQueue := setQueue_queue _ _
  apply (pairedWrites_allOrNothing Daemon.loneInverter (by simp [Daemon.loneInverter])
    (.frequencyWrite 300) _ (queue_eq.symm ▸ fullQueue_wellFormed)).mpr
  rw [queue_eq]
  intro half
  rcases half.noRoom with ⟨count, -⟩ | ⟨-, idx, found, differs⟩
  · exact absurd count (by decide)
  · have last : fullQueue.findPending devFrequencyCmdReg fullQueue.count fullQueue.head = some 15 :=
      by decide
    cases found.symm.trans last
    exact differs (by decide)

/-- A stop that sets the frequency and leaves the pump running. -/
theorem stop_halfApplied : ¬ ∀ (daemon : Daemon), daemon.inverters ≠ [] →
    ∀ (message : PairedMessage) (s : Shared), (s.queue primaryInverter).WellFormed →
      AllOrNothing daemon message s := by
  intro claim
  let s := Daemon.loneInverter.start.shared.setQueue nearlyFull
  have queue_eq : s.queue primaryInverter = nearlyFull := setQueue_queue _ _
  have running : Daemon.loneInverter.inverters ≠ [] := by simp [Daemon.loneInverter]
  obtain ⟨after, events, ran, result⟩ := claim Daemon.loneInverter running (.frequencyWrite 0) s
    (queue_eq ▸ nearlyFull_wellFormed)
  obtain ⟨others, handled, answers⟩ := handledAlone_eq
    (rfl : Daemon.loneInverter.inverters = [tcpInverter]) (.frequencyWrite 0) s
  rw [handled] at ran
  cases ran
  rw [answers, queue_eq, setQueue_queue] at result
  rcases result with both | unchanged
  · revert both
    decide +kernel
  · have counts := congrArg CmdQueue.count unchanged
    revert counts
    decide +kernel

end Rs485Gateway
