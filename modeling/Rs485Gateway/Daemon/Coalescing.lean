import Rs485Gateway.Daemon.Registers

namespace Rs485Gateway

open Interaction Rs485Gateway.Lists

/-- Pushes and pops on the queue of one inverter, from its creation on: the pushes
accepted so far, and what the popped commands did, every write succeeding. -/
inductive QueueRun (meets : CmdQueue → WriteCmd → Prop) (unit : DeviceUnit) :
    List WriteCmd → CmdQueue → List DaemonEvent → Prop
  | start : QueueRun meets unit [] queueInit []
  | push {pushes : List WriteCmd} {q : CmdQueue} {events : List DaemonEvent} {cmd : WriteCmd}
      (before : QueueRun meets unit pushes q events) (met : meets q cmd)
      (accepted : (q.push inverterQueueMergeAllowed cmd).2 = true) :
      QueueRun meets unit (pushes ++ [cmd]) (q.push inverterQueueMergeAllowed cmd).1 events
  | pop {pushes : List WriteCmd} {q : CmdQueue} {events written : List DaemonEvent}
      {cmd : WriteCmd} (before : QueueRun meets unit pushes q events)
      (popped : q.pop.2 = some cmd)
      (worked : DaemonRuns (writeRegistersLocked unit cmd.addr cmd.values cmd.mode) written .ok) :
      QueueRun meets unit pushes q.pop.1 (events ++ written)

def plainWrites (pushes : List WriteCmd) : List (Reg × Reg) := pushes.flatMap WriteCmd.writes

/-- The device image is the one the plain queue produces: each register holds what
the latest push that covers it gave. -/
def SameImage (pushes : List WriteCmd) (events : List DaemonEvent) : Prop :=
  ∀ image, registersAfter image events = writeAll image (plainWrites pushes) ∧
    ∀ register, registersAfter image events register =
      (Lists.latest (plainWrites pushes) register).getD (image register)

/-- No write behind the entry that the command would replace covers its register. -/
def Unobstructed (q : CmdQueue) (cmd : WriteCmd) : Prop :=
  cmd.values.length = 1 → inverterQueueMergeAllowed cmd.addr = true →
    ∀ later ∈ behind cmd q.pending, cmd.addr ∉ later.writes.map Prod.fst

theorem plainWrites_append (first second : List WriteCmd) :
    plainWrites (first ++ second) = plainWrites first ++ plainWrites second :=
  List.flatMap_append

/-- Taking the place of an entry has the effect of coming last. -/
theorem merge_image {cmd entry : WriteCmd} {before after : List WriteCmd}
    (single : cmd.values.length = 1) (replaced : cmd.replaces entry)
    (clear : ∀ later ∈ after, cmd.addr ∉ later.writes.map Prod.fst) (image : Reg → Reg) :
    writeAll image (plainWrites (before ++ cmd :: after)) =
      writeAll image (plainWrites (before ++ entry :: after ++ [cmd])) := by
  have new : cmd.writes = [(cmd.addr, cmd.values.headD 0)] := block_single single
  have old : entry.writes = [(cmd.addr, entry.values.headD 0)] := by
    rw [WriteCmd.writes, block_single replaced.2, replaced.1]
  have absent : cmd.addr ∉ (plainWrites after).map Prod.fst := by
    intro present
    obtain ⟨write, member, same⟩ := List.mem_map.mp present
    obtain ⟨later, inside, covers⟩ := List.mem_flatMap.mp member
    exact clear later inside (List.mem_map.mpr ⟨write, covers, same⟩)
  have front :
      plainWrites (cmd :: after) = (cmd.addr, cmd.values.headD 0) :: plainWrites after := by
    rw [plainWrites, List.flatMap_cons, new]
    rfl
  have back : plainWrites (entry :: after ++ [cmd]) =
      (cmd.addr, entry.values.headD 0) :: plainWrites after ++
        [(cmd.addr, cmd.values.headD 0)] := by
    rw [plainWrites_append, plainWrites, plainWrites, List.flatMap_cons, List.flatMap_singleton,
      old, new]
    rfl
  rw [List.append_assoc, plainWrites_append, plainWrites_append, writeAll_append, writeAll_append,
    front, back]
  exact writeAll_replace absent

structure Completes (pushes : List WriteCmd) (q : CmdQueue) (events : List DaemonEvent) : Prop where
  wellFormed : q.WellFormed
  image : ∀ image, writeAll (registersAfter image events) (plainWrites q.pending) =
    writeAll image (plainWrites pushes)

theorem Completes.push {pushes : List WriteCmd} {q : CmdQueue} {events : List DaemonEvent}
    {cmd : WriteCmd} (completes : Completes pushes q events) (clear : Unobstructed q cmd)
    (accepted : (q.push inverterQueueMergeAllowed cmd).2 = true) :
    Completes (pushes ++ [cmd]) (q.push inverterQueueMergeAllowed cmd).1 events := by
  obtain ⟨wellFormed, refines⟩ :=
    CmdQueue.push_refines inverterQueueMergeAllowed cmd completes.wellFormed
  refine ⟨wellFormed, fun image => ?_⟩
  rw [accepted] at refines
  have last : writeAll (registersAfter image events) (plainWrites (q.pending ++ [cmd])) =
      writeAll image (plainWrites (pushes ++ [cmd])) := by
    rw [plainWrites_append, plainWrites_append, writeAll_append, writeAll_append,
      completes.image image]
  rw [← last]
  rcases pushPending_accepted refines with appended | ⟨single, mergeable, before, entry, split,
    replaced, placed⟩
  · rw [appended]
  · rw [placed, merge_image single replaced (clear single mergeable), ← split]

theorem Completes.pop {pushes : List WriteCmd} {q : CmdQueue} {events written : List DaemonEvent}
    {cmd : WriteCmd} {unit : DeviceUnit} (completes : Completes pushes q events)
    (popped : q.pop.2 = some cmd)
    (worked : DaemonRuns (writeRegistersLocked unit cmd.addr cmd.values cmd.mode) written .ok) :
    Completes pushes q.pop.1 (events ++ written) := by
  obtain ⟨wellFormed, head, rest⟩ := CmdQueue.pop_refines completes.wellFormed
  refine ⟨wellFormed, fun image => ?_⟩
  have pending : q.pending = cmd :: q.pop.1.pending := by
    rw [rest]
    exact (List.cons_head?_tail (head.symm.trans popped)).symm
  have whole := completes.image image
  rw [pending, plainWrites, List.flatMap_cons, writeAll_append] at whole
  rw [registersAfter, sentWrites_append, writeAll_append, writeRegistersLocked_ok worked]
  exact whole

theorem QueueRun.completes {unit : DeviceUnit} {pushes : List WriteCmd} {q : CmdQueue}
    {events : List DaemonEvent} (run : QueueRun Unobstructed unit pushes q events) :
    Completes pushes q events := by
  induction run with
  | start => exact ⟨CmdQueue.queueInit_wellFormed, fun _ => rfl⟩
  | push before met accepted ih => exact ih.push met accepted
  | pop before popped worked ih => exact ih.pop popped worked

/-- Merging stays invisible as long as no merge passes a write of its register. -/
theorem coalescing_transparent {unit : DeviceUnit} {pushes : List WriteCmd} {q : CmdQueue}
    {events : List DaemonEvent} (run : QueueRun Unobstructed unit pushes q events)
    (empty : q.count = 0) : SameImage pushes events := by
  intro image
  have completes := run.completes.image image
  have drained : q.pending = [] := List.eq_nil_of_length_eq_zero (by simpa using empty)
  rw [drained] at completes
  have same : registersAfter image events = writeAll image (plainWrites pushes) := completes
  refine ⟨same, fun register => ?_⟩
  rw [same, writeAll_latest]

def coalescingInverter : DeviceUnit := ⟨⟨1, .tcp⟩, inverter1Profile⟩

theorem coalescing_transparent_merge : ∃ pushes events,
    pushes.length = 3 ∧ sentWrites events = [(devFrequencyCmdReg, 0), (devOperationCmdReg, 4097)] ∧
      SameImage pushes events := by
  have clear : ∀ q cmd, behind cmd q.pending = [] → Unobstructed q cmd := by
    intro q cmd last _ _ later member
    rw [last] at member
    cases member
  have one := @QueueRun.push Unobstructed coalescingInverter _ _ _
    ⟨devFrequencyCmdReg, [0], .fc06⟩ .start (clear _ _ (by decide)) (by decide)
  have two := @QueueRun.push _ _ _ _ _ ⟨devOperationCmdReg, [2], .auto⟩ one
    (clear _ _ (by decide)) (by decide)
  have three := @QueueRun.push _ _ _ _ _ ⟨devOperationCmdReg, [4097], .auto⟩ two
    (clear _ _ (by decide)) (by decide)
  have four := @QueueRun.pop _ _ _ _ _ _ ⟨devFrequencyCmdReg, [0], .fc06⟩ three (by decide)
    (.op (.ret _))
  have five := @QueueRun.pop _ _ _ _ _ _ ⟨devOperationCmdReg, [4097], .auto⟩ four (by decide)
    (.op (.ret _))
  exact ⟨_, _, rfl, rfl, coalescing_transparent five (by decide)⟩

/-- A single command merged past a block write of its register. -/
theorem coalescing_reorders : ¬ ∀ unit pushes q events,
    QueueRun (fun _ _ => True) unit pushes q events → q.count = 0 → SameImage pushes events := by
  intro claimed
  have one := @QueueRun.push (fun _ _ => True) coalescingInverter _ _ _
    ⟨devOperationCmdReg, [1], .auto⟩ .start trivial (by decide)
  have two := @QueueRun.push _ _ _ _ _ ⟨devOperationCmdReg, [2, 0], .auto⟩ one trivial (by decide)
  have three := @QueueRun.push _ _ _ _ _ ⟨devOperationCmdReg, [4097], .auto⟩ two trivial (by decide)
  have four := @QueueRun.pop _ _ _ _ _ _ ⟨devOperationCmdReg, [4097], .auto⟩ three (by decide)
    (.op (.ret _))
  have five := @QueueRun.pop _ _ _ _ _ _ ⟨devOperationCmdReg, [2, 0], .auto⟩ four (by decide)
    (.op (.ret _))
  have same := (claimed _ _ _ _ five (by decide) fun _ => 0).1
  have wrong := congrFun same devOperationCmdReg
  revert wrong
  decide

end Rs485Gateway
