import Rs485Gateway.Device.CmdRing

namespace Rs485Gateway

inductive QueueCall where
  | push (cmd : WriteCmd)
  | pop

inductive QueueAnswer where
  | pushed (accepted : Bool)
  | popped (cmd : Option WriteCmd)
  deriving DecidableEq

namespace CmdRing

def call (mergeAllowed : Reg → Bool) (ring : CmdRing) : QueueCall → CmdRing × QueueAnswer
  | .push cmd => ((ring.push mergeAllowed cmd).1, .pushed (ring.push mergeAllowed cmd).2)
  | .pop => (ring.pop.1, .popped (ring.pop.2.map RingEntry.cmd))

/-- The ring after some calls from `queue_init` on, in the order the lock admits them. -/
def after (mergeAllowed : Reg → Bool) (calls : List QueueCall) : CmdRing :=
  calls.foldl (fun ring call => (ring.call mergeAllowed call).1) ringInit

def pending (ring : CmdRing) : List WriteCmd := ring.queue.pending

end CmdRing

def Mergeable (mergeAllowed : Reg → Bool) (cmd : WriteCmd) : Prop :=
  cmd.values.length = 1 ∧ mergeAllowed cmd.addr = true

/-- What the queue is for: a list of at most sixteen writes, oldest first. -/
inductive ListStep (mergeAllowed : Reg → Bool) :
    List WriteCmd → QueueCall → List WriteCmd → QueueAnswer → Prop
  | merged {before behind : List WriteCmd} {entry cmd : WriteCmd}
      (mergeable : Mergeable mergeAllowed cmd) (first : ∀ earlier ∈ before, ¬ cmd.replaces earlier)
      (here : cmd.replaces entry) :
      ListStep mergeAllowed (before ++ entry :: behind) (.push cmd)
        (before ++ { entry with values := cmd.values, mode := cmd.mode } :: behind) (.pushed true)
  | appended {pending : List WriteCmd} {cmd : WriteCmd}
      (valid : cmd.values.length ≠ 0 ∧ cmd.values.length ≤ modbusMaxWriteRegisters)
      (fresh : Mergeable mergeAllowed cmd → ∀ entry ∈ pending, ¬ cmd.replaces entry)
      (room : pending.length < cmdQueueCapacity) :
      ListStep mergeAllowed pending (.push cmd) (pending ++ [cmd]) (.pushed true)
  | invalid {pending : List WriteCmd} {cmd : WriteCmd}
      (invalid : cmd.values.length = 0 ∨ cmd.values.length > modbusMaxWriteRegisters) :
      ListStep mergeAllowed pending (.push cmd) pending (.pushed false)
  | full {pending : List WriteCmd} {cmd : WriteCmd}
      (fresh : Mergeable mergeAllowed cmd → ∀ entry ∈ pending, ¬ cmd.replaces entry)
      (full : pending.length = cmdQueueCapacity) :
      ListStep mergeAllowed pending (.push cmd) pending (.pushed false)
  | popped {cmd : WriteCmd} {rest : List WriteCmd} :
      ListStep mergeAllowed (cmd :: rest) .pop rest (.popped (some cmd))
  | empty : ListStep mergeAllowed [] .pop [] (.popped none)

def singles (addr : Reg) (pending : List WriteCmd) : Nat :=
  pending.countP fun entry => entry.addr = addr ∧ entry.values.length = 1

section Search

variable {cmd : WriteCmd} {pending : List WriteCmd}

theorem coalesce_none (missing : coalesce cmd pending = none) :
    ∀ entry ∈ pending, ¬ cmd.replaces entry := by
  induction pending with
  | nil => simp
  | cons entry rest ih =>
      rw [coalesce] at missing
      split at missing
      · cases missing
      · rename_i here
        intro other member
        rcases List.mem_cons.mp member with same | later
        · rw [same]
          exact here
        · exact ih (Option.map_eq_none_iff.mp missing) other later

end Search

section Step

variable {mergeAllowed : Reg → Bool} {pending : List WriteCmd}

theorem appendPending_step {cmd : WriteCmd}
    (valid : cmd.values.length ≠ 0 ∧ cmd.values.length ≤ modbusMaxWriteRegisters)
    (fresh : Mergeable mergeAllowed cmd → ∀ entry ∈ pending, ¬ cmd.replaces entry)
    (bounded : pending.length ≤ cmdQueueCapacity) :
    ListStep mergeAllowed pending (.push cmd) (appendPending pending cmd).1
      (.pushed (appendPending pending cmd).2) := by
  rw [appendPending]
  split
  · rename_i full
    exact .full fresh (Nat.le_antisymm bounded full)
  · rename_i room
    exact .appended valid fresh (Nat.lt_of_not_le room)

theorem pushPending_step (cmd : WriteCmd) (bounded : pending.length ≤ cmdQueueCapacity) :
    ListStep mergeAllowed pending (.push cmd) (pushPending mergeAllowed pending cmd).1
      (.pushed (pushPending mergeAllowed pending cmd).2) := by
  rw [pushPending]
  split
  · rename_i invalid
    exact .invalid invalid
  · rename_i valid
    have size : cmd.values.length ≠ 0 ∧ cmd.values.length ≤ modbusMaxWriteRegisters :=
      ⟨fun zero => valid (.inl zero), Nat.not_lt.mp fun many => valid (.inr many)⟩
    split
    · rename_i mergeable
      cases coalesced : coalesce cmd pending with
      | none => exact appendPending_step size (fun _ => coalesce_none coalesced) bounded
      | some merged =>
          rcases coalesce_some coalesced with ⟨before, entry, split, here, placed, first⟩
          generalize behind cmd pending = rest at split placed
          subst split placed
          have replaced : WriteCmd.mk entry.addr cmd.values cmd.mode = cmd := by rw [here.1]
          have step := @ListStep.merged mergeAllowed before rest entry cmd mergeable first here
          rw [replaced] at step
          exact step
    · rename_i plain
      exact appendPending_step size (fun mergeable => absurd mergeable plain) bounded

theorem ListStep.singles_le {call : QueueCall} {next : List WriteCmd} {answer : QueueAnswer}
    (step : ListStep mergeAllowed pending call next answer) {addr : Reg}
    (allowed : mergeAllowed addr = true) (once : singles addr pending ≤ 1) :
    singles addr next ≤ 1 := by
  cases step with
  | @merged before behind entry cmd mergeable first here =>
      have same : (cmd.values.length = 1) = (entry.values.length = 1) := by
        rw [mergeable.1, here.2]
      simp only [singles, List.countP_append, List.countP_cons, same] at once ⊢
      exact once
  | @appended _ cmd valid fresh room =>
      rw [singles, List.countP_append, ← singles]
      by_cases alone : cmd.addr = addr ∧ cmd.values.length = 1
      · have absent : singles addr pending = 0 := by
          apply List.countP_eq_zero.mpr
          intro entry member
          have other := fresh ⟨alone.2, by rw [alone.1, allowed]⟩ entry member
          rw [WriteCmd.replaces, alone.1] at other
          exact decide_eq_true_iff.not.mpr other
        rw [absent, Nat.zero_add]
        exact List.countP_le_length
      · rw [List.countP_singleton, if_neg (decide_eq_true_iff.not.mpr alone), Nat.add_zero]
        exact once
  | invalid => exact once
  | full => exact once
  | @popped cmd rest =>
      rw [singles, List.countP_cons, ← singles] at once
      exact (Nat.le_add_right _ _).trans once
  | empty => exact once

end Step

namespace CmdRing

variable {mergeAllowed : Reg → Bool} {ring : CmdRing}

theorem call_step (call : QueueCall) (wellFormed : ring.queue.WellFormed) :
    (ring.call mergeAllowed call).1.queue.WellFormed ∧
      ListStep mergeAllowed ring.pending call (ring.call mergeAllowed call).1.pending
        (ring.call mergeAllowed call).2 := by
  cases call with
  | push cmd =>
      obtain ⟨kept, refines⟩ := CmdQueue.push_refines mergeAllowed cmd wellFormed
      have bounded : ring.pending.length ≤ cmdQueueCapacity := by
        rw [pending, CmdQueue.pending_length]
        exact wellFormed.count_le
      have step := @pushPending_step mergeAllowed ring.pending cmd bounded
      rw [pending, refines, push_queue] at step
      rw [push_queue] at kept
      exact ⟨kept, step⟩
  | pop =>
      obtain ⟨kept, oldest, rest⟩ := CmdQueue.pop_refines wellFormed
      rw [pop_queue] at kept oldest rest
      refine ⟨kept, ?_⟩
      have front : ring.pop.2.map RingEntry.cmd = ring.queue.pending.head? := oldest
      simp only [call, pending, front, rest]
      cases ring.queue.pending with
      | nil => exact .empty
      | cons cmd behind => exact .popped

theorem call_refused {call : QueueCall}
    (refused : (ring.call mergeAllowed call).2 = .pushed false ∨
      (ring.call mergeAllowed call).2 = .popped none) :
    (ring.call mergeAllowed call).1 = ring := by
  have kept (cmd : WriteCmd) (failed : (ring.append cmd).2 = false) :
      (ring.append cmd).1 = ring := by
    rw [append] at failed ⊢
    split
    · rfl
    · rename_i room
      rw [if_neg room] at failed
      cases failed
  cases call with
  | push cmd =>
      have failed : (ring.push mergeAllowed cmd).2 = false := by
        rcases refused with pushed | popped
        · exact QueueAnswer.pushed.inj pushed
        · cases popped
      change (ring.push mergeAllowed cmd).1 = ring
      rw [push] at failed ⊢
      split
      · rfl
      · rename_i valid
        rw [if_neg valid] at failed
        split
        · rename_i mergeable
          rw [if_pos mergeable] at failed
          split
          · rename_i idx found
            simp only [found] at failed
            cases failed
          · rename_i missing
            simp only [missing] at failed
            exact kept cmd failed
        · rename_i plain
          rw [if_neg plain] at failed
          exact kept cmd failed
  | pop =>
      have failed : ring.pop.2.map RingEntry.cmd = none := by
        rcases refused with pushed | popped
        · cases pushed
        · exact QueueAnswer.popped.inj popped
      change ring.pop.1 = ring
      rw [pop] at failed ⊢
      split
      · rfl
      · rename_i pending
        rw [if_neg pending] at failed
        cases failed

theorem after_snoc (calls : List QueueCall) (call : QueueCall) :
    after mergeAllowed (calls ++ [call]) =
      ((after mergeAllowed calls).call mergeAllowed call).1 := by
  rw [after, List.foldl_append]
  rfl

/-- Over any calls the ring stays well formed and merging addresses stay alone. -/
theorem after_invariant (calls : List QueueCall) :
    (after mergeAllowed calls).queue.WellFormed ∧ ∀ addr, mergeAllowed addr = true →
      singles addr (after mergeAllowed calls).pending ≤ 1 := by
  induction calls using List.reverseRecOn with
  | nil =>
      refine ⟨⟨?_, rfl, Nat.zero_le _⟩, fun _ _ => Nat.zero_le _⟩
      change 0 < cmdQueueCapacity
      decide
  | append_singleton calls call ih =>
      obtain ⟨wellFormed, alone⟩ := ih
      obtain ⟨kept, step⟩ := call_step call wellFormed
      rw [after_snoc]
      exact ⟨kept, fun addr allowed => step.singles_le allowed (alone addr allowed)⟩

end CmdRing

structure QueueRefines (mergeAllowed : Reg → Bool) (calls : List QueueCall) (call : QueueCall) :
    Prop where
  head : (CmdRing.after mergeAllowed calls).head < cmdQueueCapacity
  tail : (CmdRing.after mergeAllowed calls).tail < cmdQueueCapacity
  ends : (CmdRing.after mergeAllowed calls).tail = ((CmdRing.after mergeAllowed calls).head +
    (CmdRing.after mergeAllowed calls).count) % cmdQueueCapacity
  size : (CmdRing.after mergeAllowed calls).pending.length =
    (CmdRing.after mergeAllowed calls).count
  few : (CmdRing.after mergeAllowed calls).count ≤ cmdQueueCapacity
  step : ListStep mergeAllowed (CmdRing.after mergeAllowed calls).pending call
    (CmdRing.after mergeAllowed (calls ++ [call])).pending
    ((CmdRing.after mergeAllowed calls).call mergeAllowed call).2
  refused : ((CmdRing.after mergeAllowed calls).call mergeAllowed call).2 = .pushed false ∨
      ((CmdRing.after mergeAllowed calls).call mergeAllowed call).2 = .popped none →
    CmdRing.after mergeAllowed (calls ++ [call]) = CmdRing.after mergeAllowed calls
  alone : ∀ addr, mergeAllowed addr = true →
    singles addr (CmdRing.after mergeAllowed calls).pending ≤ 1

theorem queueRefines (mergeAllowed : Reg → Bool) (calls : List QueueCall) (call : QueueCall) :
    QueueRefines mergeAllowed calls call := by
  obtain ⟨wellFormed, alone⟩ := @CmdRing.after_invariant mergeAllowed calls
  obtain ⟨-, step⟩ := @CmdRing.call_step mergeAllowed _ call wellFormed
  have next := @CmdRing.after_snoc mergeAllowed calls call
  constructor
  · exact wellFormed.head_lt
  · rw [show (CmdRing.after mergeAllowed calls).tail = _ from wellFormed.tail_eq]
    exact Nat.mod_lt _ (by decide)
  · exact wellFormed.tail_eq
  · exact CmdQueue.pending_length _
  · exact wellFormed.count_le
  · rw [next]
    exact step
  · intro refused
    rw [next]
    exact CmdRing.call_refused refused
  · exact alone

/-- Both queues refine the list of pending writes, from the empty list on; over the UPS
queue no address merges. -/
theorem queues_refine (calls : List QueueCall) (call : QueueCall) :
    QueueRefines inverterQueueMergeAllowed calls call ∧
      QueueRefines upsQueueMergeAllowed calls call ∧
      ringInit.pending = [] ∧ ∀ addr, upsQueueMergeAllowed addr = false :=
  ⟨queueRefines _ calls call, queueRefines _ calls call, rfl, fun _ => rfl⟩

-- Over the inverter queue both 0x2000 and 0x2001 merge, each in its old place; 0x2002 does not.
example : (CmdRing.after inverterQueueMergeAllowed
      [.push ⟨devFaultControlCmdReg, [2], .auto⟩, .push ⟨devOperationCmdReg, [1], .auto⟩,
        .push ⟨devFrequencyCmdReg, [10], .auto⟩, .push ⟨devFaultControlCmdReg, [3], .auto⟩,
        .push ⟨devFrequencyCmdReg, [20], .auto⟩, .push ⟨devOperationCmdReg, [2], .auto⟩]).pending =
    [⟨devFaultControlCmdReg, [2], .auto⟩, ⟨devOperationCmdReg, [2], .auto⟩,
      ⟨devFrequencyCmdReg, [20], .auto⟩, ⟨devFaultControlCmdReg, [3], .auto⟩] := by
  decide

end Rs485Gateway
