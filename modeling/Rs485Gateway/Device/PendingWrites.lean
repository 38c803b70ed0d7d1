import Rs485Gateway.Device.CmdQueue
import Rs485Gateway.Lists.Ring

namespace Rs485Gateway

open Interaction Rs485Gateway.Lists

/-- The same address and a single register: the entry a later command may replace. -/
def WriteCmd.replaces (cmd entry : WriteCmd) : Prop :=
  entry.addr = cmd.addr ∧ entry.values.length = 1

instance (cmd entry : WriteCmd) : Decidable (cmd.replaces entry) :=
  inferInstanceAs (Decidable (_ ∧ _))

def coalesce (cmd : WriteCmd) : List WriteCmd → Option (List WriteCmd)
  | [] => none
  | entry :: rest =>
      if cmd.replaces entry then some (cmd :: rest)
      else (coalesce cmd rest).map fun rest => entry :: rest

def behind (cmd : WriteCmd) : List WriteCmd → List WriteCmd
  | [] => []
  | entry :: rest => if cmd.replaces entry then rest else behind cmd rest

def appendPending (pending : List WriteCmd) (cmd : WriteCmd) : List WriteCmd × Bool :=
  if pending.length ≥ cmdQueueCapacity then (pending, false) else (pending ++ [cmd], true)

def pushPending (mergeAllowed : Reg → Bool) (pending : List WriteCmd) (cmd : WriteCmd) :
    List WriteCmd × Bool :=
  if cmd.values.length = 0 ∨ cmd.values.length > modbusMaxWriteRegisters then (pending, false)
  else if cmd.values.length = 1 ∧ mergeAllowed cmd.addr then
    match coalesce cmd pending with
    | some merged => (merged, true)
    | none => appendPending pending cmd
  else appendPending pending cmd

theorem coalesce_some {cmd : WriteCmd} {pending merged : List WriteCmd}
    (coalesced : coalesce cmd pending = some merged) :
    ∃ before entry, pending = before ++ entry :: behind cmd pending ∧ cmd.replaces entry ∧
      merged = before ++ cmd :: behind cmd pending ∧
        ∀ earlier ∈ before, ¬ cmd.replaces earlier := by
  induction pending generalizing merged with
  | nil => cases coalesced
  | cons entry rest ih =>
      rw [coalesce] at coalesced
      rw [behind]
      by_cases here : cmd.replaces entry
      · rw [if_pos here] at coalesced ⊢
        cases coalesced
        exact ⟨[], entry, rfl, here, rfl, by simp⟩
      · rw [if_neg here] at coalesced ⊢
        obtain ⟨tail, later, rfl⟩ := Option.map_eq_some_iff.mp coalesced
        obtain ⟨before, found, split, replaced, rfl, first⟩ := ih later
        refine ⟨entry :: before, found, congrArg (entry :: ·) split, replaced, rfl, ?_⟩
        intro earlier member
        rcases List.mem_cons.mp member with same | inside
        · rw [same]
          exact here
        · exact first earlier inside

/-- An accepted push is appended, or takes the place of one entry. -/
theorem pushPending_accepted {mergeAllowed : Reg → Bool} {cmd : WriteCmd}
    {pending after : List WriteCmd}
    (accepted : pushPending mergeAllowed pending cmd = (after, true)) :
    after = pending ++ [cmd] ∨
      cmd.values.length = 1 ∧ mergeAllowed cmd.addr = true ∧
        ∃ before entry, pending = before ++ entry :: behind cmd pending ∧ cmd.replaces entry ∧
          after = before ++ cmd :: behind cmd pending := by
  have appended (whole : appendPending pending cmd = (after, true)) : after = pending ++ [cmd] := by
    unfold appendPending at whole
    split at whole
    · cases whole
    · exact (congrArg Prod.fst whole).symm
  unfold pushPending at accepted
  split at accepted
  · cases accepted
  · split at accepted
    · rename_i mergeable
      cases coalesced : coalesce cmd pending with
      | none =>
          rw [coalesced] at accepted
          exact .inl (appended accepted)
      | some merged =>
          rw [coalesced] at accepted
          obtain ⟨before, entry, split, replaced, placed, -⟩ := coalesce_some coalesced
          have same : merged = after := congrArg Prod.fst accepted
          exact .inr ⟨mergeable.1, mergeable.2, before, entry, split, replaced, same ▸ placed⟩
    · exact .inl (appended accepted)

namespace CmdQueue

structure WellFormed (q : CmdQueue) : Prop where
  head_lt : q.head < cmdQueueCapacity
  tail_eq : q.tail = (q.head + q.count) % cmdQueueCapacity
  count_le : q.count ≤ cmdQueueCapacity

instance : NeZero cmdQueueCapacity := ⟨by decide⟩

def pending (q : CmdQueue) : List WriteCmd := window q.entries q.head q.count

theorem queueInit_wellFormed : queueInit.WellFormed :=
  ⟨by decide, rfl, Nat.zero_le _⟩

@[simp] theorem pending_length (q : CmdQueue) : q.pending.length = q.count := length_window

theorem slot_eq (index : Nat) : slot index = place cmdQueueCapacity index := rfl

variable {q : CmdQueue} {cmd : WriteCmd}

theorem findPending_succ (todo idx : Nat) :
    q.findPending cmd.addr (todo + 1) idx =
      if cmd.replaces (q.entries (slot idx)) then some idx
      else q.findPending cmd.addr todo ((idx + 1) % cmdQueueCapacity) := rfl

theorem findPending_found {addr : Reg} {todo idx found : Nat}
    (search : q.findPending addr todo idx = some found) :
    (q.entries (slot found)).addr = addr ∧ (q.entries (slot found)).values.length = 1 := by
  induction todo generalizing idx with
  | zero => cases search
  | succ todo ih =>
      rw [findPending] at search
      split at search
      · rename_i here
        cases search
        exact here
      · exact ih search

theorem findPending_window (q : CmdQueue) (cmd : WriteCmd) (todo : Nat) {idx : Nat}
    (within : idx < cmdQueueCapacity) :
    (q.findPending cmd.addr todo idx = none ∧ coalesce cmd (window q.entries idx todo) = none) ∨
      ∃ i, i < todo ∧ q.findPending cmd.addr todo idx = some ((idx + i) % cmdQueueCapacity) ∧
        cmd.replaces (q.entries (slot (idx + i))) ∧
        coalesce cmd (window q.entries idx todo) =
          some ((window q.entries idx todo).set i cmd) := by
  induction todo generalizing idx with
  | zero => exact .inl ⟨rfl, rfl⟩
  | succ todo ih =>
      rw [window_succ, findPending_succ, coalesce, ← slot_eq]
      by_cases here : cmd.replaces (q.entries (slot idx))
      · simp only [if_pos here]
        refine .inr ⟨0, Nat.succ_pos _, ?_, here, rfl⟩
        rw [Nat.add_zero, Nat.mod_eq_of_lt within]
      · simp only [if_neg here]
        have next := @ih ((idx + 1) % cmdQueueCapacity) (Nat.mod_lt _ (by decide))
        rw [window_mod] at next
        rcases next with ⟨missing, absent⟩ | ⟨i, below, found, replaced, merged⟩
        · exact .inl ⟨missing, by rw [absent]; rfl⟩
        · refine .inr ⟨i + 1, by omega, ?_, ?_, ?_⟩
          · rw [found, Nat.mod_add_mod, Nat.add_assoc, Nat.add_comm 1]
          · rw [slot_eq, place_mod] at replaced
            rw [slot_eq, Nat.add_comm i, ← Nat.add_assoc]
            exact replaced
          · rw [merged, Option.map_some, List.set_cons_succ]

theorem append_refines (wellFormed : q.WellFormed) :
    (q.append cmd).1.WellFormed ∧
      appendPending q.pending cmd = ((q.append cmd).1.pending, (q.append cmd).2) := by
  unfold append appendPending
  rw [pending_length]
  split
  · exact ⟨wellFormed, rfl⟩
  · rename_i room
    refine ⟨⟨wellFormed.head_lt, ?_, by simp at room ⊢; omega⟩, ?_⟩
    · simp only [setEntry, wellFormed.tail_eq]
      rw [Nat.mod_add_mod, Nat.add_assoc]
    · have tail : slot q.tail = place cmdQueueCapacity (q.head + q.count) := by
        rw [wellFormed.tail_eq, slot_eq]
        exact place_mod (q.head + q.count) 0
      have appended : window (assign q.entries (place cmdQueueCapacity (q.head + q.count)) cmd)
          q.head (q.count + 1) = window q.entries q.head q.count ++ [cmd] :=
        window_append (Nat.lt_of_not_le room)
      simp only [pending, setEntry, tail, appended]

/-- `queue_push` on the ring is a push on the list it stands for. -/
theorem push_refines (mergeAllowed : Reg → Bool) (cmd : WriteCmd) (wellFormed : q.WellFormed) :
    (q.push mergeAllowed cmd).1.WellFormed ∧
      pushPending mergeAllowed q.pending cmd =
        ((q.push mergeAllowed cmd).1.pending, (q.push mergeAllowed cmd).2) := by
  unfold push pushPending
  split
  · exact ⟨wellFormed, rfl⟩
  · split
    · have search := findPending_window q cmd q.count wellFormed.head_lt
      rcases search with ⟨missing, absent⟩ | ⟨i, below, found, replaced, merged⟩
      · rw [missing, pending, absent]
        exact append_refines wellFormed
      · rw [found, pending, merged]
        refine ⟨⟨wellFormed.head_lt, wellFormed.tail_eq, wellFormed.count_le⟩, ?_⟩
        have wrapped : slot ((q.head + i) % cmdQueueCapacity) =
            place cmdQueueCapacity (q.head + i) := place_mod (q.head + i) 0
        have rewritten :
            WriteCmd.mk (q.entries (slot (q.head + i))).addr cmd.values cmd.mode = cmd := by
          rw [replaced.1]
        rw [slot_eq] at rewritten
        simp only [pending, setEntry, wrapped, rewritten, window_set wellFormed.count_le below]
    · exact append_refines wellFormed

theorem pop_refines (wellFormed : q.WellFormed) :
    q.pop.1.WellFormed ∧ q.pop.2 = q.pending.head? ∧ q.pop.1.pending = q.pending.tail := by
  unfold pop
  by_cases empty : q.count = 0
  · simp [empty, pending, window, wellFormed]
  · obtain ⟨left, count_eq⟩ := Nat.exists_eq_succ_of_ne_zero empty
    have bound := wellFormed.count_le
    rw [if_neg empty]
    refine ⟨⟨Nat.mod_lt _ (by decide), ?_, by simp; omega⟩, ?_, ?_⟩
    · simp only [wellFormed.tail_eq]
      rw [Nat.mod_add_mod]
      congr 1
      omega
    · simp only [pending, count_eq, Nat.succ_eq_add_one]
      rw [window_succ]
      rfl
    · simp only [pending, count_eq, Nat.succ_eq_add_one, Nat.add_sub_cancel]
      rw [window_mod, window_succ]
      rfl

end CmdQueue

end Rs485Gateway
