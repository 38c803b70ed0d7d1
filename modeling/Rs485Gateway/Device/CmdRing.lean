import Mathlib.Data.List.GetD
import Rs485Gateway.Device.PendingWrites

/-! The command ring with its slots as they are stored: an array of values, of which the
first `count` belong to the command, and whatever an earlier command left behind them. -/

namespace Rs485Gateway

open Interaction Rs485Gateway.Lists

structure RingEntry where
  addr : Reg
  values : Fin modbusMaxWriteRegisters → Reg
  count : Nat
  mode : WriteMode

structure CmdRing where
  entries : Fin cmdQueueCapacity → RingEntry
  head : Nat
  tail : Nat
  count : Nat

/-- `memset` over the whole queue. -/
def ringInit : CmdRing where
  entries := fun _ => ⟨0, fun _ => 0, 0, .auto⟩
  head := 0
  tail := 0
  count := 0

def copyValues (old : Fin modbusMaxWriteRegisters → Reg) (values : List Reg) :
    Fin modbusMaxWriteRegisters → Reg :=
  fun i => values.getD i (old i)

def RingEntry.cmd (entry : RingEntry) : WriteCmd where
  addr := entry.addr
  values := (List.ofFn entry.values).take entry.count
  mode := entry.mode

namespace CmdRing

open CmdQueue (slot)

def findPending (ring : CmdRing) (addr : Reg) : Nat → Nat → Option Nat
  | 0, _ => none
  | todo + 1, idx =>
      let entry := ring.entries (slot idx)
      if entry.addr = addr ∧ entry.count = 1 then some idx
      else findPending ring addr todo ((idx + 1) % cmdQueueCapacity)

def setEntry (ring : CmdRing) (idx : Nat) (entry : RingEntry) : CmdRing :=
  { ring with entries := assign ring.entries (slot idx) entry }

def append (ring : CmdRing) (cmd : WriteCmd) : CmdRing × Bool :=
  if ring.count ≥ cmdQueueCapacity then (ring, false)
  else
    let old := ring.entries (slot ring.tail)
    ({ ring.setEntry ring.tail
          ⟨cmd.addr, copyValues old.values cmd.values, cmd.values.length, cmd.mode⟩ with
        tail := (ring.tail + 1) % cmdQueueCapacity, count := ring.count + 1 }, true)

/-- `queue_push` with the length of `values` for its `count`. -/
def push (mergeAllowed : Reg → Bool) (ring : CmdRing) (cmd : WriteCmd) : CmdRing × Bool :=
  if cmd.values.length = 0 ∨ cmd.values.length > modbusMaxWriteRegisters then (ring, false)
  else if cmd.values.length = 1 ∧ mergeAllowed cmd.addr then
    match ring.findPending cmd.addr ring.count ring.head with
    | some idx =>
        let entry := ring.entries (slot idx)
        (ring.setEntry idx { entry with
            mode := cmd.mode,
            values := assign entry.values ⟨0, by decide⟩ (cmd.values.getD 0 0) }, true)
    | none => ring.append cmd
  else ring.append cmd

def pop (ring : CmdRing) : CmdRing × Option RingEntry :=
  if ring.count = 0 then (ring, none)
  else ({ ring with head := (ring.head + 1) % cmdQueueCapacity, count := ring.count - 1 },
        some (ring.entries (slot ring.head)))

/-- The ring without what lies behind the commands in their slots. -/
def queue (ring : CmdRing) : CmdQueue where
  entries := fun i => (ring.entries i).cmd
  head := ring.head
  tail := ring.tail
  count := ring.count

end CmdRing

section Entry

theorem cmd_copied (addr : Reg) (old : Fin modbusMaxWriteRegisters → Reg) {values : List Reg}
    (few : values.length ≤ modbusMaxWriteRegisters) (mode : WriteMode) :
    RingEntry.cmd ⟨addr, copyValues old values, values.length, mode⟩ = ⟨addr, values, mode⟩ := by
  have same : (List.ofFn (copyValues old values)).take values.length = values := by
    apply List.ext_getElem
    · rw [List.length_take, List.length_ofFn, Nat.min_eq_left few]
    · intro i bound inside
      rw [List.getElem_take, List.getElem_ofFn, copyValues, List.getD_eq_getElem _ _ inside]
  rw [RingEntry.cmd, same]

theorem cmd_merged {entry : RingEntry} (single : entry.count = 1) (value : Reg) (mode : WriteMode) :
    RingEntry.cmd { entry with
        mode := mode, values := assign entry.values ⟨0, by decide⟩ value } =
      ⟨entry.addr, [value], mode⟩ := by
  have same : (List.ofFn (assign entry.values ⟨0, by decide⟩ value)).take 1 = [value] := by
    apply List.ext_getElem
    · rw [List.length_take, List.length_ofFn]
      rfl
    · intro i bound inside
      obtain rfl : i = 0 := Nat.lt_one_iff.mp inside
      rw [List.getElem_take, List.getElem_ofFn, assign_self]
      rfl
  rw [RingEntry.cmd, single, same]

theorem cmd_single (entry : RingEntry) : entry.cmd.values.length = 1 ↔ entry.count = 1 := by
  rw [RingEntry.cmd, List.length_take, List.length_ofFn, modbusMaxWriteRegisters]
  omega

end Entry

namespace CmdRing

open CmdQueue (slot)

variable {ring : CmdRing} {cmd : WriteCmd} {mergeAllowed : Reg → Bool}

@[simp] theorem queue_count : ring.queue.count = ring.count := rfl

theorem findPending_queue (addr : Reg) (todo idx : Nat) :
    ring.queue.findPending addr todo idx = ring.findPending addr todo idx := by
  induction todo generalizing idx with
  | zero => rfl
  | succ todo ih =>
      have test : (ring.queue.entries (slot idx)).values.length = 1 ↔
          (ring.entries (slot idx)).count = 1 := cmd_single _
      rw [CmdQueue.findPending, findPending, ih]
      simp only [test]
      rfl

theorem findPending_single {addr : Reg} {todo idx found : Nat}
    (search : ring.findPending addr todo idx = some found) :
    (ring.entries (slot found)).count = 1 := by
  rw [← findPending_queue] at search
  exact (cmd_single _).mp (CmdQueue.findPending_found search).2

theorem setEntry_queue (idx : Nat) (entry : RingEntry) :
    (ring.setEntry idx entry).queue = ring.queue.setEntry idx entry.cmd := by
  have entries : (fun i => (assign ring.entries (slot idx) entry i).cmd) =
      assign (fun i => (ring.entries i).cmd) (slot idx) entry.cmd := by
    funext i
    by_cases here : i = slot idx
    · rw [here, assign_self, assign_self]
    · rw [assign_other _ _ here, assign_other _ _ here]
  rw [queue, CmdQueue.setEntry, queue]
  exact congrArg (fun entries => CmdQueue.mk entries ring.head ring.tail ring.count) entries

theorem append_queue (few : cmd.values.length ≤ modbusMaxWriteRegisters) :
    ring.queue.append cmd = ((ring.append cmd).1.queue, (ring.append cmd).2) := by
  rw [CmdQueue.append, append, queue_count]
  by_cases full : ring.count ≥ cmdQueueCapacity
  · rw [if_pos full, if_pos full]
  · have stored := @setEntry_queue ring ring.tail ⟨cmd.addr,
      copyValues (ring.entries (slot ring.tail)).values cmd.values, cmd.values.length, cmd.mode⟩
    rw [cmd_copied cmd.addr _ few cmd.mode] at stored
    have entries := congrArg CmdQueue.entries stored.symm
    rw [if_neg full, if_neg full]
    exact congrArg (fun entries => (CmdQueue.mk entries ring.head
      ((ring.tail + 1) % cmdQueueCapacity) (ring.count + 1), true)) entries

/-- A push keeps what the slots stand for in step. -/
theorem push_queue (mergeAllowed : Reg → Bool) (ring : CmdRing) (cmd : WriteCmd) :
    ring.queue.push mergeAllowed cmd =
      ((ring.push mergeAllowed cmd).1.queue, (ring.push mergeAllowed cmd).2) := by
  have search := @findPending_queue ring cmd.addr ring.count ring.head
  rw [CmdQueue.push, push]
  by_cases invalid : cmd.values.length = 0 ∨ cmd.values.length > modbusMaxWriteRegisters
  · rw [if_pos invalid, if_pos invalid]
  · have few : cmd.values.length ≤ modbusMaxWriteRegisters := by omega
    rw [if_neg invalid, if_neg invalid]
    by_cases mergeable : cmd.values.length = 1 ∧ mergeAllowed cmd.addr = true
    · rw [if_pos mergeable, if_pos mergeable]
      change (match ring.queue.findPending cmd.addr ring.count ring.head with
        | some idx => (_, true)
        | none => ring.queue.append cmd) = _
      rw [search]
      cases found : ring.findPending cmd.addr ring.count ring.head with
      | none => exact append_queue few
      | some idx =>
          obtain ⟨value, values_eq⟩ := List.length_eq_one_iff.mp mergeable.1
          have single := findPending_single found
          have first : cmd.values.getD 0 0 = value := by rw [values_eq, List.getD_cons_zero]
          have stored := @setEntry_queue ring idx { ring.entries (slot idx) with
            mode := cmd.mode,
            values := assign (ring.entries (slot idx)).values ⟨0, by decide⟩ value }
          rw [cmd_merged single, ← values_eq] at stored
          simp only [first, stored]
          rfl
    · rw [if_neg mergeable, if_neg mergeable]
      exact append_queue few

theorem pop_queue (ring : CmdRing) :
    ring.queue.pop = (ring.pop.1.queue, ring.pop.2.map RingEntry.cmd) := by
  rw [CmdQueue.pop, pop, queue_count]
  by_cases empty : ring.count = 0
  · rw [if_pos empty, if_pos empty]
    rfl
  · rw [if_neg empty, if_neg empty]
    rfl

end CmdRing

end Rs485Gateway
