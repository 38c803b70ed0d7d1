import Rs485Gateway.Device.Maps
import Rs485Gateway.Modbus.Defines

/-! The write command ring of a unit (`queue_push`, `queue_pop`), each call
atomic under the queue lock. -/

namespace Rs485Gateway

open Interaction

def cmdQueueCapacity : Nat := 16

inductive WriteMode where
  | auto
  | fc06
  | fc16
  deriving DecidableEq

structure WriteCmd where
  addr : Reg
  values : List Reg
  mode : WriteMode
  deriving DecidableEq

structure CmdQueue where
  entries : Fin cmdQueueCapacity → WriteCmd
  head : Nat
  tail : Nat
  count : Nat

def queueInit : CmdQueue where
  entries := fun _ => { addr := 0, values := [], mode := .auto }
  head := 0
  tail := 0
  count := 0

namespace CmdQueue

def slot (index : Nat) : Fin cmdQueueCapacity :=
  ⟨index % cmdQueueCapacity, Nat.mod_lt _ (by decide)⟩

/-- The first pending single-register entry for `addr`, from `idx` on. -/
def findPending (q : CmdQueue) (addr : Reg) : Nat → Nat → Option Nat
  | 0, _ => none
  | todo + 1, idx =>
      let entry := q.entries (slot idx)
      if entry.addr = addr ∧ entry.values.length = 1 then some idx
      else findPending q addr todo ((idx + 1) % cmdQueueCapacity)

def setEntry (q : CmdQueue) (idx : Nat) (entry : WriteCmd) : CmdQueue :=
  { q with entries := assign q.entries (slot idx) entry }

def append (q : CmdQueue) (cmd : WriteCmd) : CmdQueue × Bool :=
  if q.count ≥ cmdQueueCapacity then (q, false)
  else ({ q.setEntry q.tail cmd with
            tail := (q.tail + 1) % cmdQueueCapacity, count := q.count + 1 }, true)

def push (mergeAllowed : Reg → Bool) (q : CmdQueue) (cmd : WriteCmd) : CmdQueue × Bool :=
  if cmd.values.length = 0 ∨ cmd.values.length > modbusMaxWriteRegisters then (q, false)
  else if cmd.values.length = 1 ∧ mergeAllowed cmd.addr then
    match q.findPending cmd.addr q.count q.head with
    | some idx =>
        (q.setEntry idx { q.entries (slot idx) with mode := cmd.mode, values := cmd.values }, true)
    | none => q.append cmd
  else q.append cmd

def pop (q : CmdQueue) : CmdQueue × Option WriteCmd :=
  if q.count = 0 then (q, none)
  else ({ q with head := (q.head + 1) % cmdQueueCapacity, count := q.count - 1 },
        some (q.entries (slot q.head)))

end CmdQueue

end Rs485Gateway
