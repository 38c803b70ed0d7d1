import Rs485Gateway.Daemon.Trace
import Rs485Gateway.Device.PendingWrites

namespace Rs485Gateway

open Interaction Rs485Gateway.Lists

def block (addr : Reg) (values : List Reg) : List (Reg × Reg) :=
  values.zipIdx.map fun value => (addr + UInt16.ofNat value.2, value.1)

namespace WriteCmd

def writes (cmd : WriteCmd) : List (Reg × Reg) := block cmd.addr cmd.values

/-- `write_registers_locked` turns a block down that is to be written with FC06. -/
def sent (cmd : WriteCmd) : List (Reg × Reg) :=
  if cmd.mode = .fc06 ∧ cmd.values.length ≠ 1 then [] else cmd.writes

end WriteCmd

def sentBy : DaemonEvent → List (Reg × Reg)
  | ⟨.writeSingle _ addr value, .ok⟩ => [(addr, value)]
  | ⟨.writeMultiple _ addr values, .ok⟩ => block addr values
  | _ => []

def sentWrites (events : List DaemonEvent) : List (Reg × Reg) := events.flatMap sentBy

def registersAfter (image : Reg → Reg) (events : List DaemonEvent) : Reg → Reg :=
  writeAll image (sentWrites events)

def wroteOk : DaemonEvent → Prop
  | ⟨.writeSingle _ _ _, answer⟩ => answer = Rc.ok
  | ⟨.writeMultiple _ _ _, answer⟩ => answer = Rc.ok
  | _ => True

def WritesOk (events : List DaemonEvent) : Prop := ∀ event ∈ events, wroteOk event

theorem WritesOk.nil : WritesOk [] := fun _ listed => absurd listed List.not_mem_nil

theorem WritesOk.cons {event : DaemonEvent} {events : List DaemonEvent} (here : wroteOk event)
    (later : WritesOk events) : WritesOk (event :: events) :=
  List.forall_mem_cons.mpr ⟨here, later⟩

theorem WritesOk.left {first second : List DaemonEvent} (worked : WritesOk (first ++ second)) :
    WritesOk first :=
  fun event member => worked event (List.mem_append_left _ member)

theorem WritesOk.right {first second : List DaemonEvent} (worked : WritesOk (first ++ second)) :
    WritesOk second :=
  fun event member => worked event (List.mem_append_right _ member)

theorem WritesOk.append {first second : List DaemonEvent} (head : WritesOk first)
    (tail : WritesOk second) : WritesOk (first ++ second) := by
  intro event member
  rcases List.mem_append.mp member with early | late
  · exact head event early
  · exact tail event late

@[simp] theorem sentWrites_nil : sentWrites [] = [] := rfl

@[simp] theorem sentWrites_cons (event : DaemonEvent) (events : List DaemonEvent) :
    sentWrites (event :: events) = sentBy event ++ sentWrites events := rfl

@[simp] theorem sentWrites_append (first second : List DaemonEvent) :
    sentWrites (first ++ second) = sentWrites first ++ sentWrites second :=
  List.flatMap_append

theorem block_single {addr : Reg} {values : List Reg} (single : values.length = 1) :
    block addr values = [(addr, values.headD 0)] := by
  obtain ⟨value, rfl⟩ := List.length_eq_one_iff.mp single
  simp [block]

section Write

variable {unit : DeviceUnit} {cmd : WriteCmd} {events : List DaemonEvent} {result : Rc}

/-- One FC06 or FC16 request, or nothing at all. -/
theorem writeRegistersLocked_cases
    (run : DaemonRuns (writeRegistersLocked unit cmd.addr cmd.values cmd.mode) events result) :
    (events = [] ∧ result = .fail ∧ cmd.mode = .fc06 ∧ cmd.values.length ≠ 1) ∨
      (events = [⟨.writeSingle (busPath unit) cmd.addr (cmd.values.headD 0), result⟩] ∧
        cmd.values.length = 1) ∨
      events = [⟨.writeMultiple (busPath unit) cmd.addr cmd.values, result⟩] ∧
        cmd.mode ≠ .fc06 := by
  unfold writeRegistersLocked at run
  cases mode : cmd.mode with
  | fc06 =>
      rw [mode] at run
      simp only at run
      split at run
      · rename_i several
        obtain ⟨rfl, rfl⟩ := Runs.ret_inv run
        exact .inl ⟨rfl, rfl, rfl, several⟩
      · rename_i single
        exact .inr (.inl ⟨ask_runs run, by simpa using single⟩)
  | fc16 =>
      rw [mode] at run
      exact .inr (.inr ⟨ask_runs run, by simp⟩)
  | auto =>
      rw [mode] at run
      simp only at run
      split at run
      · rename_i single
        exact .inr (.inl ⟨ask_runs run, single⟩)
      · exact .inr (.inr ⟨ask_runs run, by simp⟩)

theorem writeRegistersLocked_sends
    (run : DaemonRuns (writeRegistersLocked unit cmd.addr cmd.values cmd.mode) events result)
    (worked : WritesOk events) : sentWrites events = cmd.sent := by
  rcases writeRegistersLocked_cases run with ⟨rfl, -, fc06, several⟩ | ⟨rfl, single⟩ | ⟨rfl, block⟩
  · simp [WriteCmd.sent, fc06, several]
  · have answered : result = .ok := worked _ List.mem_cons_self
    simp [sentBy, answered, WriteCmd.sent, WriteCmd.writes, single, block_single]
  · have answered : result = .ok := worked _ List.mem_cons_self
    simp [sentBy, answered, WriteCmd.sent, WriteCmd.writes, block]

theorem writeRegistersLocked_ok
    (run : DaemonRuns (writeRegistersLocked unit cmd.addr cmd.values cmd.mode) events .ok) :
    sentWrites events = cmd.writes := by
  rcases writeRegistersLocked_cases run with ⟨-, failed, -⟩ | ⟨rfl, single⟩ | ⟨rfl, -⟩
  · cases failed
  · simp [sentBy, WriteCmd.writes, single, block_single]
  · simp [sentBy, WriteCmd.writes]

end Write

end Rs485Gateway
