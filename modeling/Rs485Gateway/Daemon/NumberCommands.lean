import Rs485Gateway.Daemon.PairedWrites
import Rs485Gateway.Lists.Numerals

namespace Rs485Gateway

open Interaction Rs485Gateway.Lists

inductive NumberCommand where
  | frequencyWrite
  | operation
  | faultControl
  | initInverter
  | initUps
  | rebootUps
  deriving DecidableEq

namespace NumberCommand

def kind : NumberCommand → DeviceKind
  | frequencyWrite | operation | faultControl | initInverter => .inverter
  | initUps | rebootUps => .ups

def isRequest : NumberCommand → Bool
  | frequencyWrite | operation | faultControl => false
  | initInverter | initUps | rebootUps => true

def handler (daemon : Daemon) : NumberCommand → UInt64 → DaemonProg Unit
  | frequencyWrite => daemon.onFrequencyWriteCmd
  | operation => daemon.onOperationCmd
  | faultControl => daemon.onFaultControlCmd
  | initInverter => daemon.onInitInverterCmd
  | initUps => daemon.onInitUpsCmd
  | rebootUps => daemon.onRebootUpsCmd

/-- What may be done about the number: its own write, a stop for zero, a request for one. -/
def carries (n : Nat) : NumberCommand → DaemonOp → Prop
  | frequencyWrite, .queuePush _ cmd =>
      if cmd.addr = devOperationCmdReg then cmd.values = [Daemon.stopOperation] → n = 0
      else cmd.values.map UInt16.toNat = [n]
  | _, .queuePush _ cmd => cmd.values.map UInt16.toNat = [n]
  | _, .requestInit _ | _, .requestReboot _ => n = 1
  | _, _ => True

end NumberCommand

def acted : DaemonEvent → Bool
  | ⟨.queuePush _ _, accepted⟩ => accepted
  | ⟨.requestInit _, _⟩ | ⟨.requestReboot _, _⟩ => true
  | _ => false

/-- However its operations are answered, the callback acts on the number in the text or not
at all. -/
def ActsExactly (daemon : Daemon) (command : NumberCommand) (n : Nat) : Prop :=
  ∀ events, DaemonRuns (command.handler daemon (strtoul (decimal n))) events () →
    ∀ event ∈ events, acted event = true → command.carries n event.1

section Narrowing

variable {n : Nat}

theorem narrowed_toNat (n : Nat) :
    (strtoul (decimal n)).toUInt16.toNat = min n (2 ^ 64 - 1) % 65536 := by
  have fits : min n (2 ^ 64 - 1) < 2 ^ 64 := by omega
  rw [strtoul_decimal, UInt64.toNat_toUInt16, UInt64.toNat_ofNat_of_lt' fits]

theorem narrowed_small (small : n < 65536) : (strtoul (decimal n)).toUInt16.toNat = n := by
  rw [narrowed_toNat]
  omega

theorem narrowed_zero (small : n < 65536) : (strtoul (decimal n)).toUInt16 = 0 ↔ n = 0 := by
  rw [← UInt16.toNat_inj, narrowed_small small]
  rfl

/-- A number is taken for one where its last 16 bits are, as long as `strtoul` returns it. -/
theorem narrowed_one : (strtoul (decimal n)).toUInt16 = 1 ↔ n < 2 ^ 64 ∧ n % 65536 = 1 := by
  rw [← UInt16.toNat_inj, narrowed_toNat]
  change min n (2 ^ 64 - 1) % 65536 = 1 ↔ _
  omega

end Narrowing

section Exact

variable {daemon : Daemon} {n : Nat} {command : NumberCommand}

theorem actsExactly_of_uses
    (uses : Uses (command.carries n) (fun _ => False)
      (command.handler daemon (strtoul (decimal n)))) :
    ActsExactly daemon command n :=
  fun _ run event member _ => uses.runs (fun _ never => never.elim) run event member

theorem actsExactly_request (requests : command.isRequest = true)
    (one : (strtoul (decimal n)).toUInt16 = 1 → n = 1) : ActsExactly daemon command n := by
  apply actsExactly_of_uses
  cases command with
  | initInverter | initUps | rebootUps =>
      exact Daemon.onRequestCmd_uses _ fun same _ => ⟨one same, fun _ => trivial⟩
  | frequencyWrite | operation | faultControl => cases requests

theorem actsExactly_small (small : n < 65536) : ActsExactly daemon command n := by
  have value := narrowed_small small
  have whole : [(strtoul (decimal n)).toUInt16].map UInt16.toNat = [n] := by
    rw [List.map_singleton, value]
  cases command with
  | initInverter | initUps | rebootUps =>
      apply actsExactly_request rfl
      intro same
      rw [← value, same]
      rfl
  | operation =>
      apply actsExactly_of_uses
      simp only [NumberCommand.handler, Daemon.onOperationCmd]
      split
      · trivial
      · exact (Daemon.onWrite_uses fun _ => whole).bind fun _ => trivial
  | faultControl =>
      apply actsExactly_of_uses
      simp only [NumberCommand.handler, Daemon.onFaultControlCmd]
      split
      · trivial
      · exact (Daemon.onWrite_uses fun _ => whole).bind fun _ => trivial
  | frequencyWrite =>
      apply actsExactly_of_uses
      simp only [NumberCommand.handler, Daemon.onFrequencyWriteCmd]
      split
      · trivial
      · split
        · rename_i stops
          have zero := (narrowed_zero small).mp stops
          exact Daemon.queueFrequency_uses (fun _ => whole) fun _ _ => zero
        · exact Daemon.queueFrequency_uses (fun _ => whole) fun _ same => absurd same (by decide)

theorem actsExactly_none (stopped : daemon.units command.kind = []) :
    ActsExactly daemon command n := by
  apply actsExactly_of_uses
  have primary : daemon.primaryUid command.kind = none := by
    rw [Daemon.primaryUid, stopped]
    rfl
  cases command with
  | initInverter | initUps | rebootUps =>
      simp only [NumberCommand.kind] at primary
      simp only [NumberCommand.handler, Daemon.onInitInverterCmd, Daemon.onInitUpsCmd,
        Daemon.onRebootUpsCmd, Daemon.onRequestCmd, primary, Option.bind_none]
      split <;> trivial
  | frequencyWrite | operation | faultControl =>
      simp only [NumberCommand.kind] at primary
      simp only [NumberCommand.handler, Daemon.onFrequencyWriteCmd, Daemon.onOperationCmd,
        Daemon.onFaultControlCmd, primary]
      trivial

end Exact

section Running

variable {daemon : Daemon} {unit : DeviceUnit} {rest : List DeviceUnit}

theorem primaryUid_running (kind : DeviceKind) (running : daemon.units kind = unit :: rest) :
    daemon.primaryUid kind = some (UInt8.ofInt unit.cfg.modbusUid) := by
  rw [Daemon.primaryUid, running]
  rfl

theorem onWrite_run (running : daemon.inverters = unit :: rest) {addr : Reg}
    {row : DeviceRegisterMapping} (mapped : deviceFindSlot inverter1Profile addr = some row)
    (writable : row.access ≠ .ro) (val : Reg) :
    DaemonRuns (daemon.onWrite (UInt8.ofInt unit.cfg.modbusUid) addr val)
      [⟨.queuePush primaryInverter ⟨addr, [val], .auto⟩, true⟩] .ok := by
  rw [onWrite_primary running mapped writable]
  exact .op (.ret _)

theorem queueFrequency_run (running : daemon.inverters = unit :: rest) (frequency operation : Reg) :
    ∃ later, DaemonRuns
      (daemon.queueFrequency (UInt8.ofInt unit.cfg.modbusUid) frequency operation)
      (⟨.queuePush primaryInverter (frequencyCmd frequency), true⟩ :: later) () := by
  have first := onWrite_run running frequency_mapped (by decide) frequency
  have second := onWrite_run running operation_mapped (by decide) operation
  exact ⟨_, first.bind (second.bind (.ret _))⟩

theorem faultControl_mapped : deviceFindSlot inverter1Profile devFaultControlCmdReg =
    some ⟨0x2002, 0xA10D, .rw⟩ := by decide +kernel

theorem write_run {command : NumberCommand} (writes : command.isRequest = false)
    (running : daemon.inverters = unit :: rest) (value : UInt64) :
    ∃ events cmd, DaemonRuns (command.handler daemon value) events () ∧
      ⟨.queuePush primaryInverter cmd, true⟩ ∈ events ∧ cmd.values = [value.toUInt16] ∧
      (command = .frequencyWrite → cmd.addr = devFrequencyCmdReg) := by
  have primary := primaryUid_running .inverter running
  cases command with
  | initInverter | initUps | rebootUps => cases writes
  | operation =>
      have run := onWrite_run running operation_mapped (by decide) value.toUInt16
      simp only [NumberCommand.handler, Daemon.onOperationCmd, primary]
      exact ⟨_, _, run.bind (.ret _), List.mem_cons_self .., rfl, NumberCommand.noConfusion⟩
  | faultControl =>
      have run := onWrite_run running faultControl_mapped (by decide) value.toUInt16
      simp only [NumberCommand.handler, Daemon.onFaultControlCmd, primary]
      exact ⟨_, _, run.bind (.ret _), List.mem_cons_self .., rfl, NumberCommand.noConfusion⟩
  | frequencyWrite =>
      simp only [NumberCommand.handler, Daemon.onFrequencyWriteCmd, primary]
      split
      · rcases queueFrequency_run running value.toUInt16 Daemon.stopOperation with ⟨later, run⟩
        exact ⟨_, _, run, List.mem_cons_self .., rfl, fun _ => rfl⟩
      · rcases queueFrequency_run running value.toUInt16 Daemon.runOperation with ⟨later, run⟩
        exact ⟨_, _, run, List.mem_cons_self .., rfl, fun _ => rfl⟩

theorem onRequestCmd_primary {kind : DeviceKind} (running : daemon.units kind = unit :: rest)
    {value : UInt64} (one : value.toUInt16 = 1) (request : UnitId → DaemonProg Unit) :
    daemon.onRequestCmd kind request value = request ⟨kind, 0⟩ := by
  rw [Daemon.onRequestCmd, if_neg (not_not.mpr one), primaryUid_running kind running,
    Option.bind_some, primary_target kind running]

theorem request_run {command : NumberCommand} (requests : command.isRequest = true)
    (running : daemon.units command.kind = unit :: rest) {value : UInt64}
    (one : value.toUInt16 = 1) :
    ∃ event, DaemonRuns (command.handler daemon value) [event] () ∧ acted event = true ∧
      ∀ n, command.carries n event.1 → n = 1 := by
  cases command with
  | frequencyWrite | operation | faultControl => cases requests
  | initInverter =>
      change daemon.units .inverter = unit :: rest at running
      refine ⟨⟨.requestInit ⟨.inverter, 0⟩, ()⟩, ?_, rfl, fun _ => id⟩
      rw [NumberCommand.handler, Daemon.onInitInverterCmd, onRequestCmd_primary running one]
      exact .op (.ret _)
  | initUps =>
      change daemon.units .ups = unit :: rest at running
      refine ⟨⟨.requestInit ⟨.ups, 0⟩, ()⟩, ?_, rfl, fun _ => id⟩
      rw [NumberCommand.handler, Daemon.onInitUpsCmd, onRequestCmd_primary running one]
      exact .op (.ret _)
  | rebootUps =>
      change daemon.units .ups = unit :: rest at running
      refine ⟨⟨.requestReboot ⟨.ups, 0⟩, ()⟩, ?_, rfl, fun _ => id⟩
      rw [NumberCommand.handler, Daemon.onRebootUpsCmd, onRequestCmd_primary running one]
      exact .op (.ret _)

end Running

/-- A number command acts on the number it was sent or not at all if and only if the number
fits a register, no unit is there to act on, or the low 16 bits of what `strtoul` returns
request nothing. -/
theorem numberCommands_exact (daemon : Daemon) (command : NumberCommand) (n : Nat) :
    ActsExactly daemon command n ↔ n < 65536 ∨ daemon.units command.kind = [] ∨
      command.isRequest = true ∧ (n % 65536 ≠ 1 ∨ 2 ^ 64 ≤ n) := by
  constructor
  · intro acts
    by_contra fails
    simp only [not_or, not_and, not_lt, not_le, not_not] at fails
    rcases fails with ⟨large, present, lowOne⟩
    rcases List.exists_cons_of_ne_nil present with ⟨unit, rest, running⟩
    cases requests : command.isRequest with
    | true =>
        rcases lowOne requests with ⟨one, read⟩
        rcases request_run requests running (narrowed_one.mpr ⟨read, one⟩) with
          ⟨event, run, done, only⟩
        have isOne := only n (acts _ run event (List.mem_singleton_self event) done)
        omega
    | false =>
        have inverter : command.kind = .inverter := by
          cases command <;> first | rfl | cases requests
        rw [inverter] at running
        rcases write_run requests running (strtoul (decimal n)) with
          ⟨events, cmd, run, member, queued, frequency⟩
        have carried := acts events run _ member rfl
        have narrow := (strtoul (decimal n)).toUInt16.toNat_lt
        have whole : cmd.values.map UInt16.toNat = [n] := by
          cases command with
          | initInverter | initUps | rebootUps => cases requests
          | operation | faultControl => exact carried
          | frequencyWrite =>
              have apart : cmd.addr ≠ devOperationCmdReg := by
                rw [frequency rfl]
                decide
              rwa [NumberCommand.carries, if_neg apart] at carried
        rw [queued, List.map_singleton] at whole
        have same := List.head_eq_of_cons_eq whole
        omega
  · rintro (small | stopped | ⟨requests, other⟩)
    · exact actsExactly_small small
    · exact actsExactly_none stopped
    · apply actsExactly_request requests
      intro one
      rcases narrowed_one.mp one with ⟨read, lowOne⟩
      omega

/-- The text 65537 starts the inverter's init sequence. -/
theorem initInverter_65537 : ¬ ActsExactly Daemon.loneInverter .initInverter 65537 := by
  intro acts
  have one : (strtoul (decimal 65537)).toUInt16 = 1 := narrowed_one.mpr (by decide)
  have running : Daemon.loneInverter.units NumberCommand.initInverter.kind = [tcpInverter] := rfl
  rcases request_run rfl running one with ⟨event, run, done, only⟩
  exact absurd (only 65537 (acts _ run event (List.mem_singleton_self event) done)) (by decide)

end Rs485Gateway
