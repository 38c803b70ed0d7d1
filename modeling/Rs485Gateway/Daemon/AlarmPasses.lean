import Rs485Gateway.Daemon.Trace
import Rs485Gateway.Device.AlarmEvents

namespace Rs485Gateway.Daemon

open Interaction Rs485Gateway.Lists

/-- The call of `event_fn` an operation stands for. -/
def alarmCall? : DaemonOp → Option (Nat × Reg × AlarmEvent)
  | .alarmEvent _ entry value event => some (entry, value, event)
  | _ => none

def alarmCalls (events : List DaemonEvent) : List (Nat × Reg × AlarmEvent) :=
  events.filterMap fun event => alarmCall? event.1

section Pass

variable {ctx entry : Nat} {profile : DeviceMapProfile} {events : List DaemonEvent}

@[simp] theorem alarmCalls_nil : alarmCalls [] = [] := rfl

@[simp] theorem alarmCalls_append (first second : List DaemonEvent) :
    alarmCalls (first ++ second) = alarmCalls first ++ alarmCalls second :=
  List.filterMap_append

theorem alarmReadRegister_calls {deviceAddress : Reg} {read : Option Reg}
    (run : DaemonRuns (alarmReadRegister ctx entry profile deviceAddress) events read) :
    alarmCalls events = [] := by
  unfold alarmReadRegister at run
  split at run
  · obtain ⟨rfl, -⟩ := Runs.ret_inv run
    rfl
  · obtain rfl := ask_runs run
    rfl

theorem emit_calls {value : Reg} {event : Option AlarmEvent} {done : Unit}
    (run : DaemonRuns (emit ctx entry value event) events done) :
    alarmCalls events = (event.map fun event => (entry, value, event)).toList := by
  cases event with
  | none =>
      obtain ⟨rfl, -⟩ := Runs.ret_inv run
      rfl
  | some event =>
      obtain rfl := ask_runs run
      rfl

theorem runEntry_engine {row : AlarmEntry} {state next : AlarmState}
    (run : DaemonRuns (runEntry ctx entry profile row state) events next) :
    ∃ read, next = (engineEntry row state read).1 ∧
      alarmCalls events = ((engineEntry row state read).2.map fun out => (entry, out)).toList := by
  obtain ⟨asked, read, answered, rfl, reading, rest⟩ := Runs.bind_inv run
  have silent := alarmReadRegister_calls reading
  refine ⟨read, ?_⟩
  rw [alarmCalls_append, silent, List.nil_append]
  cases read with
  | none =>
      obtain ⟨rfl, rfl⟩ := Runs.ret_inv rest
      exact ⟨rfl, rfl⟩
  | some value =>
      obtain ⟨emitted, done, returned, rfl, reporting, tail⟩ := Runs.bind_inv rest
      obtain ⟨rfl, rfl⟩ := Runs.ret_inv tail
      refine ⟨rfl, ?_⟩
      rw [List.append_nil, emit_calls reporting, engineEntry, Option.map_map]
      rfl

/-- A pass of the thread over a table is a pass of the engine, for the answers it got. -/
theorem runEntries_engine (rows : List (AlarmEntry × AlarmState)) {first : Nat}
    {events : List DaemonEvent} {states : List AlarmState}
    (run : DaemonRuns (runEntries ctx profile first rows) events states) :
    ∃ reads, states = (bankPass engineEntry reads first rows).1 ∧
      alarmCalls events = (bankPass engineEntry reads first rows).2 := by
  induction rows generalizing first events states with
  | nil =>
      obtain ⟨rfl, rfl⟩ := Runs.ret_inv run
      exact ⟨fun _ => none, rfl, rfl⟩
  | cons cell rest ih =>
      obtain ⟨head, next, tail, rfl, entryRun, restRun⟩ := Runs.bind_inv run
      obtain ⟨later, others, returned, rfl, laterRun, last⟩ := Runs.bind_inv restRun
      obtain ⟨rfl, rfl⟩ := Runs.ret_inv last
      obtain ⟨read, rfl, called⟩ := runEntry_engine entryRun
      obtain ⟨reads, rfl, laterCalled⟩ := ih laterRun
      have apart := @bankPass_congr _ _ _ _ engineEntry reads (assign reads first read)
        (first + 1) rest fun i above => (assign_other _ _ (by omega)).symm
      refine ⟨assign reads first read, ?_, ?_⟩
      · rw [bankPass, assign_self, ← apart]
      · rw [bankPass, assign_self, ← apart, List.append_nil, alarmCalls_append, called,
          laterCalled]

theorem alarmEngineRun_engine {table : List AlarmEntry} {before after : List AlarmState}
    (run : DaemonRuns (Daemon.alarmEngineRun ctx profile table before) events after) :
    ∃ reads, (after, alarmCalls events) = Rs485Gateway.alarmEngineRun table before reads := by
  obtain ⟨reads, rfl, called⟩ := runEntries_engine (table.zip before) run
  exact ⟨reads, Prod.ext rfl called⟩

end Pass

end Rs485Gateway.Daemon
