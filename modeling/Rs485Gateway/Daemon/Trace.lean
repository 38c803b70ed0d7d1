import Rs485Gateway.Daemon.System
import Rs485Gateway.Lists.Updates

namespace Rs485Gateway

open Interaction

def poolStep (pool : Pool) : DaemonOp → Pool
  | .poolStore poolAddress value => assign pool poolAddress value
  | .poolWrite poolAddress value => (poolWriteRegister pool poolAddress value).1
  | _ => pool

def poolAfter (pool : Pool) (events : List DaemonEvent) : Pool :=
  events.foldl (fun pool event => poolStep pool event.1) pool

structure DeviceRead where
  start : Reg
  count : Reg
  answer : Option (Fin count.toNat → Reg)

def deviceRead? : DaemonEvent → Option DeviceRead
  | ⟨.readHolding _ addr count, answer⟩ => some ⟨addr, count, answer⟩
  | _ => none

def deviceReads (events : List DaemonEvent) : List DeviceRead :=
  events.filterMap deviceRead?

def DeviceRead.addresses (read : DeviceRead) : List Nat :=
  (List.range read.count.toNat).map fun i => read.start.toNat + i

theorem offset_iff {start address : Reg} {i : Nat} (bound : i < 65536) :
    start + UInt16.ofNat i = address ↔ i = (address - start).toNat := by
  have first := start.toNat_lt
  have second := address.toNat_lt
  rw [← UInt16.toNat_inj, UInt16.toNat_add, UInt16.toNat_sub, UInt16.toNat_ofNat']
  omega

namespace DeviceRead

def value? (read : DeviceRead) (address : Reg) : Option Reg :=
  read.answer.bind fun values =>
    if inside : (address - read.start).toNat < read.count.toNat then
      some (values ⟨(address - read.start).toNat, inside⟩)
    else none

theorem value?_index {start count : Reg} (values : Fin count.toNat → Reg) (i : Fin count.toNat) :
    (DeviceRead.mk start count (some values)).value? (start + UInt16.ofNat i.val) =
      some (values i) := by
  have bound : i.val < 65536 := i.isLt.trans count.toNat_lt
  have offset : (start + UInt16.ofNat i.val - start).toNat = i.val :=
    ((offset_iff bound).mp rfl).symm
  simp only [value?, Option.bind_some, offset, i.isLt, dif_pos]

end DeviceRead

section Append

variable {pool : Pool} {event : DaemonEvent} {first second : List DaemonEvent}

@[simp] theorem poolAfter_nil : poolAfter pool [] = pool := rfl

@[simp] theorem poolAfter_cons :
    poolAfter pool (event :: second) = poolAfter (poolStep pool event.1) second := rfl

@[simp] theorem poolAfter_append :
    poolAfter pool (first ++ second) = poolAfter (poolAfter pool first) second :=
  List.foldl_append

@[simp] theorem deviceReads_nil : deviceReads [] = [] := rfl

@[simp] theorem deviceReads_append :
    deviceReads (first ++ second) = deviceReads first ++ deviceReads second :=
  List.filterMap_append

end Append

/-- The effect of events on the pool is what the shared state sees. -/
theorem perform_pool {t : ThreadId} {choice : Choice} {s s' : Shared} {operation : DaemonOp}
    {result : Option operation.Res} (performed : perform t choice s operation = some (result, s')) :
    s'.pool = poolStep s.pool operation := by
  cases operation with
  | message kind =>
      cases kind <;> cases choice <;> simp [perform] at performed <;> simp [← performed.2, poolStep]
  | readHolding line addr count =>
      cases choice with
      | answer values =>
          cases values with
          | none =>
              simp only [perform, Option.some.injEq, Prod.mk.injEq] at performed
              simp [← performed.2, poolStep]
          | some values =>
              obtain ⟨answer, _, pair⟩ := Option.map_eq_some_iff.mp performed
              cases pair
              rfl
      | _ => simp [perform] at performed
  | connect => cases choice <;> simp [perform] at performed; simp [← performed.2, poolStep]
  | writeSingle line addr value =>
      cases choice <;> simp [perform] at performed; simp [← performed.2, poolStep]
  | writeMultiple line addr values =>
      cases choice <;> simp [perform] at performed; simp [← performed.2, poolStep]
  | exchangeInit => cases t <;> simp [perform] at performed; simp [← performed.2, poolStep]
  | exchangeReboot => cases t <;> simp [perform] at performed; simp [← performed.2, poolStep]
  | queuePop => cases t <;> simp [perform] at performed; simp [← performed.2, poolStep]
  | busAcquire path =>
      simp only [perform, Option.some.injEq, Prod.ext_iff] at performed
      simp [← performed.2, poolStep, Shared.busAcquire]
  | _ =>
      simp only [perform, Option.some.injEq, Prod.mk.injEq] at performed
      simp [← performed.2, poolStep]

/-- Everything works, except that a read answers only where `online` says so, with
the values the device holds. -/
def steadyDevice (online : Reg → Bool) (held : Reg → Reg) :
    (operation : DaemonOp) → operation.Res
  | .message .inverter => InverterCommand.operation 0
  | .message .ups => UpsCommand.initUps 0
  | .connect | .writeSingle _ _ _ | .writeMultiple _ _ _ => Rc.ok
  | .readHolding _ addr _ =>
      if online addr then some fun i => held (addr + UInt16.ofNat i.val) else none
  | .poolRead _ _ => none
  | .exchangeInit | .exchangeReboot | .queuePush _ _ => false
  | .queuePop => none
  | .mark _ | .busAcquire _ | .busRelease _ | .disconnect | .poolStore _ _ | .poolWrite _ _
  | .requestInit _ | .requestReboot _ | .alarmEvent _ _ _ _ => ()

section Pieces

variable {α β : Type} {events : List DaemonEvent} {unit : DeviceUnit}

abbrev DaemonRuns {α : Type} (prog : DaemonProg α) (events : List DaemonEvent) (value : α) : Prop :=
  Runs daemonCode prog events value

theorem ask_runs {operation : DaemonOp} {answer : operation.Res}
    (run : DaemonRuns (ask operation) events answer) : events = [⟨operation, answer⟩] := by
  obtain ⟨given, rest, rfl, tail⟩ := Runs.op_inv run
  obtain ⟨rfl, rfl⟩ := Runs.ret_inv tail
  rfl

theorem ask_bind_runs {operation : DaemonOp} {f : operation.Res → DaemonProg β} {value : β}
    (run : DaemonRuns ((ask operation).bind f) events value) :
    ∃ answer rest, events = ⟨operation, answer⟩ :: rest ∧ DaemonRuns (f answer) rest value :=
  Runs.op_inv run

theorem readDeviceValue_runs {addr count : Reg} {answer : Option (Fin count.toNat → Reg)}
    (run : DaemonRuns (readDeviceValue unit addr count) events answer) :
    deviceReads events = [⟨addr, count, answer⟩] ∧ ∀ pool, poolAfter pool events = pool := by
  unfold readDeviceValue at run
  split at run
  · obtain rfl := ask_runs run
    exact ⟨rfl, fun _ => rfl⟩
  · obtain ⟨_, _, rfl, locked⟩ := ask_bind_runs run
    obtain ⟨given, _, rfl, answered⟩ := ask_bind_runs locked
    obtain ⟨_, _, rfl, released⟩ := ask_bind_runs answered
    obtain ⟨rfl, rfl⟩ := Runs.ret_inv released
    exact ⟨rfl, fun _ => rfl⟩

def storeSlot (profile : DeviceMapProfile) (devAddr : Reg) : Option Reg :=
  (deviceFindSlot profile devAddr).bind fun row =>
    if row.poolAddress.toNat ≥ internalPoolSize then none else some row.poolAddress

/-- The slots a read fills, in order. -/
def stores (profile : DeviceMapProfile) (start : Reg) {n : Nat} (values : Fin n → Reg)
    (indices : List (Fin n)) : List (Reg × Reg) :=
  indices.filterMap fun i =>
    (storeSlot profile (start + UInt16.ofNat i.val)).map fun slot => (slot, values i)

theorem storeRegister_runs {profile : DeviceMapProfile} {devAddr raw : Reg}
    (run : DaemonRuns (storeRegister profile devAddr raw) events ()) :
    deviceReads events = [] ∧ ∀ pool, poolAfter pool events =
      Lists.writeAll pool ((storeSlot profile devAddr).map fun slot => (slot, raw)).toList := by
  unfold storeRegister at run
  cases found : deviceFindSlot profile devAddr with
  | none =>
      rw [found] at run
      obtain ⟨rfl, _⟩ := Runs.ret_inv run
      exact ⟨rfl, fun pool => by simp [storeSlot, found]⟩
  | some row =>
      rw [found] at run
      simp only at run
      split at run
      · rename_i outside
        obtain ⟨rfl, _⟩ := Runs.ret_inv run
        exact ⟨rfl, fun pool => by simp [storeSlot, found, outside]⟩
      · rename_i inside
        obtain rfl := ask_runs run
        exact ⟨rfl, fun pool => by simp [storeSlot, found, inside, poolStep]⟩

theorem storeEach_runs {profile : DeviceMapProfile} {start : Reg} {n : Nat}
    {values : Fin n → Reg} {indices : List (Fin n)}
    (run : DaemonRuns (storeEach profile start values indices) events ()) :
    deviceReads events = [] ∧
      ∀ pool, poolAfter pool events =
        Lists.writeAll pool (stores profile start values indices) := by
  induction indices generalizing events with
  | nil =>
      obtain ⟨rfl, _⟩ := Runs.ret_inv run
      exact ⟨rfl, fun _ => rfl⟩
  | cons i rest ih =>
      obtain ⟨head, _, tail, rfl, first, others⟩ := Runs.bind_inv run
      have stored := storeRegister_runs first
      have later := ih others
      refine ⟨by simp [stored.1, later.1], fun pool => ?_⟩
      rw [poolAfter_append, stored.2, later.2, ← Lists.writeAll_append]
      congr 1
      cases slot : storeSlot profile (start + UInt16.ofNat i.val) <;> simp [stores, slot]

def marks (table : List DeviceRegisterMapping) : List (Reg × Reg) :=
  (table.filter fun row => row.poolAddress.toNat < internalPoolSize).map fun row =>
    (row.poolAddress, commLossMarker)

theorem markCommLoss_runs {table : List DeviceRegisterMapping}
    (run : DaemonRuns (markCommLoss table) events ()) :
    deviceReads events = [] ∧
      ∀ pool, poolAfter pool events = Lists.writeAll pool (marks table) := by
  induction table generalizing events with
  | nil =>
      obtain ⟨rfl, _⟩ := Runs.ret_inv run
      exact ⟨rfl, fun _ => rfl⟩
  | cons row rest ih =>
      obtain ⟨_, tail, rfl, others⟩ := ask_bind_runs run
      have later := ih others
      refine ⟨later.1, fun pool => ?_⟩
      rw [poolAfter_cons, later.2]
      by_cases inside : row.poolAddress.toNat < internalPoolSize
      · simp [marks, inside, poolStep, poolWriteRegister, Nat.not_le.mpr inside]
      · simp [marks, inside, poolStep, poolWriteRegister, Nat.not_lt.mp inside]

end Pieces

end Rs485Gateway
