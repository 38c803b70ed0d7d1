import Rs485Gateway.Daemon.Trace
import Rs485Gateway.Lists.Cut

namespace Rs485Gateway

open Interaction

def adjacent (first second : DeviceRegisterMapping) : Prop :=
  second.deviceAddress.toNat = first.deviceAddress.toNat + 1

instance : DecidableRel adjacent := fun _ _ => inferInstanceAs (Decidable (_ = _))

namespace DeviceMapProfile

def segments (profile : DeviceMapProfile) : List (List DeviceRegisterMapping) :=
  match profile.table with
  | [] => []
  | row :: rest => Lists.cut adjacent profile.readChunk.toNat [] row rest

end DeviceMapProfile

def segmentStart (segment : List DeviceRegisterMapping) : Reg :=
  (segment.head?.map DeviceRegisterMapping.deviceAddress).getD 0

/-- The scan over segments already cut. -/
def scanSegments (unit : DeviceUnit) (trackCommFail : Bool) :
    List (List DeviceRegisterMapping) → UnitState → DaemonProg (Rc × UnitState)
  | [], st => pure (.ok, st)
  | segment :: segments, st =>
      scanStep unit trackCommFail (segmentStart segment) (UInt16.ofNat segment.length) st
        (scanSegments unit trackCommFail segments)

section Loop

variable {unit : DeviceUnit} {trackCommFail : Bool}

theorem rowAddress_append (profile : DeviceMapProfile)
    (before after : List DeviceRegisterMapping) (row : DeviceRegisterMapping)
    (table : profile.table = before ++ row :: after) :
    rowAddress profile before.length = row.deviceAddress := by
  simp [rowAddress, table]

/-- The index loop, with a run in hand, is the scan over the runs still to cut. -/
theorem scanLoop_eq (unit : DeviceUnit) (trackCommFail : Bool)
    (before front rest : List DeviceRegisterMapping)
    (last : DeviceRegisterMapping) (st : UnitState)
    (table : unit.profile.table = before ++ (front ++ last :: rest)) :
    scanLoop unit trackCommFail (rest.length + 1) (before.length + front.length + 1)
        before.length (front.length + 1) st =
      scanSegments unit trackCommFail
        (Lists.cut adjacent unit.profile.readChunk.toNat front last rest) st := by
  have started : rowAddress unit.profile before.length = segmentStart (front ++ [last]) := by
    cases front with
    | nil => simpa [segmentStart] using rowAddress_append _ before rest last table
    | cons first front =>
        simpa [segmentStart] using rowAddress_append _ before (front ++ last :: rest) first table
  have previous : rowAddress unit.profile (before.length + front.length) = last.deviceAddress := by
    simpa using rowAddress_append _ (before ++ front) rest last (by simpa using table)
  induction rest generalizing before front last st with
  | nil =>
      have ended : ¬ before.length + front.length + 1 < unit.profile.tableCount := by
        simp [DeviceMapProfile.tableCount, table]
        omega
      simp only [List.length_nil, scanLoop, ended, false_and, if_false, Lists.cut, scanSegments,
        started, List.length_append, List.length_singleton]
  | cons row rest ih =>
      have inside : before.length + front.length + 1 < unit.profile.tableCount := by
        simp [DeviceMapProfile.tableCount, table]
        omega
      have current : rowAddress unit.profile (before.length + front.length + 1) =
          row.deviceAddress := by
        have position := rowAddress_append unit.profile (before ++ front ++ [last]) rest row
          (by simpa using table)
        simpa [Nat.add_assoc] using position
      have condition : ((before.length + front.length + 1 < unit.profile.tableCount ∧
            (rowAddress unit.profile (before.length + front.length + 1)).toNat =
              (rowAddress unit.profile (before.length + front.length + 1 - 1)).toNat + 1) ∧
          ¬ front.length + 1 ≥ unit.profile.readChunk.toNat) ↔
          (adjacent last row ∧ front.length + 1 < unit.profile.readChunk.toNat) := by
        rw [current, Nat.add_sub_cancel, previous]
        simp only [inside, true_and, adjacent, ge_iff_le, not_le]
      rw [List.length_cons, scanLoop]
      simp only [condition, Lists.cut]
      split
      · have extended := ih before (front ++ [last]) row st (by simpa using table)
          (by cases front <;> simpa [segmentStart] using started)
          (by simpa [Nat.add_assoc] using current)
        simpa [Nat.add_assoc] using extended
      · have restarted : scanLoop unit trackCommFail (rest.length + 1)
            (before.length + front.length + 1 + 1) (before.length + front.length + 1) 1 =
            scanSegments unit trackCommFail
              (Lists.cut adjacent unit.profile.readChunk.toNat [] row rest) := by
          funext st
          have fresh := ih (before ++ front ++ [last]) [] row st (by simpa using table)
            (by simpa [segmentStart, Nat.add_assoc] using current)
            (by simpa [Nat.add_assoc] using current)
          simpa [Nat.add_assoc] using fresh
        rw [restarted, started, scanSegments, List.length_append, List.length_singleton]

theorem readProfileToPool_eq (nonempty : unit.profile.tableCount ≠ 0) (st : UnitState) :
    readProfileToPool unit trackCommFail st = (do
      ask (.busAcquire (busPath unit))
      ask (.mark (.scan trackCommFail))
      let result ← scanSegments unit trackCommFail unit.profile.segments st
      ask (.mark .leave)
      ask (.busRelease (busPath unit))
      pure result) := by
  have loop : scanLoop unit trackCommFail unit.profile.tableCount 1 0 1 st =
      scanSegments unit trackCommFail unit.profile.segments st := by
    cases table : unit.profile.table with
    | nil => simp [DeviceMapProfile.tableCount, table] at nonempty
    | cons row rest =>
        have whole := scanLoop_eq unit trackCommFail [] [] rest row st (by simpa using table)
        simpa [DeviceMapProfile.tableCount, DeviceMapProfile.segments, table] using whole
  rw [readProfileToPool, if_neg nonempty, loop]

end Loop

def scanEvents (unit : DeviceUnit) (trackCommFail : Bool) (inner : List DaemonEvent) :
    List DaemonEvent :=
  ⟨.busAcquire (busPath unit), ()⟩ :: ⟨.mark (.scan trackCommFail), ()⟩ ::
    (inner ++ [⟨.mark .leave, ()⟩, ⟨.busRelease (busPath unit), ()⟩])

section ScanEvents

variable {unit : DeviceUnit} {trackCommFail : Bool} {inner : List DaemonEvent}

@[simp] theorem deviceReads_scanEvents :
    deviceReads (scanEvents unit trackCommFail inner) = deviceReads inner := by
  change deviceReads (inner ++ _) = _
  simp [deviceReads, deviceRead?]

@[simp] theorem poolAfter_scanEvents (pool : Pool) :
    poolAfter pool (scanEvents unit trackCommFail inner) = poolAfter pool inner := by
  change poolAfter pool (inner ++ _) = _
  simp [poolStep]

theorem readProfileToPool_segments {st : UnitState} {events : List DaemonEvent}
    {result : Rc × UnitState} (nonempty : unit.profile.tableCount ≠ 0)
    (run : DaemonRuns (readProfileToPool unit trackCommFail st) events result) :
    ∃ inner, events = scanEvents unit trackCommFail inner ∧
      DaemonRuns (scanSegments unit trackCommFail unit.profile.segments st) inner result := by
  rw [readProfileToPool_eq nonempty] at run
  obtain ⟨_, _, rfl, locked⟩ := ask_bind_runs run
  obtain ⟨_, _, rfl, marked⟩ := ask_bind_runs locked
  obtain ⟨inner, value, outer, rfl, scanned, ended⟩ := Runs.bind_inv marked
  obtain ⟨_, _, rfl, left⟩ := ask_bind_runs ended
  obtain ⟨_, _, rfl, released⟩ := ask_bind_runs left
  obtain ⟨rfl, rfl⟩ := Runs.ret_inv released
  exact ⟨inner, rfl, scanned⟩

end ScanEvents

/-- How one segment ends, and what it did to reads and pool on the way. -/
inductive StepOutcome (unit : DeviceUnit) (trackCommFail : Bool) (start count : Reg)
    (st : UnitState) (again : UnitState → DaemonProg (Rc × UnitState)) :
    List DaemonEvent → Rc × UnitState → Prop
  | stored {head tail : List DaemonEvent} {result : Rc × UnitState}
      (values : Fin count.toNat → Reg) (read : deviceReads head = [⟨start, count, some values⟩])
      (wrote : ∀ pool, poolAfter pool head =
        Lists.writeAll pool (stores unit.profile start values (List.finRange count.toNat)))
      (rest : DaemonRuns (again (if trackCommFail then { st with commFailCount := 0 } else st))
        tail result) :
      StepOutcome unit trackCommFail start count st again (head ++ tail) result
  | skipped {head tail : List DaemonEvent} {result : Rc × UnitState}
      (tracked : trackCommFail = true) (read : deviceReads head = [⟨start, count, none⟩])
      (wrote : ∀ pool, poolAfter pool head = pool)
      (few : st.commFailCount + 1 < modbusDefaultCommFailThreshold)
      (rest : DaemonRuns (again { st with commFailCount := st.commFailCount + 1 }) tail result) :
      StepOutcome unit trackCommFail start count st again (head ++ tail) result
  | untracked {head : List DaemonEvent} (untracked : trackCommFail = false)
      (read : deviceReads head = [⟨start, count, none⟩])
      (wrote : ∀ pool, poolAfter pool head = pool) :
      StepOutcome unit trackCommFail start count st again head (.fail, st)
  | lost {head : List DaemonEvent} (tracked : trackCommFail = true)
      (read : deviceReads head = [⟨start, count, none⟩])
      (many : modbusDefaultCommFailThreshold ≤ st.commFailCount + 1)
      (wrote : ∀ pool, poolAfter pool head = Lists.writeAll pool (marks unit.profile.table)) :
      StepOutcome unit trackCommFail start count st again head
        (.fail, { st with commFailCount := st.commFailCount + 1 })

theorem scanStep_runs {unit : DeviceUnit} {trackCommFail : Bool} {start count : Reg}
    {st : UnitState} {again : UnitState → DaemonProg (Rc × UnitState)}
    {events : List DaemonEvent} {result : Rc × UnitState}
    (run : DaemonRuns (scanStep unit trackCommFail start count st again) events result) :
    StepOutcome unit trackCommFail start count st again events result := by
  obtain ⟨asked, answer, tail, rfl, reads, rest⟩ := Runs.bind_inv run
  obtain ⟨read, quiet⟩ := readDeviceValue_runs reads
  cases answer with
  | some values =>
      obtain ⟨written, _, tail, rfl, storing, rest⟩ := Runs.bind_inv rest
      obtain ⟨silent, wrote⟩ := storeEach_runs storing
      rw [← List.append_assoc]
      exact .stored values (by simp [read, silent]) (by simp [quiet, wrote]) rest
  | none =>
      simp only at rest
      split at rest
      · rename_i untracked
        obtain ⟨rfl, rfl⟩ := Runs.ret_inv rest
        exact .untracked (by simpa using untracked) (by simpa using read) (by simpa using quiet)
      · rename_i tracked
        split at rest
        · rename_i many
          obtain ⟨marked, _, tail, rfl, marking, done⟩ := Runs.bind_inv rest
          obtain ⟨rfl, rfl⟩ := Runs.ret_inv done
          obtain ⟨silent, wrote⟩ := markCommLoss_runs marking
          exact .lost (by simpa using tracked) (by simp [read, silent]) many
            (by simp [quiet, wrote])
        · rename_i few
          exact .skipped (by simpa using tracked) read quiet (by simpa using few) rest

end Rs485Gateway
