import Rs485Gateway.Daemon.Callbacks
import Rs485Gateway.Daemon.ScanCoverage
import Rs485Gateway.Lists.FailureRun

namespace Rs485Gateway

open Interaction Rs485Gateway.Lists

def tracking (now : Bool) : DaemonOp → Bool
  | .mark mark => mark = .scan true
  | _ => now

/-- The segment reads of tracked scans in order, `true` for an answer. -/
def trackedOutcomes : Bool → List DaemonEvent → List Bool
  | _, [] => []
  | now, event :: rest =>
      (if now then ((deviceRead? event).map fun read => read.answer.isSome).toList else []) ++
        trackedOutcomes (tracking now event.1) rest

def answered (events : List DaemonEvent) : List Bool :=
  (deviceReads events).map fun read => read.answer.isSome

section Outcomes

variable {events rest : List DaemonEvent}

theorem trackedOutcomes_untracked
    (quiet : ∀ event ∈ events, event.1 ≠ .mark (.scan true)) :
    trackedOutcomes false (events ++ rest) = trackedOutcomes false rest := by
  induction events with
  | nil => rfl
  | cons event events ih =>
      have here := quiet event List.mem_cons_self
      have closed : tracking false event.1 = false := by
        obtain ⟨operation, answer⟩ := event
        cases operation with
        | mark mark => simpa [tracking] using here
        | _ => rfl
      rw [List.cons_append, trackedOutcomes, closed]
      simpa using ih fun next member => quiet next (List.mem_cons_of_mem _ member)

theorem trackedOutcomes_unmarked (quiet : ∀ event ∈ events, isMark event.1 = false) :
    trackedOutcomes true (events ++ rest) = answered events ++ trackedOutcomes true rest := by
  induction events with
  | nil => rfl
  | cons event events ih =>
      have here := quiet event List.mem_cons_self
      have opened : tracking true event.1 = true := by
        obtain ⟨operation, answer⟩ := event
        cases operation <;> first | rfl | simp [isMark] at here
      rw [List.cons_append, trackedOutcomes, opened,
        ih fun next member => quiet next (List.mem_cons_of_mem _ member), ← List.append_assoc]
      congr 1
      cases read : deviceRead? event <;> simp [answered, deviceReads, read]

theorem trackedOutcomes_scanEvents {unit : DeviceUnit}
    (quiet : ∀ event ∈ events, isMark event.1 = false) :
    trackedOutcomes false (scanEvents unit true events) = answered events := by
  change trackedOutcomes true (events ++ _) = _
  rw [trackedOutcomes_unmarked quiet]
  simp [trackedOutcomes, deviceRead?, tracking]

end Outcomes

section Scan

variable {unit : DeviceUnit} {st st' : UnitState} {rc : Rc} {events : List DaemonEvent}

/-- How a tracked scan ends, `fresh` being the outcomes of its own reads. -/
inductive ScanVerdict (prior fresh : List Bool) : Rc × UnitState → Prop
  | goesOn {st : UnitState} (count : st.commFailCount = trailing (prior ++ fresh))
      (few : ¬ HasRun modbusDefaultCommFailThreshold (prior ++ fresh)) :
      ScanVerdict prior fresh (.ok, st)
  | loses {st : UnitState} (earlier : List Bool) (last : fresh = earlier ++ [false])
      (first : ¬ HasRun modbusDefaultCommFailThreshold (prior ++ earlier))
      (reached : HasRun modbusDefaultCommFailThreshold (prior ++ fresh)) :
      ScanVerdict prior fresh (.fail, st)

theorem ScanVerdict.cons {prior fresh : List Bool} {ok : Bool} {result : Rc × UnitState}
    (verdict : ScanVerdict (prior ++ [ok]) fresh result) :
    ScanVerdict prior (ok :: fresh) result := by
  cases verdict with
  | goesOn count few => exact .goesOn (by simpa using count) (by simpa using few)
  | loses earlier last first reached =>
      exact .loses (ok :: earlier) (by simp [last]) (by simpa using first) (by simpa using reached)

/-- The count is the trailing run of failures until that run reaches five. -/
theorem scanSegments_counts {segments : List (List DeviceRegisterMapping)} {prior : List Bool}
    (count : st.commFailCount = trailing prior)
    (few : ¬ HasRun modbusDefaultCommFailThreshold prior) {result : Rc × UnitState}
    (run : DaemonRuns (scanSegments unit true segments st) events result) :
    ScanVerdict prior (answered events) result := by
  induction segments generalizing prior st events with
  | nil =>
      obtain ⟨rfl, rfl⟩ := Runs.ret_inv run
      exact .goesOn (by simpa [answered] using count) (by simpa [answered] using few)
  | cons segment segments ih =>
      have grows : ∀ ok, HasRun modbusDefaultCommFailThreshold (prior ++ [ok]) ↔
          modbusDefaultCommFailThreshold ≤ trailing (prior ++ [ok]) := by
        intro ok
        rw [hasRun_concat, or_iff_left few]
      cases scanStep_runs run with
      | @stored head tail result values read wrote rest =>
          have outcome : answered (head ++ tail) = true :: answered tail := by
            simp [answered, read]
          rw [outcome]
          refine ScanVerdict.cons (ih ?_ ?_ rest)
          · simp
          · rw [grows, trailing_success]
            decide
      | @skipped head tail result tracked read wrote below rest =>
          have outcome : answered (head ++ tail) = false :: answered tail := by
            simp [answered, read]
          rw [outcome]
          refine ScanVerdict.cons (ih ?_ ?_ rest)
          · simp [count]
          · rw [grows, trailing_failure, ← count]
            omega
      | untracked impossible => cases impossible
      | lost tracked read many wrote =>
          have outcome : answered events = [false] := by simp [answered, read]
          rw [outcome]
          refine .loses [] rfl (by simpa using few) ?_
          rw [grows, trailing_failure, ← count]
          exact many

end Scan

section Callbacks

variable {kind : DeviceKind} {unit : DeviceUnit} {st st' : UnitState} {rc : Rc}
  {events : List DaemonEvent}

def unmarkedFootprint : Footprint where
  marks := fun _ => False
  reads := fun _ _ => True
  writes := fun _ _ => True
  stores := fun _ => True

theorem readProfileToPool_counts {prior : List Bool} {result : Rc × UnitState}
    (count : st.commFailCount = trailing prior)
    (few : ¬ HasRun modbusDefaultCommFailThreshold prior)
    (run : DaemonRuns (readProfileToPool unit true st) events result) :
    ScanVerdict prior (trackedOutcomes false events) result := by
  by_cases empty : unit.profile.tableCount = 0
  · rw [readProfileToPool, if_pos empty] at run
    obtain ⟨rfl, rfl⟩ := Runs.ret_inv run
    exact .goesOn (by simpa [trackedOutcomes] using count) (by simpa [trackedOutcomes] using few)
  · obtain ⟨inner, rfl, scanned⟩ := readProfileToPool_segments empty run
    have room : unmarkedFootprint.Fills unit true :=
      { reads := fun _ _ => trivial, stores := fun _ _ _ => trivial,
        losses := fun _ _ _ => trivial }
    have quiet : ∀ event ∈ inner, isMark event.1 = false := by
      intro event member
      have allowed := (Footprint.stays_scanSegments room _ _).runs scanned event member
      obtain ⟨operation, answer⟩ := event
      cases operation with
      | mark mark => exact allowed.elim
      | _ => rfl
    rw [trackedOutcomes_scanEvents quiet]
    exact scanSegments_counts count few scanned

inductive Polled (kind : DeviceKind) (unit : DeviceUnit) :
    List (List DaemonEvent) → UnitState → Prop
  | connected {st st' : UnitState} {events : List DaemonEvent}
      (run : DaemonRuns ((moduleCallbacks kind).init unit st) events (.ok, st')) :
      Polled kind unit [] st'
  | scanned {passes : List (List DaemonEvent)} {st st' : UnitState} {events : List DaemonEvent}
      (before : Polled kind unit passes st)
      (run : DaemonRuns ((moduleCallbacks kind).process unit st) events (.ok, st')) :
      Polled kind unit (passes ++ [events]) st'

def outcomes (passes : List (List DaemonEvent)) : List Bool :=
  passes.flatMap (trackedOutcomes false)

theorem processCallback_counts {prior : List Bool} {result : Rc × UnitState}
    (count : st.commFailCount = trailing prior)
    (few : ¬ HasRun modbusDefaultCommFailThreshold prior)
    (run : DaemonRuns ((moduleCallbacks kind).process unit st) events result) :
    ScanVerdict prior (trackedOutcomes false events) result := by
  obtain ⟨lead, scan, rfl, quiet, scanning⟩ := processCallback_split run
  rw [trackedOutcomes_untracked quiet]
  exact readProfileToPool_counts count few scanning

/-- As long as passes succeed, the count is the trailing run of failures. -/
theorem Polled.counts {passes : List (List DaemonEvent)} (polled : Polled kind unit passes st) :
    st.commFailCount = trailing (outcomes passes) ∧
      ¬ HasRun modbusDefaultCommFailThreshold (outcomes passes) := by
  induction polled with
  | connected run =>
      obtain ⟨_, _, _, rfl⟩ := initCallback_runs run
      exact ⟨rfl, not_hasRun_nil (by decide)⟩
  | scanned before run ih =>
      have verdict := processCallback_counts ih.1 ih.2 run
      cases verdict with
      | goesOn count few =>
          simp only [outcomes, List.flatMap_append, List.flatMap_singleton]
          exact ⟨count, few⟩

/-- The first pass to fail is the one that completes five failures in a row. -/
theorem processCallback_commLoss {passes : List (List DaemonEvent)}
    (polled : Polled kind unit passes st)
    (run : DaemonRuns ((moduleCallbacks kind).process unit st) events (rc, st')) :
    (rc = .fail ↔ HasRun modbusDefaultCommFailThreshold
        (outcomes passes ++ trackedOutcomes false events)) ∧
      (rc = .fail →
        (∃ earlier, trackedOutcomes false events = earlier ++ [false] ∧
          ¬ HasRun modbusDefaultCommFailThreshold (outcomes passes ++ earlier)) ∧
        ∀ pool, ∀ row ∈ unit.profile.table, row.poolAddress.toNat < internalPoolSize →
          poolAfter pool events row.poolAddress = commLossMarker) ∧
      (∃ lead scan, events = lead ++ scan ∧ (∀ event ∈ lead, event.1 ≠ .mark (.scan true)) ∧
        DaemonRuns (readProfileToPool unit true st) scan (rc, st') ∧
        ∀ pool, ∀ slot ∉ unit.profile.table.map DeviceRegisterMapping.poolAddress,
          poolAfter pool scan slot = pool slot) ∧
      (rc = .ok →
        st'.commFailCount = trailing (outcomes passes ++ trackedOutcomes false events) ∧
        st'.commFailCount < modbusDefaultCommFailThreshold) ∧
      ∀ lost cleared,
        DaemonRuns ((moduleCallbacks kind).error st' connectionDisconnected) lost cleared →
          cleared.commFailCount = 0 ∧ ∀ pool, poolAfter pool lost (statusReg kind) = 0 := by
  obtain ⟨count, few⟩ := polled.counts
  have verdict := processCallback_counts count few run
  refine ⟨?_, ?_, ?_, ?_, ?_⟩
  · cases verdict with
    | goesOn count few => simpa using few
    | loses earlier last first reached => simpa using reached
  · rintro rfl
    cases verdict with
    | loses earlier last first reached =>
        exact ⟨⟨earlier, last, first⟩, processCallback_marks run⟩
  · obtain ⟨lead, scan, split, quiet, scanning⟩ := processCallback_split run
    exact ⟨lead, scan, split, quiet, scanning,
      fun pool slot outside => readProfileToPool_frame scanning pool outside⟩
  · rintro rfl
    cases verdict with
    | goesOn count few => exact ⟨count, count ▸ trailing_lt few⟩
  · intro lost cleared erring
    obtain ⟨rfl, rfl⟩ := errorCallback_runs erring
    refine ⟨rfl, fun pool => ?_⟩
    have inside : (statusReg kind).toNat < internalPoolSize := by cases kind <;> decide
    simp [poolStep, poolWriteRegister_self inside, connectionDisconnected]

/-- Two passes over a device that has gone silent: three failures, then two more. -/
theorem processCallback_commLoss_silent : ∃ first second st,
    Polled .inverter gappedUnit [first] ⟨3, 1⟩ ∧
      DaemonRuns ((moduleCallbacks .inverter).process gappedUnit ⟨3, 1⟩) second (.fail, st) ∧
      HasRun modbusDefaultCommFailThreshold (outcomes [first] ++ trackedOutcomes false second) := by
  obtain ⟨_, _, connect, connected⟩ := runs_of_check daemonCode
    (steadyDevice (fun _ => false) fun _ => 0) 0
    ((moduleCallbacks .inverter).init gappedUnit ⟨0, 0⟩)
    (fun result => result.2 = (.ok, ⟨0, 1⟩)) (by decide)
  obtain rfl := of_decide_eq_true connected
  obtain ⟨first, _, quiet, counted⟩ := runs_of_check daemonCode
    (steadyDevice (fun _ => false) fun _ => 0) 0
    ((moduleCallbacks .inverter).process gappedUnit ⟨0, 1⟩)
    (fun result => result.2 = (.ok, ⟨3, 1⟩)) (by decide)
  obtain rfl := of_decide_eq_true counted
  obtain ⟨second, ⟨rc, st⟩, silent, lost⟩ := runs_of_check daemonCode
    (steadyDevice (fun _ => false) fun _ => 0) 0
    ((moduleCallbacks .inverter).process gappedUnit ⟨3, 1⟩)
    (fun result => result.2.1 = .fail) (by decide)
  obtain rfl : rc = .fail := of_decide_eq_true lost
  have polled : Polled .inverter gappedUnit [first] ⟨3, 1⟩ := .scanned (.connected connect) quiet
  exact ⟨first, second, st, polled, silent, (processCallback_commLoss polled silent).1.mp rfl⟩

end Callbacks

end Rs485Gateway
