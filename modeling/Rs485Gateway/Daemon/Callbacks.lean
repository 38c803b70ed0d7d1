import Rs485Gateway.Daemon.Footprint

namespace Rs485Gateway

open Interaction

variable {kind : DeviceKind} {unit : DeviceUnit} {st st' : UnitState}
  {events : List DaemonEvent}

def poolFreeFootprint : Footprint where
  marks := fun _ => True
  reads := fun _ _ => True
  writes := fun _ _ => False
  stores := fun _ => False

theorem initCallback_runs
    (run : DaemonRuns ((moduleCallbacks kind).init unit st) events (.ok, st')) :
    ∃ connects, events = connects ++ [⟨.poolWrite (statusReg kind) connectionConnected, ()⟩] ∧
      DaemonRuns (unitConnect kind unit) connects .ok ∧
      st' = { commFailCount := 0, connectionState := connectionConnected } := by
  rw [moduleCallbacks_init] at run
  obtain ⟨connects, result, _, rfl, connecting, rest⟩ := Runs.bind_inv run
  cases result with
  | fail => cases (Runs.ret_inv rest).2
  | ok =>
      obtain ⟨_, _, rfl, written⟩ := ask_bind_runs rest
      obtain ⟨rfl, done⟩ := Runs.ret_inv written
      cases done
      exact ⟨connects, rfl, connecting, rfl⟩

theorem initCallback_fails
    (run : DaemonRuns ((moduleCallbacks kind).init unit st) events (.fail, st')) (pool : Pool)
    (slot : Reg) : poolAfter pool events slot = pool slot := by
  rw [moduleCallbacks_init] at run
  obtain ⟨connects, result, _, rfl, connecting, rest⟩ := Runs.bind_inv run
  cases result with
  | fail =>
      obtain ⟨rfl, _⟩ := Runs.ret_inv rest
      have stays : Footprint.Stays poolFreeFootprint (unitConnect kind unit) := by
        cases kind with
        | inverter => exact Footprint.stays_inverterUnitConnect fun _ => trivial
        | ups => exact Footprint.stays_upsUnitConnect fun _ => trivial
      rw [List.append_nil]
      exact Footprint.poolAfter_outside (stays.runs connecting) (fun _ => not_false) not_false pool
  | ok =>
      obtain ⟨_, _, _, written⟩ := ask_bind_runs rest
      cases (Runs.ret_inv written).2

theorem errorCallback_runs {state : Reg}
    (run : DaemonRuns ((moduleCallbacks kind).error st state) events st') :
    events = [⟨.disconnect, ()⟩, ⟨.poolWrite (statusReg kind) state, ()⟩] ∧
      st' = { commFailCount := 0, connectionState := state } := by
  rw [moduleCallbacks_error] at run
  obtain ⟨_, _, rfl, left⟩ := ask_bind_runs run
  obtain ⟨_, _, rfl, written⟩ := ask_bind_runs left
  obtain ⟨rfl, rfl⟩ := Runs.ret_inv written
  exact ⟨rfl, rfl⟩

theorem scanSegments_untracked {segments : List (List DeviceRegisterMapping)}
    {result : Rc × UnitState}
    (run : DaemonRuns (scanSegments unit false segments st) events result) :
    result.2 = st := by
  induction segments generalizing events with
  | nil =>
      obtain ⟨_, rfl⟩ := Runs.ret_inv run
      rfl
  | cons segment segments ih =>
      cases scanStep_runs run with
      | stored values read wrote rest => exact ih rest
      | skipped tracked => cases tracked
      | untracked => rfl
      | lost tracked => cases tracked

theorem readProfileToPool_untracked {result : Rc × UnitState}
    (run : DaemonRuns (readProfileToPool unit false st) events result) : result.2 = st := by
  by_cases empty : unit.profile.tableCount = 0
  · rw [readProfileToPool, if_pos empty] at run
    obtain ⟨_, rfl⟩ := Runs.ret_inv run
    rfl
  · obtain ⟨inner, _, scanned⟩ := readProfileToPool_segments empty run
    exact scanSegments_untracked scanned

theorem onRequest_keeps {exchange : DaemonProg Bool} {sequence : DaemonProg UnitState}
    (keeps : ∀ {events st'}, DaemonRuns sequence events st' → st' = st)
    (run : DaemonRuns (onRequest exchange st sequence) events st') : st' = st := by
  obtain ⟨_, requested, _, rfl, _, rest⟩ := Runs.bind_inv run
  split at rest
  · exact keeps rest
  · exact (Runs.ret_inv rest).2

theorem upsRunInitSequence_keeps (run : DaemonRuns (upsRunInitSequence unit st) events st') :
    st' = st := by
  obtain ⟨_, _, rfl, flagged⟩ := ask_bind_runs run
  obtain ⟨_, ⟨rc, scanned⟩, _, rfl, scan, rest⟩ := Runs.bind_inv flagged
  have kept := readProfileToPool_untracked scan
  cases rc with
  | fail => exact (Runs.ret_inv rest).2.trans kept
  | ok =>
      obtain ⟨_, _, rfl, done⟩ := ask_bind_runs rest
      exact (Runs.ret_inv done).2.trans kept

theorem runRequests_keeps (run : DaemonRuns (runRequests kind unit st) events st') : st' = st := by
  cases kind with
  | inverter =>
      refine onRequest_keeps ?_ run
      intro events st' sequence
      obtain ⟨_, _, _, rfl, _, done⟩ := Runs.bind_inv sequence
      exact (Runs.ret_inv done).2
  | ups =>
      obtain ⟨_, middle, _, rfl, init, reboot⟩ := Runs.bind_inv run
      obtain rfl := onRequest_keeps upsRunInitSequence_keeps init
      refine onRequest_keeps ?_ reboot
      intro events st' sequence
      obtain ⟨_, _, _, rfl, _, done⟩ := Runs.bind_inv sequence
      exact (Runs.ret_inv done).2

def untrackedFootprint : Footprint where
  marks := fun mark => mark ≠ .scan true
  reads := fun _ _ => True
  writes := fun _ _ => True
  stores := fun _ => True

theorem storeSlot_some {profile : DeviceMapProfile} {devAddr slot : Reg}
    (stored : storeSlot profile devAddr = some slot) :
    ∃ row ∈ profile.table, row.deviceAddress = devAddr ∧ row.poolAddress = slot := by
  obtain ⟨row, found, inside⟩ := Option.bind_eq_some_iff.mp stored
  obtain ⟨member, address⟩ := deviceFindSlot_some found
  split at inside
  · cases inside
  · exact ⟨row, member, address, Option.some.inj inside⟩

theorem storeSlot_row {profile : DeviceMapProfile} {devAddr slot : Reg}
    (stored : storeSlot profile devAddr = some slot) :
    slot ∈ profile.table.map DeviceRegisterMapping.poolAddress := by
  obtain ⟨row, member, _, here⟩ := storeSlot_some stored
  exact here ▸ List.mem_map_of_mem member

/-- A process pass is requests first, then the queued commands, then a tracked scan. -/
theorem processCallback_runs {result : Rc × UnitState}
    (run : DaemonRuns ((moduleCallbacks kind).process unit st) events result) :
    ∃ requests drained scan, events = (requests ++ drained) ++ scan ∧
      DaemonRuns (runRequests kind unit st) requests st ∧
      DaemonRuns (drainQueue unit) drained () ∧
      DaemonRuns (readProfileToPool unit true st) scan result := by
  rw [moduleCallbacks_process] at run
  obtain ⟨requests, middle, _, rfl, requested, rest⟩ := Runs.bind_inv run
  obtain rfl := runRequests_keeps requested
  obtain ⟨drained, _, scan, rfl, draining, scanning⟩ := Runs.bind_inv rest
  refine ⟨requests, drained, scan, by simp, requested, draining, ?_⟩
  by_cases empty : unit.profile.tableCount = 0
  · rw [if_pos empty] at scanning
    rwa [readProfileToPool, if_pos empty]
  · rwa [if_neg empty] at scanning

theorem processCallback_split {result : Rc × UnitState}
    (run : DaemonRuns ((moduleCallbacks kind).process unit st) events result) :
    ∃ lead scan, events = lead ++ scan ∧ (∀ event ∈ lead, event.1 ≠ .mark (.scan true)) ∧
      DaemonRuns (readProfileToPool unit true st) scan result := by
  obtain ⟨requests, drained, scan, split, requested, draining, scanning⟩ :=
    processCallback_runs run
  have room : untrackedFootprint.Scans unit false :=
    { reads := fun _ _ => trivial, stores := fun _ _ _ => trivial, losses := fun _ _ _ => trivial,
      starts := by simp [untrackedFootprint], ends := by simp [untrackedFootprint] }
  have quietRequests := (Footprint.stays_runRequests (fun _ => trivial) room).runs requested
  have quietDrain := (Footprint.stays_drainQueue (f := untrackedFootprint)
    (by simp [untrackedFootprint]) (by simp [untrackedFootprint])).runs draining
  refine ⟨requests ++ drained, scan, split, ?_, scanning⟩
  intro event member tracked
  have allowed : untrackedFootprint.allows event.1 := by
    rcases List.mem_append.mp member with early | late
    · exact quietRequests event early
    · exact quietDrain event late
  rw [tracked] at allowed
  exact allowed rfl

/-- Nothing outside the rows of a profile. -/
def rowsFootprint (profile : DeviceMapProfile) : Footprint where
  marks := fun _ => True
  reads := fun _ _ => True
  writes := fun slot _ => slot ∈ profile.table.map DeviceRegisterMapping.poolAddress
  stores := fun slot => slot ∈ profile.table.map DeviceRegisterMapping.poolAddress

theorem rowsFootprint_scans (trackCommFail : Bool) :
    (rowsFootprint unit.profile).Scans unit trackCommFail where
  reads := fun _ _ => trivial
  stores := fun _ _ => storeSlot_row
  losses := fun _ _ => List.mem_map_of_mem
  starts := trivial
  ends := trivial

/-- A scan touches no slot but those of its rows. -/
theorem readProfileToPool_frame {result : Rc × UnitState}
    (run : DaemonRuns (readProfileToPool unit true st) events result) (pool : Pool) {slot : Reg}
    (outside : slot ∉ unit.profile.table.map DeviceRegisterMapping.poolAddress) :
    poolAfter pool events slot = pool slot := by
  have within := (Footprint.stays_readProfileToPool (rowsFootprint_scans true) st).runs run
  exact Footprint.poolAfter_outside within (fun _ => outside) outside pool

theorem marks_marked (pool : Pool) {row : DeviceRegisterMapping}
    (member : row ∈ unit.profile.table) (inside : row.poolAddress.toNat < internalPoolSize) :
    Lists.writeAll pool (marks unit.profile.table) row.poolAddress = commLossMarker := by
  apply Lists.writeAll_constant
  · intro write written _
    obtain ⟨marked, _, rfl⟩ := List.mem_map.mp written
    rfl
  · simp only [marks, List.map_map, List.mem_map, Function.comp, List.mem_filter,
      decide_eq_true_eq]
    exact ⟨row, ⟨member, inside⟩, rfl⟩

theorem scanSegments_marks {segments : List (List DeviceRegisterMapping)}
    {result : Rc × UnitState} (run : DaemonRuns (scanSegments unit true segments st) events result)
    (failed : result.1 = .fail) (pool : Pool) {row : DeviceRegisterMapping}
    (member : row ∈ unit.profile.table) (inside : row.poolAddress.toNat < internalPoolSize) :
    poolAfter pool events row.poolAddress = commLossMarker := by
  induction segments generalizing st events pool with
  | nil =>
      obtain ⟨_, rfl⟩ := Runs.ret_inv run
      cases failed
  | cons segment segments ih =>
      cases scanStep_runs run with
      | stored values read wrote rest =>
          rw [poolAfter_append]
          exact ih rest _
      | skipped tracked read wrote few rest =>
          rw [poolAfter_append]
          exact ih rest _
      | untracked impossible => cases impossible
      | lost tracked read many wrote =>
          rw [wrote]
          exact marks_marked pool member inside

theorem processCallback_marks
    (run : DaemonRuns ((moduleCallbacks kind).process unit st) events (.fail, st')) (pool : Pool)
    (row : DeviceRegisterMapping) (member : row ∈ unit.profile.table)
    (inside : row.poolAddress.toNat < internalPoolSize) :
    poolAfter pool events row.poolAddress = commLossMarker := by
  obtain ⟨lead, scan, rfl, _, scanning⟩ := processCallback_split run
  have nonempty : unit.profile.tableCount ≠ 0 := (List.length_pos_of_mem member).ne'
  obtain ⟨inner, rfl, scanned⟩ := readProfileToPool_segments nonempty scanning
  rw [poolAfter_append, poolAfter_scanEvents]
  exact scanSegments_marks scanned rfl _ member inside

end Rs485Gateway
