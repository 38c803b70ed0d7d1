import Rs485Gateway.Daemon.Callbacks

namespace Rs485Gateway

open Interaction

/-- The newest value returned for a device address. -/
def latest (address : Reg) (events : List DaemonEvent) : Option Reg :=
  (deviceReads events).reverse.findSome? fun read => read.value? address

theorem latest_append (address : Reg) (first second : List DaemonEvent) :
    latest address (first ++ second) = (latest address second).or (latest address first) := by
  simp [latest, List.findSome?_append]

structure DeviceMapProfile.WellMapped (profile : DeviceMapProfile) : Prop where
  sorted : profile.Sorted
  once : (profile.table.map DeviceRegisterMapping.poolAddress).Nodup
  inside : ∀ row ∈ profile.table, row.poolAddress.toNat < internalPoolSize

theorem unitProfile_wellMapped (kind : DeviceKind) : (unitProfile kind).WellMapped := by
  cases kind with
  | inverter => exact ⟨inverter1Profile_sorted, by decide, by decide⟩
  | ups => exact ⟨ups1Profile_sorted, by decide +kernel, by decide +kernel⟩

section Stores

variable {profile : DeviceMapProfile} {row : DeviceRegisterMapping} {devAddr : Reg}

theorem storeSlot_iff (mapped : profile.WellMapped) (member : row ∈ profile.table) :
    storeSlot profile devAddr = some row.poolAddress ↔ devAddr = row.deviceAddress := by
  constructor
  · intro stored
    obtain ⟨found, inTable, address, slot⟩ := storeSlot_some stored
    have same : found = row := List.inj_on_of_nodup_map mapped.once inTable member slot
    rw [← same, address]
  · rintro rfl
    rw [storeSlot, deviceFindSlot_mem mapped.sorted member]
    simp [Nat.not_le.mpr (mapped.inside row member)]

theorem stores_latest (mapped : profile.WellMapped) (member : row ∈ profile.table) (pool : Pool)
    {start count : Reg} (values : Fin count.toNat → Reg) :
    Lists.writeAll pool (stores profile start values (List.finRange _)) row.poolAddress =
      ((DeviceRead.mk start count (some values)).value? row.deviceAddress).getD
        (pool row.poolAddress) := by
  have hits : ∀ write ∈ stores profile start values (List.finRange _),
      write.1 = row.poolAddress →
        ∃ i, (row.deviceAddress - start).toNat = i.val ∧ write.2 = values i := by
    intro write written here
    obtain ⟨i, _, stored⟩ := List.mem_filterMap.mp written
    obtain ⟨slot, found, rfl⟩ := Option.map_eq_some_iff.mp stored
    obtain rfl : slot = row.poolAddress := here
    have address := (storeSlot_iff mapped member).mp found
    have bound : i.val < 65536 := i.isLt.trans count.toNat_lt
    exact ⟨i, ((offset_iff bound).mp address).symm, rfl⟩
  by_cases inside : (row.deviceAddress - start).toNat < count.toNat
  · simp only [DeviceRead.value?, Option.bind_some, dif_pos inside, Option.getD_some]
    apply Lists.writeAll_constant
    · intro write written here
      obtain ⟨i, position, value⟩ := hits write written here
      rw [value]
      exact congrArg values (Fin.ext position.symm)
    · have bound := (row.deviceAddress - start).toNat_lt
      have found := (storeSlot_iff mapped member).mpr ((offset_iff bound).mpr rfl)
      rw [List.mem_map]
      refine ⟨(row.poolAddress, values ⟨_, inside⟩), List.mem_filterMap.mpr ?_, rfl⟩
      exact ⟨⟨_, inside⟩, List.mem_finRange _, by rw [found]; rfl⟩
  · simp only [DeviceRead.value?, Option.bind_some, dif_neg inside, Option.getD_none]
    apply Lists.writeAll_other
    intro written
    obtain ⟨write, present, here⟩ := List.mem_map.mp written
    obtain ⟨i, position, _⟩ := hits write present here
    exact inside (position ▸ i.isLt)

end Stores

/-- Events whose effect on a row's slot is the newest value returned for the row. -/
def Follows (row : DeviceRegisterMapping) (events : List DaemonEvent) : Prop :=
  ∀ pool, poolAfter pool events row.poolAddress =
    (latest row.deviceAddress events).getD (pool row.poolAddress)

section Follows

variable {row : DeviceRegisterMapping} {events first second : List DaemonEvent}
  {unit : DeviceUnit} {st : UnitState} {α β : Type}

theorem Follows.append (head : Follows row first) (tail : Follows row second) :
    Follows row (first ++ second) := by
  intro pool
  rw [poolAfter_append, tail, head, latest_append]
  cases latest row.deviceAddress second <;> rfl

def Faithful (row : DeviceRegisterMapping) (prog : DaemonProg α) : Prop :=
  ∀ events value, DaemonRuns prog events value → Follows row events

theorem Faithful.bind {prog : DaemonProg α} {next : α → DaemonProg β} (head : Faithful row prog)
    (tail : ∀ value, Faithful row (next value)) : Faithful row (prog.bind next) := by
  intro events value run
  obtain ⟨first, middle, second, rfl, before, after⟩ := Runs.bind_inv run
  exact (head _ _ before).append (tail _ _ _ after)

def offRow (row : DeviceRegisterMapping) : Footprint where
  marks := fun _ => True
  reads := fun addr count => count.toNat ≤ (row.deviceAddress - addr).toNat
  writes := fun slot _ => slot ≠ row.poolAddress
  stores := fun slot => slot ≠ row.poolAddress

theorem faithful_offRow {prog : DaemonProg α} (stays : Footprint.Stays (offRow row) prog) :
    Faithful row prog := by
  intro events value run pool
  have within := stays.runs run
  have silent : latest row.deviceAddress events = none := by
    rw [latest, List.findSome?_eq_none_iff]
    intro read member
    obtain ⟨⟨operation, answer⟩, present, isRead⟩ :=
      List.mem_filterMap.mp (List.mem_reverse.mp member)
    have allowed := within _ present
    cases operation with
    | readHolding line addr count =>
        cases isRead
        cases answer with
        | none => rfl
        | some values => simp [DeviceRead.value?, Nat.not_lt.mpr allowed]
    | _ => cases isRead
  rw [silent]
  exact Footprint.poolAfter_outside within (fun _ clash => clash rfl) (fun clash => clash rfl) pool

theorem scanSegments_follows (mapped : unit.profile.WellMapped) (member : row ∈ unit.profile.table)
    {trackCommFail : Bool} {segments : List (List DeviceRegisterMapping)}
    {result : Rc × UnitState}
    (run : DaemonRuns (scanSegments unit trackCommFail segments st) events result)
    (unmarked : trackCommFail = false ∨ result.1 = .ok) : Follows row events := by
  induction segments generalizing st events with
  | nil =>
      obtain ⟨rfl, _⟩ := Runs.ret_inv run
      exact fun _ => rfl
  | cons segment segments ih =>
      cases scanStep_runs run with
      | @stored head tail result values read wrote rest =>
          refine Follows.append ?_ (ih rest)
          intro pool
          rw [wrote, stores_latest mapped member]
          simp [latest, read]
      | @skipped head tail result tracked read wrote few rest =>
          refine Follows.append ?_ (ih rest)
          intro pool
          rw [wrote]
          simp [latest, read, DeviceRead.value?]
      | untracked untracked read wrote =>
          intro pool
          rw [wrote]
          simp [latest, read, DeviceRead.value?]
      | lost tracked =>
          rcases unmarked with untracked | ok
          · rw [tracked] at untracked
            cases untracked
          · cases ok

theorem readProfileToPool_follows (mapped : unit.profile.WellMapped)
    (member : row ∈ unit.profile.table) {trackCommFail : Bool} {result : Rc × UnitState}
    (run : DaemonRuns (readProfileToPool unit trackCommFail st) events result)
    (unmarked : trackCommFail = false ∨ result.1 = .ok) : Follows row events := by
  have nonempty : unit.profile.tableCount ≠ 0 := (List.length_pos_of_mem member).ne'
  obtain ⟨inner, rfl, scanned⟩ := readProfileToPool_segments nonempty run
  have follows := scanSegments_follows mapped member scanned unmarked
  intro pool
  rw [poolAfter_scanEvents, follows pool, latest, latest, deviceReads_scanEvents]

end Follows

section Requests

variable {row : DeviceRegisterMapping} {unit : DeviceUnit} {st : UnitState}

theorem faithful_onRequest {exchange : DaemonProg Bool} {sequence : DaemonProg UnitState}
    (asks : Faithful row exchange) (runs : Faithful row sequence) :
    Faithful row (onRequest exchange st sequence) := by
  refine asks.bind fun requested => ?_
  split
  · exact runs
  · exact faithful_offRow (Footprint.stays_pure st)

theorem faithful_upsRunInitSequence (mapped : unit.profile.WellMapped)
    (member : row ∈ unit.profile.table) (apart : intUpsInitFlagReg ≠ row.poolAddress) :
    Faithful row (upsRunInitSequence unit st) := by
  have flags : ∀ value, Faithful row (ask (.poolWrite intUpsInitFlagReg value)) :=
    fun value => faithful_offRow (Footprint.stays_ask apart)
  refine (flags 0).bind fun _ => Faithful.bind (fun events result run =>
    readProfileToPool_follows mapped member run (.inl rfl)) fun result => ?_
  obtain ⟨rc, st⟩ := result
  cases rc with
  | fail => exact faithful_offRow (Footprint.stays_pure st)
  | ok => exact (flags 1).bind fun _ => faithful_offRow (Footprint.stays_pure st)

theorem ups1Profile_unverified :
    ∀ row ∈ ups1Profile.table, (offRow row).reads devUpsRebootVerifyReg 1 := by
  unfold offRow
  decide +kernel

theorem initFlagReg_unmapped (kind : DeviceKind) :
    ∀ row ∈ (unitProfile kind).table, initFlagReg kind ≠ row.poolAddress := by
  cases kind <;> decide

theorem faithful_runRequests {kind : DeviceKind} (standard : unit.profile = unitProfile kind)
    (member : row ∈ unit.profile.table) : Faithful row (runRequests kind unit st) := by
  have inTable : row ∈ (unitProfile kind).table := standard ▸ member
  have apart := initFlagReg_unmapped kind row inTable
  cases kind with
  | inverter => exact faithful_offRow (Footprint.stays_inverterRunRequests fun _ => apart)
  | ups =>
      have mapped : unit.profile.WellMapped := standard ▸ unitProfile_wellMapped .ups
      have verifies := ups1Profile_unverified row inTable
      have asksInit : Faithful row (ask .exchangeInit) :=
        faithful_offRow (Footprint.stays_ask trivial)
      have asksReboot : Faithful row (ask .exchangeReboot) :=
        faithful_offRow (Footprint.stays_ask trivial)
      refine (faithful_onRequest asksInit (faithful_upsRunInitSequence mapped member apart)).bind ?_
      intro st
      refine faithful_onRequest asksReboot (faithful_offRow ?_)
      exact (Footprint.stays_upsRunRebootSequence verifies).bind fun _ => Footprint.stays_pure st

theorem processCallback_follows {kind : DeviceKind} {events : List DaemonEvent} {st' : UnitState}
    (standard : unit.profile = unitProfile kind) (member : row ∈ unit.profile.table)
    (run : DaemonRuns ((moduleCallbacks kind).process unit st) events (.ok, st')) :
    Follows row events := by
  obtain ⟨requests, drained, scan, rfl, requested, draining, scanning⟩ :=
    processCallback_runs run
  have mapped : unit.profile.WellMapped := standard ▸ unitProfile_wellMapped kind
  have drains : Faithful row (drainQueue unit) :=
    faithful_offRow (Footprint.stays_drainQueue trivial trivial)
  have first := faithful_runRequests standard member _ _ requested
  have second := drains _ _ draining
  exact (first.append second).append (readProfileToPool_follows mapped member scanning (.inr rfl))

end Requests

/-- One turn of the thread of a unit: a callback, or the end of the thread. -/
inductive Turn (kind : DeviceKind) (unit : DeviceUnit) :
    UnitPhase → UnitState → List DaemonEvent → UnitPhase → UnitState → Prop
  | connected {st st' : UnitState} {events : List DaemonEvent}
      (run : DaemonRuns ((moduleCallbacks kind).init unit st) events (.ok, st')) :
      Turn kind unit .init st events .process st'
  | refused {st st' : UnitState} {events : List DaemonEvent}
      (run : DaemonRuns ((moduleCallbacks kind).init unit st) events (.fail, st')) :
      Turn kind unit .init st events .init st'
  | polled {st st' : UnitState} {events : List DaemonEvent}
      (run : DaemonRuns ((moduleCallbacks kind).process unit st) events (.ok, st')) :
      Turn kind unit .process st events .process st'
  | lost {st st' : UnitState} {events : List DaemonEvent}
      (run : DaemonRuns ((moduleCallbacks kind).process unit st) events (.fail, st')) :
      Turn kind unit .process st events .error st'
  | recovered {st st' : UnitState} {events : List DaemonEvent}
      (run : DaemonRuns ((moduleCallbacks kind).error st connectionDisconnected) events st') :
      Turn kind unit .error st events .init st'
  | stopped {phase : UnitPhase} {st : UnitState} (calm : phase ≠ .error) :
      Turn kind unit phase st [⟨.disconnect, ()⟩] .stopped st

section Lives

variable {kind : DeviceKind} {unit : DeviceUnit} {phase : UnitPhase} {st : UnitState}
  {before since : List DaemonEvent}

theorem unitThread_turn {choice : Choice} {prog : DaemonProg Home} {phase' : UnitPhase}
    {st' : UnitState} {events : List DaemonEvent}
    (resumed : unitThread kind unit choice phase st = some prog)
    (run : DaemonRuns prog events (.unit phase' st')) :
    Turn kind unit phase st events phase' st' := by
  cases unitThread_cases resumed with
  | init =>
      obtain ⟨callback, ⟨rc, after⟩, _, rfl, ran, rest⟩ := Runs.bind_inv run
      obtain ⟨rfl, home⟩ := Runs.ret_inv rest
      rw [List.append_nil]
      cases rc with
      | ok => cases home; exact .connected ran
      | fail => cases home; exact .refused ran
  | process =>
      obtain ⟨callback, ⟨rc, after⟩, _, rfl, ran, rest⟩ := Runs.bind_inv run
      obtain ⟨rfl, home⟩ := Runs.ret_inv rest
      rw [List.append_nil]
      cases rc with
      | ok => cases home; exact .polled ran
      | fail => cases home; exact .lost ran
  | error =>
      obtain ⟨callback, after, _, rfl, ran, rest⟩ := Runs.bind_inv run
      obtain ⟨rfl, home⟩ := Runs.ret_inv rest
      rw [List.append_nil]
      cases home
      exact .recovered ran
  | stop calm =>
      obtain ⟨_, _, rfl, left⟩ := ask_bind_runs run
      obtain ⟨rfl, home⟩ := Runs.ret_inv left
      cases home
      exact .stopped calm

/-- The life of a unit thread: its events up to the newest connect, and since. -/
inductive Lived (kind : DeviceKind) (unit : DeviceUnit) :
    List DaemonEvent → List DaemonEvent → UnitPhase → UnitState → Prop
  | started : Lived kind unit [] [] .init ⟨0, connectionDisconnected⟩
  | connects {before since events : List DaemonEvent} {choice : Choice} {st st' : UnitState}
      {phase' : UnitPhase} {prog : DaemonProg Home} (lived : Lived kind unit before since .init st)
      (resumed : unitThread kind unit choice .init st = some prog)
      (run : DaemonRuns prog events (.unit phase' st')) :
      Lived kind unit (before ++ since ++ events) [] phase' st'
  | goesOn {before since events : List DaemonEvent} {choice : Choice} {st st' : UnitState}
      {phase phase' : UnitPhase} {prog : DaemonProg Home}
      (lived : Lived kind unit before since phase st) (past : phase ≠ .init)
      (resumed : unitThread kind unit choice phase st = some prog)
      (run : DaemonRuns prog events (.unit phase' st')) :
      Lived kind unit before (since ++ events) phase' st'

structure Held (kind : DeviceKind) (unit : DeviceUnit) (before since : List DaemonEvent)
    (phase : UnitPhase) : Prop where
  disconnected : phase = .init → poolAfter (fun _ => 0) (before ++ since) (statusReg kind) = 0
  follows : phase ≠ .init → phase ≠ .error → ∀ row ∈ unit.profile.table, Follows row since
  marked : phase = .error → ∀ pool, ∀ row ∈ unit.profile.table,
    poolAfter pool since row.poolAddress = commLossMarker

theorem Lived.held (standard : unit.profile = unitProfile kind)
    (lived : Lived kind unit before since phase st) : Held kind unit before since phase := by
  have mapped : unit.profile.WellMapped := standard ▸ unitProfile_wellMapped kind
  have unread : ∀ row : DeviceRegisterMapping, Follows row [] := fun _ _ => rfl
  induction lived with
  | started => exact ⟨fun _ => rfl, by simp, by simp⟩
  | @connects before since events choice st st' phase' prog lived resumed run ih =>
      cases unitThread_turn resumed run with
      | connected run => exact ⟨by simp, fun _ _ row _ => unread row, by simp⟩
      | refused run =>
          refine ⟨fun _ => ?_, by simp, by simp⟩
          rw [List.append_nil, poolAfter_append, initCallback_fails run]
          exact ih.disconnected rfl
      | stopped => exact ⟨by simp, fun _ _ row _ => unread row, by simp⟩
  | @goesOn before since events choice st st' phase phase' prog lived past resumed run ih =>
      cases unitThread_turn resumed run with
      | connected => exact absurd rfl past
      | refused => exact absurd rfl past
      | polled run =>
          refine ⟨by simp, fun _ _ row member => ?_, by simp⟩
          exact (ih.follows past (by simp) row member).append
            (processCallback_follows standard member run)
      | lost run =>
          refine ⟨by simp, by simp, fun _ pool row member => ?_⟩
          rw [poolAfter_append]
          exact processCallback_marks run _ row member (mapped.inside row member)
      | recovered run =>
          obtain ⟨rfl, _⟩ := errorCallback_runs run
          refine ⟨fun _ => ?_, by simp, by simp⟩
          have inside : (statusReg kind).toNat < internalPoolSize := by cases kind <;> decide
          simp [poolStep, poolWriteRegister_self inside, connectionDisconnected]
      | stopped calm =>
          refine ⟨by simp, fun _ _ row member => ?_, by simp⟩
          exact (ih.follows past calm row member).append fun _ => rfl

/-- While the status slot says connected, a slot holds the newest value read since
the connect, else what it held at the connect, or a marker just before the
disconnect. -/
theorem statusConnected_follows (standard : unit.profile = unitProfile kind)
    (lived : Lived kind unit before since phase st)
    (alive : poolAfter (fun _ => 0) (before ++ since) (statusReg kind) = connectionConnected) :
    ∀ row ∈ unit.profile.table,
      latest row.deviceAddress since =
          some (poolAfter (fun _ => 0) (before ++ since) row.poolAddress) ∨
        (latest row.deviceAddress since = none ∧
          poolAfter (fun _ => 0) (before ++ since) row.poolAddress =
            poolAfter (fun _ => 0) before row.poolAddress) ∨
        (phase = .error ∧
          poolAfter (fun _ => 0) (before ++ since) row.poolAddress = commLossMarker) := by
  intro row member
  have held := lived.held standard
  by_cases failed : phase = .error
  · right; right
    rw [poolAfter_append]
    exact ⟨failed, held.marked failed _ row member⟩
  · have past : phase ≠ .init := by
      intro fresh
      rw [held.disconnected fresh] at alive
      cases alive
    have slot := held.follows past failed row member (poolAfter (fun _ => 0) before)
    rw [poolAfter_append, slot]
    cases latest row.deviceAddress since with
    | none => exact .inr (.inl ⟨rfl, rfl⟩)
    | some value => exact .inl rfl

def tcpInverter : DeviceUnit where
  cfg := ⟨1, .tcp⟩
  profile := inverter1Profile

/-- The run of a program on a device that answers every read with the addresses themselves. -/
def steadyRun {α : Type} (prog : DaemonProg α) (ends : (simulate daemonCode
    (steadyDevice (fun _ => true) fun address => address) 0 prog).isSome) :
    List DaemonEvent × α :=
  Option.get _ ends

theorem steadyRun_runs {α : Type} (prog : DaemonProg α) (ends : (simulate daemonCode
    (steadyDevice (fun _ => true) fun address => address) 0 prog).isSome) :
    DaemonRuns prog (steadyRun prog ends).1 (steadyRun prog ends).2 :=
  runs_of_simulate (Option.some_get ends).symm

def connectRun : List DaemonEvent × (Rc × UnitState) :=
  steadyRun ((moduleCallbacks .inverter).init tcpInverter ⟨0, connectionDisconnected⟩) (by decide)

def scanRun : List DaemonEvent × (Rc × UnitState) :=
  steadyRun ((moduleCallbacks .inverter).process tcpInverter ⟨0, connectionConnected⟩) (by decide)

theorem tcpInverter_connects :
    Lived .inverter tcpInverter connectRun.1 [] .process ⟨0, connectionConnected⟩ := by
  have connected : connectRun.2 = (.ok, ⟨0, connectionConnected⟩) := by decide
  have run : DaemonRuns ((moduleCallbacks .inverter).init tcpInverter ⟨0, connectionDisconnected⟩)
      connectRun.1 (.ok, ⟨0, connectionConnected⟩) := connected ▸ steadyRun_runs _ _
  have resumed :
      unitThread .inverter tcpInverter .go .init ⟨0, connectionDisconnected⟩ = some _ := rfl
  have turn := Lived.connects .started resumed (Runs.bind run (.ret _))
  simpa using turn

theorem tcpInverter_scans :
    Lived .inverter tcpInverter connectRun.1 scanRun.1 .process ⟨0, connectionConnected⟩ := by
  have scanned : scanRun.2 = (.ok, ⟨0, connectionConnected⟩) := by decide
  have run : DaemonRuns ((moduleCallbacks .inverter).process tcpInverter ⟨0, connectionConnected⟩)
      scanRun.1 (.ok, ⟨0, connectionConnected⟩) := scanned ▸ steadyRun_runs _ _
  have resumed :
      unitThread .inverter tcpInverter .go .process ⟨0, connectionConnected⟩ = some _ := rfl
  have turn := Lived.goesOn tcpInverter_connects (by simp) resumed (Runs.bind run (.ret _))
  simpa using turn

/-- Connected, and nothing read yet. -/
theorem statusConnected_unread : ¬ ∀ before since phase st,
    Lived .inverter tcpInverter before since phase st →
    poolAfter (fun _ => 0) (before ++ since) intInverterConnectionStatusReg =
      connectionConnected →
    ∀ row ∈ tcpInverter.profile.table, ∃ read ∈ deviceReads since,
      read.value? row.deviceAddress =
        some (poolAfter (fun _ => 0) (before ++ since) row.poolAddress) := by
  intro always
  obtain ⟨read, member, _⟩ := always _ _ _ _ tcpInverter_connects (by decide)
    ⟨0x0006, 0xA000, .ro⟩ (by decide)
  cases member

theorem statusConnected_follows_scanned :
    latest 0x0006 scanRun.1 = some 6 ∧
      poolAfter (fun _ => 0) (connectRun.1 ++ scanRun.1) 0xA000 = 6 := by
  have alive : poolAfter (fun _ => 0) (connectRun.1 ++ scanRun.1) (statusReg .inverter) =
      connectionConnected := by decide +kernel
  have newest : latest 0x0006 scanRun.1 = some 6 := by decide +kernel
  refine ⟨newest, ?_⟩
  rcases statusConnected_follows rfl tcpInverter_scans alive ⟨0x0006, 0xA000, .ro⟩ (by decide)
    with fresh | ⟨unread, _⟩ | ⟨failed, _⟩
  · exact Option.some.inj (fresh.symm.trans newest)
  · cases unread.symm.trans newest
  · cases failed

end Lives

end Rs485Gateway
