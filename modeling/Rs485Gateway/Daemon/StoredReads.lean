import Rs485Gateway.Daemon.Freshness
import Rs485Gateway.Daemon.PoolHistory
import Rs485Gateway.Interaction.Guarantee

namespace Rs485Gateway

open Interaction

/-- The slots of status and init flags. -/
def flagSlot (slot : Reg) : Prop := ∃ kind, slot = statusReg kind ∨ slot = initFlagReg kind

/-- A thread stores only values of its last read, each in the slot of its address,
and otherwise writes flags and markers; `watcher` threads alone raise alarms. -/
def storeSpec (watcher : Prop) (profile : DeviceMapProfile) :
    Protocol daemonSig (Option DeviceRead) where
  allow := fun last operation => match operation with
    | .poolStore slot value => ∃ read address, last = some read ∧
        storeSlot profile address = some slot ∧ read.value? address = some value
    | .poolWrite slot value => value = commLossMarker ∨ flagSlot slot
    | .alarmEvent _ _ _ _ => watcher
    | _ => True
  rely := fun _ _ _ => True
  next := fun last operation answer => (deviceRead? ⟨operation, answer⟩).or last
  enter := fun _ _ => True
  leave := fun _ _ _ _ => True

abbrev StoresReads {α : Type} (watcher : Prop) (profile : DeviceMapProfile)
    (prog : DaemonProg α) : Prop :=
  ∀ last, Safe (storeSpec watcher profile) (fun _ _ => True) last prog

def storeFree : Footprint where
  marks := fun _ => True
  reads := fun _ _ => True
  writes := fun slot value => value = commLossMarker ∨ flagSlot slot
  stores := fun _ => False

section Programs

variable {watcher : Prop} {profile : DeviceMapProfile} {unit : DeviceUnit} {α β : Type}

theorem StoresReads.bind {prog : DaemonProg α} {next : α → DaemonProg β}
    (head : StoresReads watcher profile prog)
    (tail : ∀ value, StoresReads watcher profile (next value)) :
    StoresReads watcher profile (prog.bind next) :=
  fun last => Safe.bind (head last) fun value last _ => tail value last

theorem storesReads_uses {allowed : DaemonOp → Prop} {loops : DaemonLoop → Prop}
    {prog : DaemonProg α} (uses : Uses allowed loops prog)
    (allows : ∀ last operation, allowed operation →
      (storeSpec watcher profile).allow last operation) : StoresReads watcher profile prog :=
  fun _ => uses.safe_any allows fun _ _ _ => trivial

theorem storesReads_storeFree {prog : DaemonProg α} (stays : Footprint.Stays storeFree prog) :
    StoresReads watcher profile prog := by
  apply storesReads_uses stays
  intro last operation allowed
  cases operation <;> trivial

theorem storesReads_handles {prog : DaemonProg α} (handling : Daemon.Handles prog) :
    StoresReads watcher profile prog := by
  apply storesReads_uses handling
  intro last operation allowed
  cases operation <;> trivial

theorem storesReads_watches {prog : DaemonProg α} (watching : Daemon.Watches prog) :
    StoresReads True profile prog := by
  apply storesReads_uses watching
  intro last operation allowed
  cases operation <;> trivial

theorem storesReads_pure (value : α) : StoresReads watcher profile (pure value) := fun _ => trivial

theorem readDeviceValue_last (addr count : Reg) (last : Option DeviceRead) :
    Safe (storeSpec watcher profile) (fun answer last => last = some ⟨addr, count, answer⟩) last
      (readDeviceValue unit addr count) := by
  unfold readDeviceValue
  split
  · exact ⟨trivial, fun _ _ => rfl⟩
  · exact ⟨trivial, fun _ _ => ⟨trivial, fun _ _ => ⟨trivial, fun _ _ => rfl⟩⟩⟩

theorem storeEach_stores (start count : Reg) (values : Fin count.toNat → Reg)
    (indices : List (Fin count.toNat)) :
    Safe (storeSpec watcher profile) (fun _ _ => True) (some ⟨start, count, some values⟩)
      (storeEach profile start values indices) := by
  induction indices with
  | nil => trivial
  | cons i rest ih =>
      have here : Safe (storeSpec watcher profile)
          (fun _ last => last = some ⟨start, count, some values⟩)
          (some ⟨start, count, some values⟩)
          (storeRegister profile (start + UInt16.ofNat i.val) (values i)) := by
        unfold storeRegister
        cases found : deviceFindSlot profile (start + UInt16.ofNat i.val) with
        | none => rfl
        | some row =>
            simp only
            split
            · rfl
            · rename_i inside
              refine ⟨⟨_, start + UInt16.ofNat i.val, rfl, ?_, ?_⟩, fun _ _ => rfl⟩
              · simp [storeSlot, found, inside]
              · exact DeviceRead.value?_index values i
      refine here.bind ?_
      rintro _ _ rfl
      exact ih

theorem storesReads_scanStep {trackCommFail : Bool}
    {again : UnitState → DaemonProg (Rc × UnitState)} (start count : Reg) (st : UnitState)
    (goesOn : ∀ st, StoresReads watcher unit.profile (again st)) :
    StoresReads watcher unit.profile (scanStep unit trackCommFail start count st again) := by
  intro last
  refine (readDeviceValue_last start count last).bind ?_
  rintro answer _ rfl
  cases answer with
  | none =>
      simp only
      split
      · trivial
      · split
        · have marking : StoresReads watcher unit.profile (markCommLoss unit.profile.table) :=
            storesReads_storeFree (Footprint.stays_markCommLoss _ fun _ _ => .inl rfl)
          exact (marking.bind fun _ => storesReads_pure _) _
        · exact goesOn _ _
  | some values => exact (storeEach_stores start count values _).bind fun _ _ _ => goesOn _ _

theorem storesReads_scanLoop {trackCommFail : Bool} (todo i segStart segLen : Nat)
    (st : UnitState) :
    StoresReads watcher unit.profile (scanLoop unit trackCommFail todo i segStart segLen st) := by
  apply scanLoop_rule
  · exact fun st => storesReads_pure _
  · exact fun start count st again => storesReads_scanStep start count st

theorem StoresReads.ask_bind {operation : DaemonOp} {next : operation.Res → DaemonProg β}
    (free : storeFree.allows operation)
    (tail : ∀ answer, StoresReads watcher profile (next answer)) :
    StoresReads watcher profile ((ask operation).bind next) :=
  StoresReads.bind (storesReads_storeFree (Footprint.stays_ask free)) tail

theorem storesReads_readProfileToPool (trackCommFail : Bool) (st : UnitState) :
    StoresReads watcher unit.profile (readProfileToPool unit trackCommFail st) := by
  unfold readProfileToPool
  split
  · exact storesReads_pure _
  · refine StoresReads.ask_bind trivial fun _ => ?_
    refine StoresReads.ask_bind trivial fun _ => ?_
    apply StoresReads.bind (storesReads_scanLoop _ _ _ _ _)
    intro result
    refine StoresReads.ask_bind trivial fun _ => ?_
    exact StoresReads.ask_bind trivial fun _ => storesReads_pure _

theorem storesReads_upsRunInitSequence (st : UnitState) :
    StoresReads watcher unit.profile (upsRunInitSequence unit st) := by
  have flag : flagSlot intUpsInitFlagReg := ⟨.ups, .inr rfl⟩
  refine StoresReads.ask_bind (.inr flag) fun _ => ?_
  apply StoresReads.bind (storesReads_readProfileToPool false st)
  rintro ⟨rc, st⟩
  cases rc with
  | fail => exact storesReads_pure _
  | ok => exact StoresReads.ask_bind (.inr flag) fun _ => storesReads_pure _

theorem storesReads_runRequests (kind : DeviceKind) (st : UnitState) :
    StoresReads watcher unit.profile (runRequests kind unit st) := by
  cases kind with
  | inverter =>
      have flag : flagSlot intInverterInitFlagReg := ⟨.inverter, .inr rfl⟩
      exact storesReads_storeFree (Footprint.stays_inverterRunRequests fun _ => .inr flag)
  | ups =>
      refine StoresReads.bind (?_ : StoresReads watcher unit.profile (onRequest _ _ _)) fun st => ?_
      · refine StoresReads.ask_bind trivial fun requested => ?_
        split
        · exact storesReads_upsRunInitSequence st
        · exact storesReads_pure _
      · apply storesReads_storeFree
        have asks : Footprint.Stays storeFree (ask .exchangeReboot) :=
          Footprint.stays_ask trivial
        apply Footprint.stays_onRequest asks
        exact (Footprint.stays_upsRunRebootSequence trivial).bind fun _ => Footprint.stays_pure st

theorem storesReads_unitThread {kind : DeviceKind} {st : UnitState} {phase : UnitPhase}
    {prog : DaemonProg Home} (starts : UnitStarts kind unit st phase prog) :
    StoresReads watcher unit.profile prog := by
  cases starts with
  | init =>
      apply StoresReads.bind _ fun _ => storesReads_pure _
      apply storesReads_storeFree
      rw [moduleCallbacks_init]
      have flag : flagSlot (statusReg kind) := ⟨kind, .inl rfl⟩
      refine Footprint.stays_initCallback ?_ (.inr flag)
      cases kind with
      | inverter => exact Footprint.stays_inverterUnitConnect fun _ => trivial
      | ups => exact Footprint.stays_upsUnitConnect fun _ => trivial
  | process =>
      apply StoresReads.bind _ fun _ => storesReads_pure _
      rw [moduleCallbacks_process]
      apply StoresReads.bind (storesReads_runRequests kind st)
      intro st
      apply StoresReads.bind (storesReads_storeFree (Footprint.stays_drainQueue trivial trivial))
      intro _
      split
      · exact storesReads_pure _
      · exact storesReads_readProfileToPool true st
  | error =>
      apply StoresReads.bind _ fun _ => storesReads_pure _
      rw [moduleCallbacks_error]
      have flag : flagSlot (statusReg kind) := ⟨kind, .inl rfl⟩
      exact storesReads_storeFree (Footprint.stays_errorCallback (.inr flag))
  | stop => exact StoresReads.ask_bind trivial fun _ => storesReads_pure _

end Programs

namespace Daemon

variable {daemon : Daemon}

def scanProfile (daemon : Daemon) : ThreadId → DeviceMapProfile
  | .unit id => ((daemon.unit? id).map DeviceUnit.profile).getD { table := [], readChunk := 0 }
  | _ => { table := [], readChunk := 0 }

theorem storesReads_resumed {t : ThreadId} {home : Home} {prog : DaemonProg Home}
    (resumed : daemon.Resumed t home prog) :
    StoresReads (t = .alarmMonitor) (daemon.scanProfile t) prog := by
  cases resumed with
  | @unit id unit phase st prog present starts =>
      have profile : daemon.scanProfile (.unit id) = unit.profile := by
        simp [scanProfile, present]
      rw [profile]
      exact storesReads_unitThread starts
  | message kind =>
      apply StoresReads.bind _ fun _ => storesReads_pure _
      cases kind with
      | inverter =>
          exact fun last => ⟨trivial, fun command _ =>
            storesReads_handles (inverterDispatch_handles command) _⟩
      | ups =>
          exact fun last => ⟨trivial, fun command _ =>
            storesReads_handles (upsDispatch_handles command) _⟩
  | pass states =>
      rw [eq_self]
      exact (storesReads_watches (alarmPass_watches states)).bind fun _ => storesReads_pure _

theorem storeSpec_verifies (watcher : Prop) (profile : DeviceMapProfile) :
    (storeSpec watcher profile).Verifies daemonCode := by
  rintro ⟨unit, cmd⟩ last _
  exact storesReads_storeFree (Footprint.stays_drainBody cmd) last

theorem lastRead_mem {watcher : Prop} {profile : DeviceMapProfile} {t : ThreadId}
    {history : History} {read : DeviceRead}
    (last : (storeSpec watcher profile).ghost none t history = some read) :
    ∃ line, (t, ⟨.readHolding line read.start read.count, read.answer⟩) ∈ history := by
  induction history with
  | nil => cases last
  | cons head older ih =>
      obtain ⟨u, operation, answer⟩ := head
      have earlier : (storeSpec watcher profile).ghost none t older = some read →
          ∃ line, (t, ⟨.readHolding line read.start read.count, read.answer⟩) ∈
            (u, ⟨operation, answer⟩) :: older := by
        intro last
        obtain ⟨line, member⟩ := ih last
        exact ⟨line, List.mem_cons_of_mem _ member⟩
      by_cases same : u = t
      · subst u
        rw [Protocol.ghost_self] at last
        cases operation with
        | readHolding line addr count =>
            cases last
            exact ⟨line, List.mem_cons_self⟩
        | _ => exact earlier last
      · rw [Protocol.ghost_other _ _ _ _ same] at last
        exact earlier last

theorem reachable_stores {c : DaemonConfig} (reached : daemon.Reachable c) (t : ThreadId) :
    (storeSpec (t = .alarmMonitor) (daemon.scanProfile t)).Kept none t c.history := by
  have starts : SafeThread (storeSpec (t = .alarmMonitor) (daemon.scanProfile t)) none
      (fun _ _ => True) t daemon.start := trivial
  exact (System.Reaches.guarantee (storeSpec_verifies _ _)
    (fun choice home prog resumed last _ => storesReads_resumed (resume_cases resumed) last) rfl
    starts reached (Protocol.Trusted.of_forall (fun _ _ _ => trivial) _)).2

/-- What stands in the pool from a store was returned by the device of the storing
unit, for the address that the slot belongs to. -/
theorem store_returned {c : DaemonConfig} (reached : daemon.Reachable c) {t : ThreadId}
    {newer older : History} {slot value : Reg}
    (split : c.history = newer ++ (t, ⟨.poolStore slot value, ()⟩) :: older) :
    ∃ id unit, t = .unit id ∧ daemon.unit? id = some unit ∧
      ∃ (address : Reg) (line : Option CStr) (read : DeviceRead),
        (t, ⟨.readHolding line read.start read.count, read.answer⟩) ∈ older ∧
          storeSlot unit.profile address = some slot ∧ read.value? address = some value := by
  have kept := reachable_stores reached t
  rw [split] at kept
  obtain ⟨read, address, last, slotted, returned⟩ := kept.allowed
  obtain ⟨line, member⟩ := lastRead_mem last
  have mapped := storeSlot_row slotted
  cases t with
  | unit id =>
      cases present : daemon.unit? id with
      | none => simp [scanProfile, present] at mapped
      | some unit =>
          have profile : daemon.scanProfile (.unit id) = unit.profile := by
            simp [scanProfile, present]
          rw [profile] at slotted
          exact ⟨id, unit, rfl, present, address, line, read, member, slotted, returned⟩
  | subscriber kind => simp [scanProfile] at mapped
  | alarmMonitor => simp [scanProfile] at mapped

theorem row_unflagged (kind : DeviceKind) :
    ∀ row ∈ (unitProfile kind).table, ¬ flagSlot row.poolAddress := by
  have apart : ∀ row ∈ (unitProfile kind).table, ∀ flag : DeviceKind,
      row.poolAddress ≠ statusReg flag ∧ row.poolAddress ≠ initFlagReg flag := by
    intro row member flag
    revert row
    cases kind <;> cases flag <;> decide
  rintro row member ⟨flag, status | init⟩
  · exact (apart row member flag).1 status
  · exact (apart row member flag).2 init

def Standard (daemon : Daemon) : Prop :=
  ∀ id unit, daemon.unit? id = some unit → unit.profile = unitProfile id.kind

def loneInverter : Daemon where
  inverters := [tcpInverter]
  ups := []
  alarms := [(inverterAlarmTable, inverter1Profile)]

def inverterSteps (choices : List Choice) : List (ThreadId × Choice) :=
  choices.map fun choice => (.unit ⟨.inverter, 0⟩, choice)

theorem loneInverter_standard : loneInverter.Standard := by
  rintro ⟨kind, index⟩ unit present
  have member := List.mem_of_getElem? present
  cases kind with
  | inverter =>
      obtain rfl := List.mem_singleton.mp member
      rfl
  | ups => cases member

theorem slot_owner (first second : DeviceKind) : ∀ row ∈ (unitProfile first).table,
    ∀ other ∈ (unitProfile second).table, row.poolAddress = other.poolAddress →
      first = second ∧ row.deviceAddress = other.deviceAddress := by
  cases first <;> cases second <;> decide +kernel

/-- A slot that holds a stored value holds what a device of its kind returned for it. -/
theorem stored_returned (standard : daemon.Standard) {c : DaemonConfig}
    (reached : daemon.Reachable c) {newer older : History} (split : c.history = newer ++ older)
    {kind : DeviceKind} {row : DeviceRegisterMapping} (member : row ∈ (unitProfile kind).table)
    (holds : stored row.poolAddress older = true) :
    ∃ (index : Nat) (line : Option CStr) (read : DeviceRead),
      (.unit ⟨kind, index⟩, ⟨.readHolding line read.start read.count, read.answer⟩) ∈ older ∧
        read.value? row.deviceAddress = some (poolOf older row.poolAddress) := by
  obtain ⟨later, t, earlier, store⟩ := stored_value holds
  have whole : c.history = (newer ++ later) ++
      (t, ⟨.poolStore row.poolAddress (poolOf older row.poolAddress), ()⟩) :: earlier := by
    rw [split, List.append_assoc, ← store]
  obtain ⟨⟨owner, index⟩, unit, rfl, present, address, line, read, inside, slotted, returned⟩ :=
    store_returned reached whole
  obtain ⟨other, inTable, named, slot⟩ := storeSlot_some slotted
  rw [standard _ _ present] at inTable
  obtain ⟨rfl, same⟩ := slot_owner kind owner row member other inTable slot.symm
  refine ⟨index, line, read, ?_, ?_⟩
  · rw [store]
    exact List.mem_append_right _ (List.mem_cons_of_mem _ inside)
  · rw [same, named]
    exact returned

/-- A row's slot that a write other than a store wrote last holds the marker. -/
theorem marked_value {c : DaemonConfig} (reached : daemon.Reachable c) {newer older : History}
    (split : c.history = newer ++ older) {kind : DeviceKind} {row : DeviceRegisterMapping}
    (member : row ∈ (unitProfile kind).table) (holds : marked row.poolAddress older = true) :
    poolOf older row.poolAddress = commLossMarker := by
  have inside := (unitProfile_wellMapped kind).inside row member
  obtain ⟨later, t, earlier, store⟩ := written_value inside holds
  have kept := reachable_stores reached t
  rw [split, store, ← List.append_assoc] at kept
  rcases kept.allowed with marker | flag
  · exact marker
  · exact absurd flag (row_unflagged kind row member)

end Daemon

end Rs485Gateway
