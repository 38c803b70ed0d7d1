import Rs485Gateway.Daemon.StoredReads

namespace Rs485Gateway

open Interaction

def alarmTable : DeviceKind → List AlarmEntry
  | .inverter => inverterAlarmTable
  | .ups => upsAlarmTable

def alarmReading? (ctx entry : Nat) : ThreadId × DaemonEvent → Option (Reg × Reg)
  | (.alarmMonitor, ⟨.poolRead (.alarm c e) slot, some value⟩) =>
      if c = ctx ∧ e = entry then some (slot, value) else none
  | _ => none

def readings (ctx entry : Nat) : History → List Reg
  | [] => []
  | event :: older =>
      ((alarmReading? ctx entry event).map Prod.snd).toList ++ readings ctx entry older

/-- Those of them that a scan had stored. -/
def genuine (ctx entry : Nat) : History → List Reg
  | [] => []
  | event :: older =>
      (((alarmReading? ctx entry event).filter fun reading => stored reading.1 older).map
        Prod.snd).toList ++ genuine ctx entry older

def alarmRead? : ThreadId → DaemonOp → Option (Nat × Nat × Reg)
  | .alarmMonitor, .poolRead (.alarm ctx entry) slot => some (ctx, entry, slot)
  | _, _ => none

/-- An entry meets a comm-loss marker only where 65535 is its newest genuine value. -/
def markersSettled : History → Bool
  | [] => true
  | (t, event) :: older =>
      (alarmRead? t event.1).all (fun (ctx, entry, slot) =>
        !marked slot older || (genuine ctx entry older).headD 0 = commLossMarker) &&
        markersSettled older

namespace Daemon

def StandardAlarms (daemon : Daemon) : Prop :=
  ∀ context ∈ daemon.alarms, ∃ kind, context = (alarmTable kind, unitProfile kind)

def alarmSlot (daemon : Daemon) (ctx entry : Nat) : Option Reg :=
  (daemon.alarms[ctx]?).bind fun context =>
    (context.1[entry]?).bind fun row =>
      (deviceFindSlot context.2 row.deviceAddress).map DeviceRegisterMapping.poolAddress

end Daemon

abbrev Readings := Nat → Nat → List Reg

def Readings.after (g : Readings) (operation : DaemonOp) (answer : operation.Res) : Readings :=
  match operation, answer with
  | .poolRead (.alarm ctx entry) _, some value =>
      fun c e => if ctx = c ∧ entry = e then value :: g c e else g c e
  | _, _ => g

/-- An entry reads its own slot, and an event carries a value that differs from the
one read before. -/
def alarmSpec (daemon : Daemon) : Protocol daemonSig Readings where
  allow := fun g operation => match operation with
    | .poolRead (.alarm ctx entry) slot => daemon.alarmSlot ctx entry = some slot
    | .alarmEvent ctx entry value _ => ∃ rest, g ctx entry = value :: rest ∧ value ≠ rest.headD 0
    | _ => True
  rely := fun _ _ _ => True
  next := Readings.after
  enter := fun _ _ => False
  leave := fun _ _ _ _ => True

/-- The states of an alarm context hold what its entries read last. -/
def Current (g : Readings) (ctx entry : Nat) (states : List AlarmState) : Prop :=
  ∀ (i : Nat) state, states[i]? = some state → state.prevValue = (g ctx (entry + i)).headD 0

namespace Daemon

section Passes

variable {daemon : Daemon} {g : Readings}

theorem runEntry_current {ctx entry : Nat} {profile : DeviceMapProfile} {table : List AlarmEntry}
    {row : AlarmEntry} {state : AlarmState} (changes : row.condition = .change)
    (context : daemon.alarms[ctx]? = some (table, profile)) (here : table[entry]? = some row)
    (current : state.prevValue = (g ctx entry).headD 0) :
    Safe (alarmSpec daemon)
      (fun next after => next.prevValue = (after ctx entry).headD 0 ∧
        ∀ c e, c ≠ ctx ∨ e ≠ entry → after c e = g c e) g
      (runEntry ctx entry profile row state) := by
  unfold runEntry alarmReadRegister
  cases found : deviceFindSlot profile row.deviceAddress with
  | none => exact ⟨current, fun _ _ _ => rfl⟩
  | some mapping =>
      have slot : daemon.alarmSlot ctx entry = some mapping.poolAddress := by
        simp [Daemon.alarmSlot, context, here, found]
      refine ⟨slot, fun answer _ => ?_⟩
      cases answer with
      | none => exact ⟨current, fun _ _ _ => rfl⟩
      | some value =>
          have newest : Readings.after g (.poolRead (.alarm ctx entry) mapping.poolAddress)
              (some value) ctx entry = value :: g ctx entry := by
            simp [Readings.after]
          have others : ∀ c e, c ≠ ctx ∨ e ≠ entry →
              Readings.after g (.poolRead (.alarm ctx entry) mapping.poolAddress)
                (some value) c e = g c e := by
            intro c e apart
            simp only [Readings.after]
            rw [if_neg]
            rintro ⟨rfl, rfl⟩
            simp at apart
          have after : (evalEntry row state value).1.prevValue = value := by
            simp [evalEntry, changes]
          by_cases changed : value = state.prevValue
          · have quiet : (evalEntry row state value).2 = none := by
              simp [evalEntry, changes, evalChange, changed]
            simp only [Prog.ret_bind, quiet, emit]
            exact ⟨by rw [after]; exact (congrArg (·.headD 0) newest).symm, others⟩
          · have raised : (evalEntry row state value).2 = some .trigger := by
              simp [evalEntry, changes, evalChange, changed]
            simp only [Prog.ret_bind, raised, emit]
            refine ⟨⟨g ctx entry, newest, by rwa [← current]⟩, fun _ _ => ?_⟩
            exact ⟨by rw [after]; exact (congrArg (·.headD 0) newest).symm, others⟩

theorem runEntries_current {ctx : Nat} {profile : DeviceMapProfile} {table : List AlarmEntry}
    (context : daemon.alarms[ctx]? = some (table, profile)) {rows : List (AlarmEntry × AlarmState)}
    {entry : Nat} {g : Readings}
    (here : ∀ (i : Nat) row state, rows[i]? = some (row, state) →
      row.condition = .change ∧ table[entry + i]? = some row ∧
        state.prevValue = (g ctx (entry + i)).headD 0) :
    Safe (alarmSpec daemon)
      (fun states after => Current after ctx entry states ∧
        ∀ c e, c ≠ ctx ∨ e < entry → after c e = g c e) g
      (runEntries ctx profile entry rows) := by
  induction rows generalizing entry g with
  | nil => exact ⟨fun i state absent => by simp at absent, fun _ _ _ => rfl⟩
  | cons head rest ih =>
      obtain ⟨row, state⟩ := head
      obtain ⟨changes, inTable, current⟩ := here 0 row state rfl
      apply Safe.bind (runEntry_current changes context inTable current)
      rintro next middle ⟨nextCurrent, frame⟩
      have later := @ih (entry + 1) middle (by
        intro i row state at_i
        have there := here (i + 1) row state at_i
        rw [← Nat.add_assoc, Nat.add_right_comm] at there
        rw [frame ctx _ (.inr (by omega))]
        exact there)
      apply Safe.bind later
      rintro states after ⟨statesCurrent, untouched⟩
      constructor
      · intro i state at_i
        cases i with
        | zero =>
            cases at_i
            rw [Nat.add_zero, untouched ctx entry (.inr (Nat.lt_succ_self entry))]
            exact nextCurrent
        | succ i =>
            have there := statesCurrent i state at_i
            rwa [Nat.add_right_comm] at there
      · intro c e apart
        rw [untouched c e (apart.imp_right Nat.lt_succ_of_lt)]
        exact frame c e (apart.imp_right Nat.ne_of_lt)

theorem runContexts_current
    (standard : ∀ context ∈ daemon.alarms, ∀ row ∈ context.1, row.condition = .change)
    {contexts : List ((List AlarmEntry × DeviceMapProfile) × List AlarmState)} {ctx : Nat}
    {g : Readings}
    (here : ∀ (i : Nat) context states, contexts[i]? = some (context, states) →
      daemon.alarms[ctx + i]? = some context ∧ Current g (ctx + i) 0 states) :
    Safe (alarmSpec daemon)
      (fun states after => (∀ (i : Nat) inner, states[i]? = some inner →
          Current after (ctx + i) 0 inner) ∧ ∀ c e, c < ctx → after c e = g c e) g
      (runContexts ctx contexts) := by
  induction contexts generalizing ctx g with
  | nil => exact ⟨fun i inner absent => by simp at absent, fun _ _ _ => rfl⟩
  | cons head rest ih =>
      obtain ⟨⟨table, profile⟩, states⟩ := head
      obtain ⟨context, current⟩ := here 0 (table, profile) states rfl
      have rows : ∀ (i : Nat) row state, (table.zip states)[i]? = some (row, state) →
          row.condition = .change ∧ table[0 + i]? = some row ∧
            state.prevValue = (g ctx (0 + i)).headD 0 := by
        intro i row state at_i
        obtain ⟨inTable, inStates⟩ := List.getElem?_zip_eq_some.mp at_i
        refine ⟨?_, by rwa [Nat.zero_add], current i state inStates⟩
        exact standard _ (List.mem_of_getElem? context) row (List.mem_of_getElem? inTable)
      apply Safe.bind (runEntries_current context rows)
      rintro next middle ⟨nextCurrent, frame⟩
      have later := @ih (ctx + 1) middle (by
        intro i context states at_i
        have there := here (i + 1) context states at_i
        rw [← Nat.add_assoc, Nat.add_right_comm] at there
        refine ⟨there.1, fun j state at_j => ?_⟩
        rw [frame _ _ (.inl (by omega))]
        exact there.2 j state at_j)
      apply Safe.bind later
      rintro others after ⟨othersCurrent, untouched⟩
      constructor
      · intro i inner at_i
        cases i with
        | zero =>
            cases at_i
            intro j state at_j
            rw [Nat.add_zero, untouched ctx _ (Nat.lt_succ_self ctx)]
            exact nextCurrent j state at_j
        | succ i =>
            have there := othersCurrent i inner at_i
            rwa [Nat.add_right_comm] at there
      · intro c e before
        rw [untouched c e (Nat.lt_succ_of_lt before)]
        exact frame c e (.inl (Nat.ne_of_lt before))

def AlarmsCurrent : Home → Readings → Prop
  | .alarmMonitor states, g =>
      ∀ (ctx : Nat) inner, states[ctx]? = some inner → Current g ctx 0 inner
  | _, _ => True

theorem alarmPass_current
    (standard : ∀ context ∈ daemon.alarms, ∀ row ∈ context.1, row.condition = .change)
    {states : List (List AlarmState)} (current : AlarmsCurrent (.alarmMonitor states) g) :
    Safe (alarmSpec daemon) (fun home after => AlarmsCurrent home after) g
      ((daemon.alarmPass states).bind fun states => pure (.alarmMonitor states)) := by
  have pass := @runContexts_current daemon standard (daemon.alarms.zip states) 0 g (by
      intro i context inner at_i
      obtain ⟨inAlarms, inStates⟩ := List.getElem?_zip_eq_some.mp at_i
      rw [Nat.zero_add]
      exact ⟨inAlarms, current i inner inStates⟩)
  apply Safe.bind pass
  intro next after done
  exact fun ctx inner at_ctx => Nat.zero_add ctx ▸ done.1 ctx inner at_ctx

end Passes

section Reachable

variable {daemon : Daemon} {c : DaemonConfig}

theorem StandardAlarms.changes (standard : daemon.StandardAlarms) :
    ∀ context ∈ daemon.alarms, ∀ row ∈ context.1, row.condition = .change := by
  intro context member
  obtain ⟨kind, rfl⟩ := standard context member
  cases kind <;> decide

theorem reachable_alarms (standard : daemon.StandardAlarms) (reached : daemon.Reachable c) :
    (alarmSpec daemon).Kept (fun _ _ => []) .alarmMonitor c.history := by
  have starts : SafeThread (alarmSpec daemon) (fun _ _ => []) AlarmsCurrent .alarmMonitor
      daemon.start := by
    intro ctx inner at_ctx i state at_i
    simp only [alarmStatesInit, List.getElem?_map, Option.map_eq_some_iff] at at_ctx
    obtain ⟨context, _, rfl⟩ := at_ctx
    rw [List.getElem?_map, Option.map_eq_some_iff] at at_i
    obtain ⟨row, _, rfl⟩ := at_i
    rfl
  have verified : (alarmSpec daemon).Verifies daemonCode := fun _ _ never => never.elim
  refine (System.Reaches.guarantee verified ?_ rfl starts reached
    (Protocol.Trusted.of_forall (fun _ _ _ => trivial) _)).2
  intro choice home prog resumed g current
  cases resume_cases resumed with
  | pass states => exact alarmPass_current standard.changes current

theorem readings_ghost (ctx entry : Nat) (history : History) :
    (alarmSpec daemon).ghost (fun _ _ => []) .alarmMonitor history ctx entry =
      readings ctx entry history := by
  induction history with
  | nil => rfl
  | cons head older ih =>
      obtain ⟨t, operation, answer⟩ := head
      by_cases same : t = .alarmMonitor
      · subst t
        rw [Protocol.ghost_self, readings, ← ih]
        cases operation with
        | poolRead reader slot =>
            cases reader with
            | handler => rfl
            | alarm c e =>
                cases answer with
                | none => rfl
                | some value =>
                    by_cases here : c = ctx ∧ e = entry
                    · simp [alarmSpec, Readings.after, alarmReading?, here]
                    · simp [alarmSpec, Readings.after, alarmReading?, here]
        | _ => rfl
      · rw [Protocol.ghost_other _ _ _ _ same, ih, readings]
        cases t with
        | alarmMonitor => exact absurd rfl same
        | _ => rfl

theorem alarmReading_some {ctx entry : Nat} {event : ThreadId × DaemonEvent} {slot value : Reg}
    (reading : alarmReading? ctx entry event = some (slot, value)) :
    event = (.alarmMonitor, ⟨.poolRead (.alarm ctx entry) slot, some value⟩) := by
  unfold alarmReading? at reading
  split at reading
  · split at reading
    · rename_i here
      obtain ⟨rfl, rfl⟩ := here
      cases reading
      rfl
    · cases reading
  · cases reading

structure Sensible (daemon : Daemon) (history : History) : Prop where
  kept : (alarmSpec daemon).Kept (fun _ _ => []) .alarmMonitor history
  reads : ReadsPool history
  settled : markersSettled history = true
  marks : ∀ newer older, history = newer ++ older → ∀ ctx entry slot,
    daemon.alarmSlot ctx entry = some slot → marked slot older = true →
      poolOf older slot = commLossMarker

theorem Sensible.tail {newer older : History} (sensible : daemon.Sensible (newer ++ older)) :
    daemon.Sensible older := by
  induction newer with
  | nil => exact sensible
  | cons event newer ih =>
      apply ih
      have settled := sensible.settled
      rw [List.cons_append, markersSettled, Bool.and_eq_true] at settled
      refine ⟨sensible.kept.2, sensible.reads.2, settled.2, ?_⟩
      intro later older split
      exact sensible.marks (event :: later) older (by rw [List.cons_append, split]; rfl)

inductive Origin (older : History) (ctx entry : Nat) (slot value : Reg) : Prop
  | initial (unstored : stored slot older = false) (zero : value = 0)
      (unwritten : lastWrite slot older = none)
  | scanned (holds : stored slot older = true)
  | settled (unstored : stored slot older = false)
      (same : value = (genuine ctx entry older).headD 0)

theorem Sensible.reading {ctx entry : Nat} {slot value : Reg} {older : History}
    (sensible : daemon.Sensible
      ((.alarmMonitor, ⟨.poolRead (.alarm ctx entry) slot, some value⟩) :: older)) :
    daemon.alarmSlot ctx entry = some slot ∧ value = poolOf older slot ∧
      Origin older ctx entry slot value := by
  have own : daemon.alarmSlot ctx entry = some slot := sensible.kept.1 rfl
  have found := sensible.reads.1 (.alarm ctx entry) slot (some value) rfl
  have held : value = poolOf older slot := by
    unfold poolReadRegister at found
    split at found
    · cases found
    · exact Option.some.inj found
  refine ⟨own, held, ?_⟩
  cases slot_origin slot older with
  | initial unstored zero unwritten => exact .initial unstored (held.trans zero) unwritten
  | scanned holds => exact .scanned holds
  | plain unstored holds =>
      have settled := sensible.settled
      simp only [markersSettled, alarmRead?, Option.all_some, Bool.and_eq_true, Bool.or_eq_true,
        Bool.not_eq_true', decide_eq_true_eq, holds] at settled
      have marker := sensible.marks [_] older rfl ctx entry slot own holds
      have same : (genuine ctx entry older).headD 0 = commLossMarker := by simpa using settled.1
      exact .settled unstored ((held.trans marker).trans same.symm)

theorem readings_cons {ctx entry : Nat} {slot value : Reg} {older : History} :
    readings ctx entry ((.alarmMonitor, ⟨.poolRead (.alarm ctx entry) slot, some value⟩) :: older) =
      value :: readings ctx entry older := by
  simp [readings, alarmReading?]

theorem genuine_cons {ctx entry : Nat} {slot value : Reg} {older : History} :
    genuine ctx entry ((.alarmMonitor, ⟨.poolRead (.alarm ctx entry) slot, some value⟩) :: older) =
      if stored slot older then value :: genuine ctx entry older
      else genuine ctx entry older := by
  by_cases holds : stored slot older = true <;>
    simp [genuine, alarmReading?, Option.filter, holds]

/-- Before the first write to its slot an entry reads nothing but zeros, and in a
sensible history its last reading is its last genuine one. -/
theorem Sensible.heads {history : History} (sensible : daemon.Sensible history)
    {ctx entry : Nat} {slot : Reg} (own : daemon.alarmSlot ctx entry = some slot) :
    (lastWrite slot history = none → (readings ctx entry history).headD 0 = 0) ∧
      (readings ctx entry history).headD 0 = (genuine ctx entry history).headD 0 := by
  induction history with
  | nil => exact ⟨fun _ => rfl, rfl⟩
  | cons event older ih =>
      have earlier := ih (@Sensible.tail daemon [event] older sensible)
      cases reading : alarmReading? ctx entry event with
      | none =>
          have sameReadings : readings ctx entry (event :: older) = readings ctx entry older := by
            simp [readings, reading]
          have sameGenuine : genuine ctx entry (event :: older) = genuine ctx entry older := by
            simp [genuine, reading]
          rw [sameReadings, sameGenuine]
          refine ⟨fun unwritten => earlier.1 ?_, earlier.2⟩
          rw [lastWrite] at unwritten
          split at unwritten
          · cases unwritten
          · exact unwritten
      | some pair =>
          obtain ⟨readSlot, value⟩ := pair
          obtain rfl := alarmReading_some reading
          obtain ⟨here, held, origin⟩ := sensible.reading
          obtain rfl : readSlot = slot := Option.some.inj (here.symm.trans own)
          rw [readings_cons, genuine_cons]
          constructor
          · intro unwritten
            exact held.trans (poolOf_unwritten unwritten)
          · cases origin with
            | initial unstored zero unwritten =>
                rw [if_neg (by simp [unstored]), ← earlier.2, earlier.1 unwritten]
                exact zero
            | scanned holds => rw [if_pos holds]; rfl
            | settled unstored same =>
                rw [if_neg (by simp [unstored])]
                exact same

theorem newest_reading {ctx entry : Nat} {value : Reg} {rest : List Reg} {history : History}
    (newest : readings ctx entry history = value :: rest) :
    ∃ newer slot older,
      history = newer ++ (.alarmMonitor, ⟨.poolRead (.alarm ctx entry) slot, some value⟩) :: older ∧
        rest = readings ctx entry older ∧
        genuine ctx entry history = genuine ctx entry
          ((.alarmMonitor, ⟨.poolRead (.alarm ctx entry) slot, some value⟩) :: older) := by
  induction history with
  | nil => cases newest
  | cons event older ih =>
      cases reading : alarmReading? ctx entry event with
      | none =>
          have here : readings ctx entry older = value :: rest := by
            simpa [readings, reading] using newest
          obtain ⟨newer, slot, old, split, others, same⟩ := ih here
          refine ⟨event :: newer, slot, old, by rw [split]; rfl, others, ?_⟩
          rw [← same]
          simp [genuine, reading]
      | some pair =>
          obtain ⟨slot, found⟩ := pair
          obtain rfl := alarmReading_some reading
          rw [readings_cons, List.cons.injEq] at newest
          obtain ⟨rfl, rfl⟩ := newest
          exact ⟨[], slot, older, rfl, rfl, rfl⟩

theorem alarmSlot_row (standard : daemon.StandardAlarms) {ctx entry : Nat} {slot : Reg}
    (own : daemon.alarmSlot ctx entry = some slot) :
    ∃ kind row mapping, daemon.alarms[ctx]? = some (alarmTable kind, unitProfile kind) ∧
      (alarmTable kind)[entry]? = some row ∧ mapping ∈ (unitProfile kind).table ∧
      mapping.deviceAddress = row.deviceAddress ∧ mapping.poolAddress = slot := by
  obtain ⟨context, present, inner⟩ := Option.bind_eq_some_iff.mp own
  obtain ⟨row, here, found⟩ := Option.bind_eq_some_iff.mp inner
  obtain ⟨mapping, at_mapping, named⟩ := Option.map_eq_some_iff.mp found
  obtain ⟨kind, rfl⟩ := standard context (List.mem_of_getElem? present)
  obtain ⟨member, address⟩ := deviceFindSlot_some at_mapping
  exact ⟨kind, row, mapping, present, here, member, address, named⟩

theorem reachable_sensible (standard : daemon.StandardAlarms) (reached : daemon.Reachable c)
    (settled : markersSettled c.history = true) : daemon.Sensible c.history := by
  refine ⟨reachable_alarms standard reached, (reachable_pool reached).2, settled, ?_⟩
  intro newer older split ctx entry slot own holds
  obtain ⟨kind, row, mapping, _, _, member, _, rfl⟩ := alarmSlot_row standard own
  exact marked_value reached split member holds

/-- Where entries meet a marker only after a genuine 65535, every event carries a
value its device returned, different from the genuine value before. -/
theorem alarmEvent_genuine (units : daemon.Standard) (standard : daemon.StandardAlarms)
    (reached : daemon.Reachable c) (settled : markersSettled c.history = true)
    {newer older : History} {t : ThreadId} {ctx entry : Nat} {value : Reg} {event : AlarmEvent}
    (delivered : c.history = newer ++ (t, ⟨.alarmEvent ctx entry value event, ()⟩) :: older) :
    (∃ rest, genuine ctx entry older = value :: rest ∧ value ≠ rest.headD 0) ∧
      ∃ kind row, daemon.alarms[ctx]? = some (alarmTable kind, unitProfile kind) ∧
        (alarmTable kind)[entry]? = some row ∧
        ∃ (index : Nat) (line : Option CStr) (read : DeviceRead),
          (.unit ⟨kind, index⟩, ⟨.readHolding line read.start read.count, read.answer⟩) ∈ older ∧
            read.value? row.deviceAddress = some value := by
  have watching := reachable_stores reached t
  rw [delivered] at watching
  obtain rfl : t = .alarmMonitor := watching.allowed
  have sensible := reachable_sensible standard reached settled
  have kept := sensible.kept
  rw [delivered] at kept
  obtain ⟨rest, newest, changed⟩ := kept.allowed
  rw [readings_ghost] at newest
  obtain ⟨later, slot, old, split, rfl, same⟩ := newest_reading newest
  have whole : c.history = (newer ++ (.alarmMonitor, ⟨.alarmEvent ctx entry value event, ()⟩) ::
      later) ++ (.alarmMonitor, ⟨.poolRead (.alarm ctx entry) slot, some value⟩) :: old := by
    rw [delivered, split]
    simp
  rw [whole] at sensible
  have atReading := sensible.tail
  obtain ⟨own, held, origin⟩ := atReading.reading
  have heads := (@Sensible.tail daemon [_] old atReading).heads own
  cases origin with
  | initial unstored zero unwritten => exact absurd (zero.trans (heads.1 unwritten).symm) changed
  | settled unstored marker => exact absurd (marker.trans heads.2.symm) changed
  | scanned holds =>
      constructor
      · refine ⟨genuine ctx entry old, ?_, by rwa [← heads.2]⟩
        rw [same, genuine_cons, if_pos holds]
      · obtain ⟨kind, row, mapping, context, here, member, address, rfl⟩ :=
          alarmSlot_row standard own
        have before : c.history = ((newer ++ (.alarmMonitor, ⟨.alarmEvent ctx entry value event,
            ()⟩) :: later) ++ [(.alarmMonitor, ⟨.poolRead (.alarm ctx entry)
            mapping.poolAddress, some value⟩)]) ++ old := by rw [whole]; simp
        obtain ⟨index, line, read, inOld, returned⟩ :=
          stored_returned units reached before member holds
        refine ⟨kind, row, context, here, index, line, read, ?_, ?_⟩
        · rw [split]
          exact List.mem_append_right _ (List.mem_cons_of_mem _ inOld)
        · rw [← address, returned, held]

theorem loneInverter_alarms : loneInverter.StandardAlarms := by
  intro context member
  exact ⟨.inverter, List.mem_singleton.mp member⟩

def markerRaised : History → Bool
  | (.alarmMonitor, ⟨.alarmEvent 0 0 value .trigger, _⟩) :: _ => value = commLossMarker
  | _ => false

/-- Five reads fail, the scan marks its rows, and the alarm monitor reports the marker. -/
theorem alarmEvent_phantom : ¬ ∀ c, loneInverter.Reachable c →
    ∀ newer older t ctx entry value event,
      c.history = newer ++ (t, ⟨.alarmEvent ctx entry value event, ()⟩) :: older →
      ∃ (u : ThreadId) (line : Option CStr) (read : DeviceRead) (address : Reg),
        (u, ⟨.readHolding line read.start read.count, read.answer⟩) ∈ older ∧
          read.value? address = some value := by
  intro always
  obtain ⟨c, reached, checked⟩ := System.reaches_of_check loneInverter.system loneInverter.start
    (inverterSteps ([Choice.go, .connected .ok, .go, .go, .go, .go, .go, .go] ++
        List.replicate 5 (Choice.answer none) ++ List.replicate 28 Choice.go) ++
      List.replicate 3 (ThreadId.alarmMonitor, Choice.go))
    (fun c => (c.history.all fun entry => (deviceRead? entry.2).all fun read =>
        read.answer.isNone) && markerRaised c.history) (by decide +kernel)
  rw [Bool.and_eq_true, List.all_eq_true] at checked
  obtain ⟨unread, raised⟩ := checked
  unfold markerRaised at raised
  split at raised
  · rename_i value answer older delivered
    obtain ⟨u, line, read, address, member, returned⟩ :=
      always c reached [] older .alarmMonitor 0 0 value .trigger delivered
    have silent := unread _ (by rw [delivered]; exact List.mem_cons_of_mem _ member)
    simp only [deviceRead?, Option.all_some, Option.isNone_iff_eq_none] at silent
    simp [DeviceRead.value?, silent] at returned
  · cases raised

def warningRaised : History → Bool
  | (.alarmMonitor, ⟨.alarmEvent 0 0 7 .trigger, _⟩) :: _ => true
  | _ => false

theorem alarmEvent_genuine_warning : ∃ c older, loneInverter.Reachable c ∧
    c.history = (.alarmMonitor, ⟨.alarmEvent 0 0 7 .trigger, ()⟩) :: older ∧
    ∃ rest, genuine 0 0 older = 7 :: rest ∧ 7 ≠ rest.headD 0 := by
  obtain ⟨c, reached, checked⟩ := System.reaches_of_check loneInverter.system loneInverter.start
    (inverterSteps ([Choice.go, .connected .ok, .go, .go, .go, .go, .go, .go] ++
        List.replicate 4 (Choice.answer none) ++ Choice.answer (some [1, 2, 3, 4, 5]) ::
        List.replicate 5 Choice.go ++
        [Choice.answer none, .answer none, .answer (some [7, 0, 0, 0, 0, 0]), .go]) ++
      List.replicate 3 (ThreadId.alarmMonitor, Choice.go))
    (fun c => markersSettled c.history && warningRaised c.history) (by decide +kernel)
  rw [Bool.and_eq_true] at checked
  obtain ⟨settled, raised⟩ := checked
  unfold warningRaised at raised
  split at raised
  · rename_i answer older delivered
    have first : c.history = [] ++ (.alarmMonitor, ⟨.alarmEvent 0 0 7 .trigger, answer⟩) :: older :=
      delivered
    exact ⟨c, older, reached, delivered, (alarmEvent_genuine loneInverter_standard
      loneInverter_alarms reached settled first).1⟩
  · cases raised

end Reachable

end Daemon

end Rs485Gateway
