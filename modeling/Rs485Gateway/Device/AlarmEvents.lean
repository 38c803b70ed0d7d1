import Rs485Gateway.Device.AlarmEngine
import Rs485Gateway.Lists.Bank

namespace Rs485Gateway

open Rs485Gateway.Lists

/-- One turn of the loop of `alarm_engine_run`, with the answer of `read_fn`: the state it
leaves, and what `event_fn` is called with. -/
def engineEntry (row : AlarmEntry) (state : AlarmState) :
    Option Reg → AlarmState × Option (Reg × AlarmEvent)
  | none => (state, none)
  | some value =>
      ((evalEntry row state value).1,
        (evalEntry row state value).2.map fun event => (value, event))

def alarmEngineRun (table : List AlarmEntry) (states : List AlarmState)
    (reads : Nat → Option Reg) : List AlarmState × List (Nat × Reg × AlarmEvent) :=
  bankPass engineEntry reads 0 (table.zip states)

/-- The states and the calls of `event_fn` after some passes over zeroed states. -/
def enginePasses (table : List AlarmEntry) (passes : List (Nat → Option Reg)) :
    List AlarmState × List (Nat × Reg × AlarmEvent) :=
  bankRun engineEntry table (table.map fun _ => alarmStateInit) passes

def passEvents (table : List AlarmEntry) (before : List (Nat → Option Reg))
    (reads : Nat → Option Reg) (i : Nat) : List (Reg × AlarmEvent) :=
  outputsOf i (alarmEngineRun table (enginePasses table before).1 reads).2

def entryEvents (table : List AlarmEntry) (passes : List (Nat → Option Reg)) (i : Nat) :
    List (Reg × AlarmEvent) :=
  outputsOf i (enginePasses table passes).2

def AlarmEntry.holds (row : AlarmEntry) (value : Reg) : Bool :=
  match row.condition with
  | .bitmask => evalBitmask row value
  | .range => evalRange row value
  | .change => false

def ownReads (passes : List (Nat → Option Reg)) (i : Nat) : List (Option Reg) :=
  passes.map fun reads => reads i

def lastRead (reads : List (Option Reg)) : Option Reg := (reads.filterMap id).getLast?

def AlarmEntry.lastTruth (row : AlarmEntry) (reads : List (Option Reg)) : Bool :=
  (lastRead reads).elim false row.holds

/-- Events that take turns, from an entry that is active or not. -/
def alternating : Bool → Nat → List AlarmEvent
  | _, 0 => []
  | active, n + 1 => (if active then .clear else .trigger) :: alternating (!active) n

def AlarmEntry.turns (row : AlarmEntry) (before : Bool) : Option Reg → List (Reg × AlarmEvent)
  | none => []
  | some value =>
      if row.holds value = before then []
      else [(value, if row.holds value then .trigger else .clear)]

section Entry

variable {row : AlarmEntry} {state : AlarmState}

theorem lastRead_cons (read : Option Reg) (later : List (Option Reg)) :
    lastRead (read :: later) = (lastRead later).or read := by
  cases read with
  | none => simp [lastRead]
  | some value =>
      have kept : (some value :: later).filterMap id = value :: later.filterMap id :=
        List.filterMap_cons_some rfl
      rw [lastRead, kept, List.getLast?_cons, lastRead]
      cases (later.filterMap id).getLast? <;> rfl

theorem engineEntry_sticky (sticky : row.condition ≠ .change) (value : Reg) :
    (engineEntry row state (some value)).1.isActive = row.holds value ∧
      (engineEntry row state (some value)).2.toList = row.turns state.isActive (some value) := by
  obtain ⟨active, previous⟩ := state
  cases kind : row.condition with
  | change => exact absurd kind sticky
  | bitmask =>
      simp only [engineEntry, evalEntry, kind, AlarmEntry.turns, AlarmEntry.holds]
      cases evalBitmask row value <;> cases active <;> exact ⟨rfl, rfl⟩
  | range =>
      simp only [engineEntry, evalEntry, kind, AlarmEntry.turns, AlarmEntry.holds]
      cases evalRange row value <;> cases active <;> exact ⟨rfl, rfl⟩

theorem turns_alternating (active : Bool) (value : Reg) (n : Nat) :
    ∃ m, ((row.turns active (some value)).map Prod.snd) ++ alternating (row.holds value) n =
      alternating active m := by
  rw [AlarmEntry.turns]
  cases truth : row.holds value <;> cases active
  · exact ⟨n, rfl⟩
  · exact ⟨n + 1, rfl⟩
  · exact ⟨n + 1, rfl⟩
  · exact ⟨n, rfl⟩

/-- Over its reads, a sticky entry is active as its condition was at the last of them, and
its events take turns. -/
theorem drive_sticky (sticky : row.condition ≠ .change) (reads : List (Option Reg)) :
    (drive (engineEntry row) state reads).1.isActive =
        (lastRead reads).elim state.isActive row.holds ∧
      ∃ n, ((drive (engineEntry row) state reads).2.map Prod.snd) =
        alternating state.isActive n := by
  induction reads generalizing state with
  | nil => exact ⟨rfl, 0, rfl⟩
  | cons read later ih =>
      cases read with
      | none =>
          rw [lastRead_cons, Option.or_none]
          exact ih
      | some value =>
          obtain ⟨active, reported⟩ := @engineEntry_sticky row state sticky value
          obtain ⟨ends, n, events⟩ := @ih (engineEntry row state (some value)).1
          rw [active] at ends events
          rw [lastRead_cons, drive]
          constructor
          · simp only [ends]
            cases lastRead later <;> rfl
          · simp only [List.map_append, events, reported]
            exact turns_alternating state.isActive value n

end Entry

section Table

variable {table : List AlarmEntry} {i : Nat} {row : AlarmEntry}

theorem enginePasses_own (here : table[i]? = some row) (passes : List (Nat → Option Reg)) :
    (enginePasses table passes).1[i]? =
        some (drive (engineEntry row) alarmStateInit (ownReads passes i)).1 ∧
      entryEvents table passes i =
        (drive (engineEntry row) alarmStateInit (ownReads passes i)).2 := by
  have zeroed : (table.map fun _ => alarmStateInit)[i]? = some alarmStateInit := by
    rw [List.getElem?_map, here]
    rfl
  exact bankRun_own here zeroed passes

theorem passEvents_own (here : table[i]? = some row) {before : List (Nat → Option Reg)}
    {state : AlarmState} (at_state : (enginePasses table before).1[i]? = some state)
    (reads : Nat → Option Reg) :
    passEvents table before reads i = (engineEntry row state (reads i)).2.toList := by
  have cell : (table.zip (enginePasses table before).1)[i]? = some (row, state) := by
    rw [List.getElem?_zip_eq_some]
    exact ⟨here, at_state⟩
  have outputs := @bankPass_outputs _ _ _ _ engineEntry reads 0 i
    (table.zip (enginePasses table before).1)
  rw [cell, Nat.zero_add] at outputs
  exact outputs

end Table

/-- A sticky entry reports a pass exactly when its condition differs from what it was at the
entry's last successful read; its events take turns from TRIGGER on, and it is active as the
condition was. An unavailable read changes nothing, and an entry goes by its own reads. -/
theorem alarmEvents_condition (table : List AlarmEntry) (i : Fin table.length)
    (before : List (Nat → Option Reg)) (reads : Nat → Option Reg) :
    let row := table[i]
    let own := ownReads before i
    (row.condition ≠ .change →
        passEvents table before reads i = row.turns (row.lastTruth own) (reads i) ∧
          (∃ n, (entryEvents table before i).map Prod.snd = alternating false n) ∧
          ∃ state, (enginePasses table before).1[i]? = some state ∧
            state.isActive = row.lastTruth own) ∧
      (reads i = none → passEvents table before reads i = [] ∧
        (enginePasses table (before ++ [reads])).1[i]? = (enginePasses table before).1[i]?) ∧
      ∀ (other : List AlarmEntry) (j : Fin other.length) (passes : List (Nat → Option Reg)),
        other[j] = row → ownReads passes j = own →
          entryEvents other passes j = entryEvents table before i ∧
            (enginePasses other passes).1[j]? = (enginePasses table before).1[i]? := by
  intro row own
  have here : table[i.val]? = some row := List.getElem?_eq_getElem i.isLt
  obtain ⟨state, events⟩ := enginePasses_own here before
  have reported := passEvents_own here state reads
  refine ⟨fun sticky => ?_, fun unavailable => ?_, fun other j passes same ownSame => ?_⟩
  · obtain ⟨active, n, turns⟩ := @drive_sticky row alarmStateInit sticky own
    refine ⟨?_, ⟨n, by rw [events, turns]; rfl⟩, _, state, active⟩
    cases read : reads i with
    | none =>
        rw [reported, read]
        rfl
    | some value =>
        rw [reported, read, (engineEntry_sticky sticky value).2, active]
        rfl
  · rw [unavailable] at reported
    obtain ⟨later, -⟩ := enginePasses_own here (before ++ [reads])
    have longer : ownReads (before ++ [reads]) i = own ++ [none] := by
      rw [ownReads, List.map_append, List.map_singleton, unavailable]
      rfl
    rw [longer, drive_append] at later
    exact ⟨reported, later.trans state.symm⟩
  · have there : other[j.val]? = some row := by
      rw [← same]
      exact List.getElem?_eq_getElem j.isLt
    obtain ⟨otherState, otherEvents⟩ := enginePasses_own there passes
    rw [ownSame] at otherState otherEvents
    exact ⟨otherEvents.trans events.symm, otherState.trans state.symm⟩

def bitAndRange : List AlarmEntry := [⟨0x2100, .bitmask, 0, 0x0001⟩, ⟨0x2101, .range, 10, 20⟩]

theorem alarmEvents_condition_bit :
    passEvents bitAndRange [fun _ => some 11, fun i => if i = 0 then none else some 11]
      (fun _ => some 12) 0 = [(12, .clear)] :=
  ((alarmEvents_condition bitAndRange ⟨0, by decide⟩ _ (fun _ => some 12)).1 (by decide)).1.trans
    (by decide)

def firstRead (reads : List (Option Reg)) : Option Reg := (reads.filterMap id).head?

def changeFrom : Option Reg → Option Reg → List (Reg × AlarmEvent)
  | some previous, some value => if value ≠ previous then [(value, .trigger)] else []
  | _, _ => []

def ReportsChanges (table : List AlarmEntry) (passes : List (Nat → Option Reg)) (i : Nat) :
    Prop :=
  ∀ before reads after, passes = before ++ reads :: after →
    passEvents table before reads i = changeFrom (lastRead (ownReads before i)) (reads i) ∧
      ∀ event ∈ passEvents table before reads i, event.2 ≠ .clear

section Reads

variable {earlier later : List (Option Reg)} {value : Reg}

theorem lastRead_none_iff (reads : List (Option Reg)) :
    lastRead reads = none ↔ ∀ read ∈ reads, read = none := by
  rw [lastRead, List.getLast?_eq_none_iff, List.filterMap_eq_nil_iff]
  rfl

theorem firstRead_split {reads : List (Option Reg)} (first : firstRead reads = some value) :
    ∃ earlier later, reads = earlier ++ some value :: later ∧ lastRead earlier = none := by
  rcases List.head?_eq_some_iff.mp first with ⟨values, kept⟩
  rcases List.filterMap_eq_cons_iff.mp kept with ⟨earlier, read, later, split, failed, here, -⟩
  rcases here with rfl
  exact ⟨earlier, later, split, (lastRead_none_iff earlier).mpr failed⟩

theorem firstRead_after (failed : lastRead earlier = none) :
    firstRead (earlier ++ some value :: later) = some value := by
  have nothing : earlier.filterMap id = [] := List.getLast?_eq_none_iff.mp failed
  have kept : (some value :: later).filterMap id = value :: later.filterMap id :=
    List.filterMap_cons_some rfl
  rw [firstRead, List.filterMap_append, nothing, kept]
  rfl

end Reads

section Entry

variable {row : AlarmEntry} {state : AlarmState}

theorem engineEntry_change (change : row.condition = .change) (read : Option Reg) :
    (engineEntry row state read).1.prevValue = read.getD state.prevValue ∧
      (engineEntry row state read).2.toList = changeFrom (some state.prevValue) read := by
  cases read with
  | none => exact ⟨rfl, rfl⟩
  | some value =>
      simp only [engineEntry, evalEntry, change, evalChange, changeFrom]
      by_cases same : value = state.prevValue <;> simp [same]

theorem drive_change (change : row.condition = .change) (reads : List (Option Reg)) :
    (drive (engineEntry row) state reads).1.prevValue =
      (lastRead reads).getD state.prevValue := by
  induction reads generalizing state with
  | nil => rfl
  | cons read later ih =>
      calc
        (drive (engineEntry row) state (read :: later)).1.prevValue =
            (lastRead later).getD (engineEntry row state read).1.prevValue := ih
        _ = (lastRead later).getD (read.getD state.prevValue) := by
          rw [(engineEntry_change change read).1]
        _ = (lastRead (read :: later)).getD state.prevValue := by
          rw [lastRead_cons]
          cases lastRead later <;> rfl

end Entry

theorem passEvents_change {table : List AlarmEntry} {i : Nat} {row : AlarmEntry}
    (here : table[i]? = some row) (change : row.condition = .change)
    (before : List (Nat → Option Reg)) (reads : Nat → Option Reg) :
    passEvents table before reads i =
      changeFrom (some ((lastRead (ownReads before i)).getD 0)) (reads i) := by
  have at_state := (enginePasses_own here before).1
  rw [passEvents_own here at_state reads, (engineEntry_change change (reads i)).2,
    drive_change change]
  rfl

theorem changeFrom_never_clears (previous read : Option Reg) :
    ∀ event ∈ changeFrom previous read, event.2 ≠ .clear := by
  intro event member
  cases previous with
  | none => cases member
  | some last =>
      cases read with
      | none => cases member
      | some value =>
          rw [changeFrom] at member
          split at member
          · rw [List.mem_singleton] at member
            rw [member]
            exact AlarmEvent.noConfusion
          · cases member

/-- A CHANGE entry reports its changes over a run if and only if the first value it reads,
where it reads any, is the zero its state starts with. -/
theorem changeEvents_first (table : List AlarmEntry) (i : Fin table.length)
    (change : table[i].condition = .change) (passes : List (Nat → Option Reg)) :
    ReportsChanges table passes i ↔ ∀ value, firstRead (ownReads passes i) = some value →
      value = 0 := by
  have here : table[i.val]? = some table[i] := List.getElem?_eq_getElem i.isLt
  constructor
  · intro changes value first
    rcases firstRead_split first with ⟨earlier, later, split, failed⟩
    rcases List.map_eq_append_iff.mp split with ⟨before, rest, rfl, rfl, behind⟩
    rcases List.map_eq_cons_iff.mp behind with ⟨reads, after, rfl, read, -⟩
    have reported := (changes before reads after rfl).1
    rw [passEvents_change here change, ownReads, failed, read] at reported
    by_contra differs
    simp [changeFrom, differs] at reported
  · rintro zero before reads after rfl
    have reported := passEvents_change here change before reads
    constructor
    · cases last : lastRead (ownReads before i) with
      | some previous =>
          rw [reported, last]
          rfl
      | none =>
          cases read : reads i with
          | none =>
              rw [reported, read]
              rfl
          | some value =>
              have first : firstRead (ownReads (before ++ reads :: after) i) = some value := by
                rw [ownReads, List.map_append, List.map_cons, read]
                exact firstRead_after last
              rw [reported, last, read, zero value first]
              rfl
    · rw [reported]
      exact changeFrom_never_clears _ _

theorem changeEvents_first_zero :
    ReportsChanges [changeEntry 0x2100] [fun _ => some 0, fun _ => none, fun _ => some 5] 0 :=
  (changeEvents_first [changeEntry 0x2100] ⟨0, by decide⟩ rfl
    [fun _ => some 0, fun _ => none, fun _ => some 5]).mpr fun value first => by
      simpa [firstRead, ownReads, eq_comm] using first

/-- The mode register of a UPS, which is 3 when it is first read. -/
theorem changeEvents_start_triggers :
    ¬ ReportsChanges upsAlarmTable [fun i => if i = 4 then some 3 else some 0] 4 := by
  intro changes
  have first := (changes [] _ [] rfl).1
  revert first
  decide

end Rs485Gateway
