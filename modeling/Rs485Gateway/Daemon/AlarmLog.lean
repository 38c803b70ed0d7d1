import Mathlib.Data.List.MinMax
import Mathlib.Data.Prod.Lex
import Rs485Gateway.Lists.Rotation

/-! The table of logged alarm events (`alarm_manager.c`), written round once it is full. -/

namespace Rs485Gateway

open Rs485Gateway.Lists

def logMaxRows : Nat := 10000

/-- A row of `logs`; `entry` is its node, event and detail, which no statement looks at. -/
structure LogRow (τ α : Type) where
  id : Nat
  timestamp : τ
  entry : α

variable {τ α : Type}

def LogRow.event (row : LogRow τ α) : τ × α := (row.timestamp, row.entry)

def Increasing (newId : List Nat → Nat) : Prop := ∀ ids, ∀ id ∈ ids, id < newId ids

def updateRow (table : List (LogRow τ α)) (victim : Nat) (event : τ × α) : List (LogRow τ α) :=
  table.map fun row =>
    if row.id = victim then { row with timestamp := event.1, entry := event.2 } else row

/-- Each event with its number, which tells it from others with the same text. -/
def numbered (events : List (τ × α)) : List (τ × Nat × α) :=
  events.mapIdx fun n event => (event.1, n, event.2)

/-- No event that gives way to another, the first of a round apart, has the time of the
event that started the round after its own. -/
def RoundsApart (cap : Nat) (times : List τ) : Prop :=
  ∀ j, j % cap ≠ 0 → j + cap < times.length → times[j]? ≠ times[cap * (j / cap + 1)]?

section Log

variable [LinearOrder τ]

/-- `SELECT id FROM logs ORDER BY timestamp ASC, id ASC LIMIT 1`. -/
def selectOldest (table : List (LogRow τ α)) : Option Nat :=
  (table.argmin fun row => toLex (row.timestamp, row.id)).map LogRow.id

def writeLog (cap : Nat) (newId : List Nat → Nat) (table : List (LogRow τ α)) (event : τ × α) :
    List (LogRow τ α) :=
  if table.length < cap then table ++ [⟨newId (table.map LogRow.id), event.1, event.2⟩]
  else
    match selectOldest table with
    | none => table
    | some victim => updateRow table victim event

def alarmLog (cap : Nat) (newId : List Nat → Nat) (events : List (τ × α)) :
    List (LogRow τ α) :=
  events.foldl (writeLog cap newId) []

/-- After each write the table holds the most recent events and no others. -/
def KeepsRecent (cap : Nat) (newId : List Nat → Nat) (events : List (τ × α)) : Prop :=
  ∀ k ≤ events.length,
    ((alarmLog cap newId (events.take k)).map LogRow.event).Perm (recent cap (events.take k))

theorem alarmLog_snoc (cap : Nat) (newId : List Nat → Nat) (events : List (τ × α))
    (event : τ × α) :
    alarmLog cap newId (events ++ [event]) =
      writeLog cap newId (alarmLog cap newId events) event := by
  rw [alarmLog, List.foldl_append]
  rfl

theorem keepsRecent_snoc {cap : Nat} {newId : List Nat → Nat} {events : List (τ × α)}
    {event : τ × α} :
    KeepsRecent cap newId (events ++ [event]) ↔ KeepsRecent cap newId events ∧
      ((alarmLog cap newId (events ++ [event])).map LogRow.event).Perm
        (recent cap (events ++ [event])) := by
  have size : (events ++ [event]).length = events.length + 1 := by simp
  constructor
  · intro keeps
    constructor
    · intro k inside
      have before := keeps k (by omega)
      rwa [List.take_append_of_le_length inside] at before
    · have whole := keeps (events.length + 1) size.ge
      rwa [← size, List.take_length] at whole
  · rintro ⟨keeps, whole⟩ k inside
    by_cases all : k = events.length + 1
    · rwa [all, ← size, List.take_length]
    · rw [List.take_append_of_le_length (by omega)]
      exact keeps k (by omega)

end Log

section Rows

variable {table front back newer older : List (LogRow τ α)} {row first oldest : LogRow τ α}

@[simp] theorem updateRow_length (victim : Nat) (event : τ × α) :
    (updateRow table victim event).length = table.length := List.length_map ..

theorem updateRow_other {victim : Nat} (others : ∀ row ∈ table, row.id ≠ victim)
    (event : τ × α) : updateRow table victim event = table := by
  have same : table.map id = table := List.map_id table
  conv_rhs => rw [← same]
  apply List.map_congr_left
  intro row member
  rw [if_neg (others row member)]
  rfl

def LogRow.overwritten (row : LogRow τ α) (event : τ × α) : LogRow τ α :=
  { row with timestamp := event.1, entry := event.2 }

theorem updateRow_split (ids : ((front ++ row :: back).map LogRow.id).Pairwise (· < ·))
    (event : τ × α) :
    updateRow (front ++ row :: back) row.id event = front ++ row.overwritten event :: back := by
  rw [List.map_append, List.map_cons, List.pairwise_append, List.pairwise_cons] at ids
  rcases ids with ⟨-, ⟨behind, -⟩, before⟩
  have frontOthers : ∀ other ∈ front, other.id ≠ row.id := by
    intro other member
    exact (before _ (List.mem_map_of_mem member) _ (List.mem_cons_self ..)).ne
  have backOthers : ∀ other ∈ back, other.id ≠ row.id := by
    intro other member
    exact (behind _ (List.mem_map_of_mem member)).ne'
  calc
    updateRow (front ++ row :: back) row.id event =
        updateRow front row.id event ++ row.overwritten event :: updateRow back row.id event := by
      simp [updateRow, LogRow.overwritten]
    _ = front ++ row.overwritten event :: back := by
      rw [updateRow_other frontOthers, updateRow_other backOthers]

variable [LinearOrder τ]

theorem selectOldest_of_lt (member : row ∈ table)
    (least : ∀ other ∈ table, other ≠ row →
      row.timestamp < other.timestamp ∨ row.timestamp = other.timestamp ∧ row.id < other.id) :
    selectOldest table = some row.id := by
  cases found : table.argmin fun row => toLex (row.timestamp, row.id) with
  | none =>
      rw [List.argmin_eq_none.mp found] at member
      cases member
  | some other =>
      have same : other = row := by
        by_contra apart
        have below := least other (List.argmin_mem found) apart
        exact List.not_lt_of_mem_argmin member found (Prod.Lex.toLex_lt_toLex.mpr below)
      rw [selectOldest, found, same]
      rfl

/-- Where the round has no row of the oldest row's time, the oldest row is selected. -/
theorem selectOldest_oldest
    (ids : ((newer ++ oldest :: older).map LogRow.id).Pairwise (· < ·))
    (times : ((oldest :: older ++ newer).map LogRow.timestamp).Pairwise (· ≤ ·))
    (apart : ∀ first ∈ newer.head?, first.timestamp ≠ oldest.timestamp) :
    selectOldest (newer ++ oldest :: older) = some oldest.id := by
  rw [List.map_append, List.map_cons, List.pairwise_append, List.pairwise_cons] at ids times
  rcases ids with ⟨-, ⟨behind, -⟩, -⟩
  rcases times with ⟨⟨earliest, -⟩, round, before⟩
  apply selectOldest_of_lt (List.mem_append_right _ (List.mem_cons_self ..))
  intro other member differs
  rcases List.mem_append.mp member with current | left
  · cases newer with
    | nil => cases current
    | cons first rest =>
        have later := before _ (List.mem_cons_self ..) _
          (List.mem_map_of_mem (List.mem_cons_self ..))
        have strict := lt_of_le_of_ne later (apart first rfl).symm
        rw [List.map_cons, List.pairwise_cons] at round
        rcases List.mem_cons.mp current with rfl | inRest
        · exact .inl strict
        · exact .inl (strict.trans_le (round.1 _ (List.mem_map_of_mem inRest)))
  · have inOlder := (List.mem_cons.mp left).resolve_left differs
    have later := earliest _ (List.mem_map_of_mem inOlder)
    rcases later.lt_or_eq with less | same
    · exact .inl less
    · exact .inr ⟨same, behind _ (List.mem_map_of_mem inOlder)⟩

theorem selectOldest_first
    (ids : ((first :: newer ++ oldest :: older).map LogRow.id).Pairwise (· < ·))
    (times : ((oldest :: older ++ first :: newer).map LogRow.timestamp).Pairwise (· ≤ ·))
    (same : first.timestamp = oldest.timestamp) :
    selectOldest (first :: newer ++ oldest :: older) = some first.id := by
  rw [List.cons_append, List.map_cons, List.pairwise_cons] at ids
  have earliest : ∀ other ∈ first :: newer ++ oldest :: older,
      first.timestamp ≤ other.timestamp := by
    rw [List.cons_append, List.map_cons, List.pairwise_cons] at times
    intro other member
    rw [same]
    rcases List.mem_append.mp member with current | left
    · exact times.1 _ (List.mem_map_of_mem (List.mem_append_right _ current))
    · rcases List.mem_cons.mp left with rfl | inOlder
      · exact le_rfl
      · exact times.1 _ (List.mem_map_of_mem (List.mem_append_left _ inOlder))
  apply selectOldest_of_lt (List.mem_cons_self ..)
  intro other member differs
  have behind := ids.1 _ (List.mem_map_of_mem ((List.mem_cons.mp member).resolve_left differs))
  rcases (earliest other member).lt_or_eq with less | equal
  · exact .inl less
  · exact .inr ⟨equal, behind⟩

end Rows

/-- The rows of the current round, then those left of the round before, by increasing id. -/
structure LogRing (cap : Nat) (events : List (τ × α)) (table newer older : List (LogRow τ α)) :
    Prop where
  rows : table = newer ++ older
  rotating : Rotating cap events (newer.map LogRow.event) (older.map LogRow.event)
  ids : (table.map LogRow.id).Pairwise (· < ·)

def NextApart (cap : Nat) (times : List τ) : Prop :=
  cap ≤ times.length → times.length % cap ≠ 0 →
    times[times.length - cap]? ≠ times[cap * (times.length / cap)]?

theorem roundsApart_snoc {cap : Nat} (pos : 0 < cap) {times : List τ} {time : τ} :
    RoundsApart cap (times ++ [time]) ↔ RoundsApart cap times ∧ NextApart cap times := by
  have size : (times ++ [time]).length = times.length + 1 := by simp
  have round (j : Nat) : cap * (j / cap + 1) + j % cap = j + cap := by
    have parts := Nat.div_add_mod j cap
    rw [Nat.mul_add, Nat.mul_one]
    omega
  constructor
  · intro apart
    constructor
    · intro j started inside
      have within : cap * (j / cap + 1) < times.length := by
        have start := round j
        omega
      have here := apart j started (by omega)
      rwa [List.getElem?_append_left (by omega), List.getElem?_append_left within] at here
    · intro many started
      have back : times.length - cap + cap = times.length := Nat.sub_add_cancel many
      have turned : (times.length - cap) % cap = times.length % cap := by
        rw [← Nat.add_mod_right (times.length - cap) cap, back]
      have next : (times.length - cap) / cap + 1 = times.length / cap := by
        rw [← Nat.add_div_right (times.length - cap) pos, back]
      have within : cap * (times.length / cap) < times.length := by
        have parts := Nat.div_add_mod times.length cap
        omega
      have here := apart (times.length - cap) (by rwa [turned]) (by omega)
      rwa [next, List.getElem?_append_left (by omega), List.getElem?_append_left within] at here
  · rintro ⟨apart, next⟩ j started inside
    have within : cap * (j / cap + 1) < times.length := by
      have start := round j
      omega
    rw [List.getElem?_append_left (by omega), List.getElem?_append_left within]
    by_cases last : j + cap = times.length
    · have here := next (by omega) (by rwa [← last, Nat.add_mod_right])
      rwa [← last, Nat.add_sub_cancel, Nat.add_div_right j pos] at here
    · exact apart j started (by omega)

section Steps

variable {cap : Nat} {newId : List Nat → Nat} {events : List (τ × α)} {event : τ × α}
  {table newer older : List (LogRow τ α)} {oldest : LogRow τ α}

theorem LogRing.length (ring : LogRing cap events table newer older) :
    table.length = min events.length cap := by
  have size := ring.rotating.perm.length_eq
  rw [recent_length, ← List.map_append, List.length_map, ← ring.rows] at size
  exact size

theorem LogRing.perm (ring : LogRing cap events table newer older) :
    (table.map LogRow.event).Perm (recent cap events) := by
  rw [ring.rows, List.map_append]
  exact ring.rotating.perm

theorem LogRing.times [LinearOrder τ] (ring : LogRing cap events table newer older)
    (ordered : (events.map Prod.fst).Pairwise (· ≤ ·)) :
    ((older ++ newer).map LogRow.timestamp).Pairwise (· ≤ ·) := by
  have kept := congrArg (List.map Prod.fst) ring.rotating.kept
  rw [← List.map_append, List.map_map, recent, List.map_drop] at kept
  change ((older ++ newer).map (Prod.fst ∘ LogRow.event)).Pairwise (· ≤ ·)
  rw [kept]
  exact ordered.sublist (List.drop_sublist _ _)

variable [LinearOrder τ]

theorem LogRing.insert (ring : LogRing cap events table newer older)
    (increasing : Increasing newId) (room : events.length < cap) (event : τ × α) :
    ∃ newer older,
      LogRing cap (events ++ [event]) (writeLog cap newId table event) newer older := by
  have few : table.length < cap := by
    rw [ring.length]
    omega
  rcases ring.rotating.fill room event with ⟨empty, filled⟩
  have unchanged : newer = [] := List.map_eq_nil_iff.mp empty
  rw [writeLog, if_pos few]
  refine ⟨[], older ++ [⟨newId (table.map LogRow.id), event.1, event.2⟩], ?_, ?_, ?_⟩
  · rw [ring.rows, unchanged]
    rfl
  · rw [List.map_append]
    exact filled
  · rw [List.map_append, List.pairwise_append]
    refine ⟨ring.ids, List.pairwise_singleton _ _, fun id member other last => ?_⟩
    rw [List.map_singleton, List.mem_singleton] at last
    rw [last]
    exact increasing _ id member

theorem LogRing.written {front back : List (LogRow τ α)} {row : LogRow τ α}
    (ring : LogRing cap events table newer older) (many : cap ≤ events.length)
    (split : table = front ++ row :: back) (selected : selectOldest table = some row.id)
    (event : τ × α) :
    writeLog cap newId table event = front ++ row.overwritten event :: back := by
  have full : ¬ table.length < cap := by
    rw [ring.length]
    omega
  have ids := ring.ids
  rw [writeLog, if_neg full, selected]
  simp only
  rw [split] at ids ⊢
  exact updateRow_split ids event

theorem LogRing.update (ring : LogRing cap events table newer (oldest :: older)) (pos : 0 < cap)
    (many : cap ≤ events.length) (selected : selectOldest table = some oldest.id)
    (event : τ × α) :
    ∃ newer older,
      LogRing cap (events ++ [event]) (writeLog cap newId table event) newer older := by
  have turned := ring.rotating.turn pos many event
  have ids := ring.ids
  rw [ring.written many ring.rows selected event]
  rw [ring.rows, List.map_append, List.map_cons] at ids
  have sameIds : ((newer ++ oldest.overwritten event :: older).map LogRow.id).Pairwise
      (· < ·) := by
    rw [List.map_append, List.map_cons]
    exact ids
  rcases turned with ⟨-, turned⟩ | ⟨last, turned⟩
  · refine ⟨newer ++ [oldest.overwritten event], older, by simp, ?_, sameIds⟩
    rw [List.map_append]
    exact turned
  · have done : older = [] := List.map_eq_nil_iff.mp last
    refine ⟨[], newer ++ [oldest.overwritten event], by rw [done, List.nil_append], ?_, sameIds⟩
    rw [List.map_append]
    exact turned

/-- Where it selects the first row of the round instead, the oldest event outstays a newer
one. -/
theorem LogRing.outstayed {first : LogRow τ α}
    (ring : LogRing cap events table (first :: newer) (oldest :: older))
    (many : cap ≤ events.length) (selected : selectOldest table = some first.id)
    (distinct : (events ++ [event]).Nodup) :
    ¬ ((writeLog cap newId table event).map LogRow.event).Perm
      (recent cap (events ++ [event])) := by
  have split : table = [] ++ first :: (newer ++ oldest :: older) := ring.rows
  have kept := ring.rotating.kept
  rw [List.map_cons, List.cons_append] at kept
  rw [ring.written many split selected event, recent_snoc kept.symm many]
  intro same
  have stays : oldest.event ∈ (([] ++ first.overwritten event ::
      (newer ++ oldest :: older)).map LogRow.event) := by simp
  have apart : (recent cap events ++ [event]).Nodup :=
    distinct.sublist ((List.drop_sublist _ _).append_right _)
  rw [← kept, List.cons_append, List.nodup_cons] at apart
  exact apart.1 (same.mem_iff.mp stays)

end Steps

section Runs

variable {cap : Nat} {newId : List Nat → Nat} {events : List (τ × α)}
  {table newer older : List (LogRow τ α)}

theorem LogRing.nextApart_iff (ring : LogRing cap events table newer older) (pos : 0 < cap)
    (many : cap ≤ events.length) :
    ∃ oldest rest, older = oldest :: rest ∧
      (NextApart cap (events.map Prod.fst) ↔
        ∀ first ∈ newer.head?, first.timestamp ≠ oldest.timestamp) := by
  rcases ring.rotating.oldest_first pos many with ⟨oldestEvent, others, isOlder, atOldest⟩
  rcases List.map_eq_cons_iff.mp isOlder with ⟨oldest, rest, split, rfl, -⟩
  have round := congrArg List.head? (ring.rotating.round_first pos many)
  have turned := ring.rotating.turning many
  have oldestTime : (events.map Prod.fst)[events.length - cap]? = some oldest.timestamp := by
    rw [List.getElem?_map, atOldest]
    rfl
  have firstTime : (events.map Prod.fst)[cap * (events.length / cap)]? =
      newer.head?.map LogRow.timestamp := by
    rw [List.head?_map, List.head?_drop] at round
    rw [List.getElem?_map, ← round, Option.map_map]
    rfl
  rw [List.length_map] at turned
  refine ⟨oldest, rest, split, ?_⟩
  rw [NextApart, List.length_map, oldestTime, firstTime, ← turned]
  cases newer with
  | nil => simp
  | cons first others => simpa [many] using ne_comm

variable [LinearOrder τ]

theorem LogRing.step (ring : LogRing cap events table newer older) (pos : 0 < cap)
    (increasing : Increasing newId) (event : τ × α)
    (ordered : (events.map Prod.fst).Pairwise (· ≤ ·)) (distinct : (events ++ [event]).Nodup) :
    (NextApart cap (events.map Prod.fst) ∧
        ∃ newer older,
          LogRing cap (events ++ [event]) (writeLog cap newId table event) newer older) ∨
      ¬ NextApart cap (events.map Prod.fst) ∧
        ¬ ((writeLog cap newId table event).map LogRow.event).Perm
          (recent cap (events ++ [event])) := by
  by_cases room : events.length < cap
  · have apart : NextApart cap (events.map Prod.fst) := by
      intro many
      rw [List.length_map] at many
      omega
    exact .inl ⟨apart, ring.insert increasing room event⟩
  · have many : cap ≤ events.length := not_lt.mp room
    rcases ring.nextApart_iff pos many with ⟨oldest, rest, rfl, apart_iff⟩
    have ids := ring.ids
    have times := ring.times ordered
    rw [ring.rows] at ids
    by_cases apart : NextApart cap (events.map Prod.fst)
    · have selected := selectOldest_oldest ids times (apart_iff.mp apart)
      rw [← ring.rows] at selected
      exact .inl ⟨apart, ring.update pos many selected event⟩
    · have meets := fun others => apart (apart_iff.mpr others)
      cases newer with
      | nil => exact absurd (fun first none => nomatch none) meets
      | cons first rest =>
          have same : first.timestamp = oldest.timestamp := by
            by_contra differs
            apply meets
            intro other head
            rcases Option.mem_some.mp head with rfl
            exact differs
          have selected := selectOldest_first ids times same
          rw [← ring.rows] at selected
          exact .inr ⟨apart, ring.outstayed many selected distinct⟩

theorem alarmLog_length_le (cap : Nat) (newId : List Nat → Nat) (events : List (τ × α)) :
    (alarmLog cap newId events).length ≤ cap := by
  induction events using List.reverseRecOn with
  | nil => exact Nat.zero_le _
  | append_singleton events event few =>
      rw [alarmLog_snoc, writeLog]
      split
      · rw [List.length_append]
        simpa using ‹_›
      · split
        · exact few
        · rw [updateRow_length]
          exact few

theorem keepsRecent_and_ring (pos : 0 < cap) (increasing : Increasing newId)
    (ordered : (events.map Prod.fst).Pairwise (· ≤ ·)) (distinct : events.Nodup) :
    (KeepsRecent cap newId events ↔ RoundsApart cap (events.map Prod.fst)) ∧
      (RoundsApart cap (events.map Prod.fst) →
        ∃ newer older, LogRing cap events (alarmLog cap newId events) newer older) := by
  induction events using List.reverseRecOn with
  | nil =>
      have keeps : KeepsRecent cap newId ([] : List (τ × α)) := by
        intro k within
        rw [List.take_nil, recent, List.drop_nil]
        exact List.Perm.nil
      have apart : RoundsApart cap (([] : List (τ × α)).map Prod.fst) := by
        intro j _ inside
        exact absurd inside (Nat.not_lt_zero _)
      exact ⟨iff_of_true keeps apart, fun _ => ⟨[], [], rfl, .start, .nil⟩⟩
  | append_singleton events event ih =>
      have orderedBefore : (events.map Prod.fst).Pairwise (· ≤ ·) :=
        ordered.sublist ((List.sublist_append_left _ _).map _)
      have distinctBefore : events.Nodup := distinct.sublist (List.sublist_append_left _ _)
      rcases ih orderedBefore distinctBefore with ⟨keeps_iff, ring_of⟩
      rw [List.map_append, List.map_singleton, roundsApart_snoc pos, keepsRecent_snoc,
        keeps_iff, alarmLog_snoc]
      by_cases apart : RoundsApart cap (events.map Prod.fst)
      · rcases ring_of apart with ⟨newer, older, ring⟩
        rcases ring.step pos increasing event orderedBefore distinct with
          ⟨next, newer, older, after⟩ | ⟨meets, lost⟩
        · exact ⟨⟨fun _ => ⟨apart, next⟩, fun _ => ⟨apart, after.perm⟩⟩,
            fun _ => ⟨newer, older, after⟩⟩
        · exact ⟨⟨fun kept => absurd kept.2 lost, fun both => absurd both.2 meets⟩,
            fun both => absurd both.2 meets⟩
      · exact ⟨⟨fun kept => absurd kept.1 apart, fun both => absurd both.1 apart⟩,
          fun both => absurd both.1 apart⟩

end Runs

section Numbers

theorem numbered_snoc (events : List (τ × α)) (event : τ × α) :
    numbered (events ++ [event]) =
      numbered events ++ [(event.1, events.length, event.2)] := List.mapIdx_concat

@[simp] theorem numbered_times (events : List (τ × α)) :
    (numbered events).map Prod.fst = events.map Prod.fst := by
  induction events using List.reverseRecOn with
  | nil => rfl
  | append_singleton events event ih => simp [numbered_snoc, ih]

theorem numbered_numbers (events : List (τ × α)) :
    (numbered events).map (fun event => event.2.1) = List.range events.length := by
  induction events using List.reverseRecOn with
  | nil => rfl
  | append_singleton events event ih => simp [numbered_snoc, ih, List.range_succ]

theorem numbered_nodup (events : List (τ × α)) : (numbered events).Nodup := by
  apply List.Nodup.of_map fun event => event.2.1
  rw [numbered_numbers]
  exact List.nodup_range

variable [LinearOrder τ]

def LogRow.unnumbered (row : LogRow τ (Nat × α)) : LogRow τ α :=
  ⟨row.id, row.timestamp, row.entry.2⟩

theorem selectOldest_unnumbered (table : List (LogRow τ (Nat × α))) :
    selectOldest (table.map LogRow.unnumbered) = selectOldest table := by
  have least : (table.map LogRow.unnumbered).argmin (fun row => toLex (row.timestamp, row.id)) =
      (table.argmin fun row => toLex (row.timestamp, row.id)).map LogRow.unnumbered := by
    induction table using List.reverseRecOn with
    | nil => rfl
    | append_singleton table row ih =>
        rw [List.map_append, List.map_singleton, List.argmin_concat, ih, List.argmin_concat]
        cases table.argmin fun row => toLex (row.timestamp, row.id) with
        | none => rfl
        | some best =>
            exact (apply_ite (Option.map LogRow.unnumbered)
              (toLex (row.timestamp, row.id) < toLex (best.timestamp, best.id))
              (some row) (some best)).symm
  rw [selectOldest, least, Option.map_map]
  rfl

/-- The numbers play no part: without them the table is the one the events leave. -/
theorem alarmLog_unnumbered (cap : Nat) (newId : List Nat → Nat) (events : List (τ × α)) :
    (alarmLog cap newId (numbered events)).map LogRow.unnumbered = alarmLog cap newId events := by
  induction events using List.reverseRecOn with
  | nil => rfl
  | append_singleton events event ih =>
      rw [numbered_snoc, alarmLog_snoc, alarmLog_snoc, ← ih, writeLog, writeLog,
        selectOldest_unnumbered, List.length_map]
      split
      · simp [LogRow.unnumbered, Function.comp_def]
      · cases selectOldest (alarmLog cap newId (numbered events)) with
        | none => rfl
        | some victim =>
            simp only [updateRow, List.map_map]
            apply List.map_congr_left
            intro row _
            exact apply_ite LogRow.unnumbered _ _ _

end Numbers

section Rotation

variable [LinearOrder τ]

/-- The table never grows past its capacity, and it keeps the most recent events if and only
if no two rounds meet within one second: a row that starts a round reuses the id of an older
one, so of two rows of one second the newer is taken for the older. -/
theorem alarmLog_rotates (cap : Nat) (pos : 0 < cap) (newId : List Nat → Nat)
    (increasing : Increasing newId) (events : List (τ × α))
    (ordered : (events.map Prod.fst).Pairwise (· ≤ ·)) :
    (∀ k, (alarmLog cap newId (events.take k)).length ≤ cap) ∧
      (KeepsRecent cap newId (numbered events) ↔ RoundsApart cap (events.map Prod.fst)) := by
  constructor
  · intro k
    exact alarmLog_length_le cap newId (events.take k)
  · have sameTimes := numbered_times events
    rw [← sameTimes] at ordered ⊢
    exact (keepsRecent_and_ring pos increasing ordered (numbered_nodup events)).1

end Rotation

def nextRowId (ids : List Nat) : Nat := ids.foldr max 0 + 1

theorem nextRowId_increasing : Increasing nextRowId := by
  intro ids id member
  induction ids with
  | nil => cases member
  | cons first rest ih =>
      simp only [nextRowId, List.foldr_cons] at ih ⊢
      rcases List.mem_cons.mp member with rfl | inRest
      · omega
      · have below := ih inRest
        omega

theorem alarmLog_rotates_small :
    (∀ k, (alarmLog 2 nextRowId ([(0, 'a'), (1, 'b'), (1, 'c')].take k)).length ≤ 2) ∧
      (KeepsRecent 2 nextRowId (numbered [(0, 'a'), (1, 'b'), (1, 'c')]) ↔
        RoundsApart 2 [0, 1, 1]) :=
  alarmLog_rotates 2 (by decide) nextRowId nextRowId_increasing [(0, 'a'), (1, 'b'), (1, 'c')]
    (by decide)

/-- The time of the events of a day, one a second, but for the two around the first turn. -/
def turnTime (n : Nat) : Nat := if n < logMaxRows then n else n - 1

theorem turnTime_mono {m n : Nat} (le : m ≤ n) : turnTime m ≤ turnTime n := by
  simp only [turnTime]
  split <;> split <;> omega

theorem alarmLog_turn_loses :
    ((List.range (2 * logMaxRows)).map turnTime).Pairwise (· ≤ ·) ∧ Increasing nextRowId ∧
      ¬ KeepsRecent logMaxRows nextRowId
        (numbered ((List.range (2 * logMaxRows)).map fun n => (turnTime n, "trigger"))) := by
  have ordered : ((List.range (2 * logMaxRows)).map turnTime).Pairwise (· ≤ ·) := by
    rw [List.pairwise_map]
    exact List.pairwise_le_range.imp fun le => turnTime_mono le
  have times : (numbered ((List.range (2 * logMaxRows)).map fun n =>
      (turnTime n, "trigger"))).map Prod.fst = (List.range (2 * logMaxRows)).map turnTime := by
    rw [numbered_times, List.map_map]
    rfl
  refine ⟨ordered, nextRowId_increasing, fun keeps => ?_⟩
  rw [← times] at ordered
  have apart := (keepsRecent_and_ring (by decide) nextRowId_increasing ordered
    (numbered_nodup _)).1.mp keeps
  rw [times] at apart
  -- Event 9999 would give way when event 10000, of the same second, already has row 1.
  apply apart (logMaxRows - 1)
  · decide
  · simp [logMaxRows]
  · simp [logMaxRows, turnTime]

end Rs485Gateway
