import Mathlib.Tactic

/-! The life of a publisher child (`fork_cmos_publisher`, `inverter_cmos_pub_run`,
`ups_cmos_pub_run`), with SIGTERM delivered at any point. The two bridges run the same
loop over their own units. -/

namespace Rs485Gateway

inductive TermHandler where
  | inherited
  | publisher
  deriving DecidableEq

inductive CycleAction (Device : Type) where
  | poll
  | poolRegisters (device : Device)
  | additionalItems (device : Device)
  | sleep

inductive PubPoint (Device : Type) where
  | forked
  | intHandled
  | initialising
  | initialised
  | testing
  | cycling (todo : List (CycleAction Device))
  | closing
  | exited

/-- What `cmos_pub_init` comes to, one step at a time. -/
inductive InitStep where
  | working
  | ready
  | failed

structure PubChild (Device : Type) where
  point : PubPoint Device
  handler : TermHandler
  gRunning : Bool
  gPubRunning : Bool
  cycles : Nat

variable {Device : Type}

def forkedChild (gRunning : Bool) : PubChild Device where
  point := .forked
  handler := .inherited
  gRunning := gRunning
  gPubRunning := false
  cycles := 0

def publishCycle (devices : List Device) : List (CycleAction Device) :=
  .poll :: devices.flatMap (fun device => [.poolRegisters device, .additionalItems device]) ++
    [.sleep]

namespace PubChild

def atPoint (c : PubChild Device) (point : PubPoint Device) : PubChild Device :=
  { c with point := point }

def handles (c : PubChild Device) (handler : TermHandler) : PubChild Device :=
  { c with handler := handler }

def pubRuns (c : PubChild Device) (running : Bool) : PubChild Device :=
  { c with gPubRunning := running }

def startsCycle (c : PubChild Device) : PubChild Device :=
  { c with cycles := c.cycles + 1 }

/-- One step of the child between two points at which a signal can arrive. -/
def step (devices : List Device) (c : PubChild Device) (init : InitStep) :
    Option (PubChild Device) :=
  match c.point with
  | .forked => some (c.atPoint .intHandled)
  | .intHandled => some ((c.handles .publisher).atPoint .initialising)
  | .initialising =>
      match init with
      | .working => some c
      | .ready => some (c.atPoint .initialised)
      | .failed => some (c.atPoint .exited)
  | .initialised => some ((c.pubRuns true).atPoint .testing)
  | .testing =>
      if c.gPubRunning then some (c.startsCycle.atPoint (.cycling (publishCycle devices)))
      else some (c.atPoint .closing)
  | .cycling [] => some (c.atPoint .testing)
  | .cycling (_ :: rest) => some (c.atPoint (.cycling rest))
  | .closing => some (c.atPoint .exited)
  | .exited => none

/-- SIGTERM runs the handler installed at the time; a process that is gone has none. -/
def sigterm (c : PubChild Device) : PubChild Device :=
  match c.point, c.handler with
  | .exited, _ => c
  | _, .inherited => { c with gRunning := false }
  | _, .publisher => c.pubRuns false

def Steps (devices : List Device) (c c' : PubChild Device) : Prop :=
  ∃ init, c.step devices init = some c'

def Runs (devices : List Device) : PubChild Device → PubChild Device → Prop :=
  Relation.ReflTransGen (Steps devices)

def Started (c : PubChild Device) : Prop :=
  match c.point with
  | .forked | .intHandled | .initialising | .initialised => False
  | .testing | .cycling _ | .closing | .exited => True

structure Stops (devices : List Device) (c : PubChild Device) : Prop where
  cycles : ∀ c', Runs devices c.sigterm c' → c'.cycles = c.cycles
  ends : Acc (fun later earlier => Steps devices earlier later) c.sigterm

structure Quiet (c : PubChild Device) : Prop where
  started : c.Started
  flag : c.point = .exited ∨ c.gPubRunning = false

def remaining (c : PubChild Device) : Nat :=
  match c.point with
  | .testing => 2
  | .cycling todo => todo.length + 3
  | .closing => 1
  | _ => 0

variable {devices : List Device} {c c' : PubChild Device}

/-- A quiet child stays quiet, starts nothing, and has a step less before it. -/
theorem Quiet.step (quiet : c.Quiet) (steps : Steps devices c c') :
    c'.Quiet ∧ c'.cycles = c.cycles ∧ c'.remaining < c.remaining := by
  rcases steps with ⟨init, steps⟩
  rcases c with ⟨point, handler, gRunning, gPubRunning, cycles⟩
  cases point with
  | forked => exact absurd quiet.started id
  | intHandled => exact absurd quiet.started id
  | initialising => exact absurd quiet.started id
  | initialised => exact absurd quiet.started id
  | exited => cases steps
  | testing =>
      have down : gPubRunning = false := quiet.flag.resolve_left (by simp)
      subst down
      cases steps
      exact ⟨⟨trivial, .inr rfl⟩, rfl, Nat.one_lt_two⟩
  | closing =>
      cases steps
      exact ⟨⟨trivial, .inl rfl⟩, rfl, Nat.one_pos⟩
  | cycling todo =>
      have down : gPubRunning = false := quiet.flag.resolve_left (by simp)
      cases todo with
      | nil =>
          cases steps
          exact ⟨⟨trivial, .inr down⟩, rfl, by simp [remaining, atPoint]⟩
      | cons action rest =>
          cases steps
          exact ⟨⟨trivial, .inr down⟩, rfl, by simp [remaining, atPoint]⟩

theorem Quiet.runs (quiet : c.Quiet) (runs : Runs devices c c') :
    c'.Quiet ∧ c'.cycles = c.cycles := by
  induction runs with
  | refl => exact ⟨quiet, rfl⟩
  | tail earlier steps ih =>
      have next := ih.1.step steps
      exact ⟨next.1, next.2.1.trans ih.2⟩

theorem Quiet.ends (n : Nat) :
    ∀ c : PubChild Device, c.Quiet → c.remaining = n →
      Acc (fun later earlier => Steps devices earlier later) c := by
  induction n using Nat.strong_induction_on with
  | _ n ih =>
      intro c quiet measured
      constructor
      intro later steps
      have next := quiet.step steps
      exact ih later.remaining (measured ▸ next.2.2) later next.1 rfl

def Handles (c : PubChild Device) : Prop :=
  c.point = .forked ∨ c.point = .intHandled ∨ c.handler = .publisher

theorem Handles.step (handles : c.Handles) (steps : Steps devices c c') : c'.Handles := by
  rcases steps with ⟨init, steps⟩
  rcases c with ⟨point, handler, gRunning, gPubRunning, cycles⟩
  rcases handles with here | here | installed
  · cases here
    cases steps
    exact .inr (.inl rfl)
  · cases here
    cases steps
    exact .inr (.inr rfl)
  · have kept : c'.handler = .publisher := by
      cases installed
      cases point with
      | forked => cases steps; rfl
      | intHandled => cases steps; rfl
      | initialising => cases init <;> cases steps <;> rfl
      | initialised => cases steps; rfl
      | testing => cases gPubRunning <;> cases steps <;> rfl
      | cycling todo => cases todo <;> cases steps <;> rfl
      | closing => cases steps; rfl
      | exited => cases steps
    exact .inr (.inr kept)

theorem Handles.runs {gRunning : Bool} (runs : Runs devices (forkedChild gRunning) c) :
    c.Handles := by
  induction runs with
  | refl => exact .inl rfl
  | tail earlier steps ih => exact ih.step steps

theorem sigterm_cycles (c : PubChild Device) : c.sigterm.cycles = c.cycles := by
  unfold sigterm
  split <;> rfl

theorem sigterm_point (c : PubChild Device) : c.sigterm.point = c.point := by
  unfold sigterm
  split <;> rfl

theorem started_iff (same : c'.point = c.point) : c'.Started ↔ c.Started := by
  rw [Started, Started, same]

theorem sigterm_quiet (handles : c.Handles) (started : c.Started) : c.sigterm.Quiet := by
  constructor
  case started => exact (started_iff (sigterm_point c)).mpr started
  case flag =>
    rcases handles with here | here | installed
    · rw [Started, here] at started
      exact absurd started id
    · rw [Started, here] at started
      exact absurd started id
    · rcases c with ⟨point, handler, gRunning, gPubRunning, cycles⟩
      cases installed
      cases point with
      | exited => exact .inl rfl
      | _ => exact .inr rfl

theorem initialised_starts (here : c.point = .initialised) :
    ∃ c', Runs devices c c' ∧ c'.cycles = c.cycles + 1 := by
  have raised : c.step devices .ready = some ((c.pubRuns true).atPoint .testing) := by
    simp [step, here]
  have entered : ((c.pubRuns true).atPoint .testing).step devices .ready =
      some (((c.pubRuns true).atPoint .testing).startsCycle.atPoint
        (.cycling (publishCycle devices))) := rfl
  exact ⟨_, .head ⟨.ready, raised⟩ (.single ⟨.ready, entered⟩), rfl⟩

theorem initialising_starts (here : c.point = .initialising) :
    ∃ c', Runs devices c c' ∧ c'.cycles = c.cycles + 1 := by
  have ready : c.step devices .ready = some (c.atPoint .initialised) := by simp [step, here]
  have reaches : (c.atPoint .initialised).point = .initialised := rfl
  rcases initialised_starts reaches with ⟨c', runs, started⟩
  exact ⟨c', .head ⟨.ready, ready⟩ runs, started⟩

theorem intHandled_starts (here : c.point = .intHandled) :
    ∃ c', Runs devices c c' ∧ c'.cycles = c.cycles + 1 := by
  have installed : c.step devices .ready =
      some ((c.handles .publisher).atPoint .initialising) := by simp [step, here]
  have reaches : ((c.handles .publisher).atPoint .initialising).point = .initialising := rfl
  rcases initialising_starts reaches with ⟨c', runs, started⟩
  exact ⟨c', .head ⟨.ready, installed⟩ runs, started⟩

theorem forked_starts (here : c.point = .forked) :
    ∃ c', Runs devices c c' ∧ c'.cycles = c.cycles + 1 := by
  have handled : c.step devices .ready = some (c.atPoint .intHandled) := by simp [step, here]
  have reaches : (c.atPoint .intHandled).point = .intHandled := rfl
  rcases intHandled_starts reaches with ⟨c', runs, started⟩
  exact ⟨c', .head ⟨.ready, handled⟩ runs, started⟩

theorem starts_cycle (before : ¬ c.Started) :
    ∃ c', Runs devices c c' ∧ c'.cycles = c.cycles + 1 := by
  cases here : c.point with
  | forked => exact forked_starts here
  | intHandled => exact intHandled_starts here
  | initialising => exact initialising_starts here
  | initialised => exact initialised_starts here
  | testing => exact absurd (by rw [Started, here]; trivial) before
  | cycling todo => exact absurd (by rw [Started, here]; trivial) before
  | closing => exact absurd (by rw [Started, here]; trivial) before
  | exited => exact absurd (by rw [Started, here]; trivial) before

/-- A signal before the start is lost. -/
theorem Stops.started (stops : Stops devices c) : c.Started := by
  by_contra before
  have stillBefore : ¬ c.sigterm.Started :=
    fun started => before ((started_iff (sigterm_point c)).mp started)
  rcases starts_cycle stillBefore with ⟨c', runs, started⟩
  have same := stops.cycles c' runs
  rw [started, sigterm_cycles] at same
  exact Nat.succ_ne_self _ same

/-- SIGTERM stops the child exactly when it arrives after the child's own assignment of
the flag. -/
theorem sigterm_stops (devices : List Device) (gRunning : Bool) (c : PubChild Device)
    (reached : Runs devices (forkedChild gRunning) c) : Stops devices c ↔ c.Started := by
  constructor
  · intro stops
    exact stops.started
  · intro started
    have quiet := sigterm_quiet (Handles.runs reached) started
    constructor
    case cycles =>
      intro c' runs
      exact (quiet.runs runs).2.trans (sigterm_cycles c)
    case ends => exact Quiet.ends _ _ quiet rfl

def busyChild : PubChild Unit where
  point := .cycling (publishCycle [()])
  handler := .publisher
  gRunning := true
  gPubRunning := true
  cycles := 1

theorem sigterm_stops_busy : Stops [()] busyChild := by
  have reached : Runs [()] (forkedChild true) busyChild :=
    .head ⟨.ready, rfl⟩ (.head ⟨.ready, rfl⟩ (.head ⟨.ready, rfl⟩ (.head ⟨.ready, rfl⟩
      (.single ⟨.ready, rfl⟩))))
  exact (sigterm_stops [()] true busyChild reached).mpr trivial

/-- Right after the fork the parent's handler takes the signal. -/
theorem sigterm_lost : ¬ ∀ c : PubChild Unit, Runs [()] (forkedChild true) c → Stops [()] c := by
  intro always
  exact absurd (always _ .refl).started id

end PubChild

end Rs485Gateway
