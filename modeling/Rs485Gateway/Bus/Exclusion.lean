import Rs485Gateway.Bus.Calls

/-! Runs of the bus table: any number of threads calling `bus_coord_acquire` and
`bus_coord_release` in any order, matched or not. The log keeps the completed
acquires and the effective releases, newest first. -/

namespace Rs485Gateway

open Interaction

inductive BusEvent (Thread : Type) where
  | acquired (t : Thread) (path : CStr)
  | released (t : Thread) (path : CStr)
  deriving DecidableEq

inductive BusCall (Thread : Type) where
  | acquire (t : Thread) (path : CStr)
  | wake (t : Thread)
  | release (t : Thread) (path : CStr)

structure BusRun (Thread : Type) where
  bus : BusCoord Thread
  log : List (BusEvent Thread)

variable {Thread : Type}

def busRunInit : BusRun Thread where
  bus := busCoordInit
  log := []

def BusCall.Within (paths : Finset CStr) : BusCall Thread → Prop
  | acquire _ path => path ∈ paths
  | wake _ => True
  | release _ path => path ∈ paths

namespace BusRun

variable [DecidableEq Thread]

/-- A completed acquire is logged, a parked one is not. -/
def afterAcquire (s : BusRun Thread) (t : Thread) (path : CStr) :
    BusCoord Thread × Acquired → BusRun Thread
  | (bus, .owned) => { bus := bus, log := .acquired t path :: s.log }
  | (bus, _) => { s with bus := bus }

def afterRelease (s : BusRun Thread) (t : Thread) (path : CStr) :
    BusCoord Thread × Released → BusRun Thread
  | (bus, .done) => { bus := bus, log := .released t path :: s.log }
  | (bus, _) => { s with bus := bus }

def step (s : BusRun Thread) : BusCall Thread → Option (BusRun Thread)
  | .acquire t path =>
      match s.bus.waiting t with
      | some _ => none
      | none => some (s.afterAcquire t path (s.bus.acquire t (some path)))
  | .wake t =>
      match s.bus.waiting t with
      | some i => some (s.afterAcquire t (s.bus.buses i).path (s.bus.takeOrWait t i))
      | none => none
  | .release t path =>
      match s.bus.waiting t with
      | some _ => none
      | none => some (s.afterRelease t path (s.bus.release t (some path)))

def acquires (s : BusRun Thread) (t : Thread) (path : CStr) : Nat :=
  s.log.count (.acquired t path)

def releases (s : BusRun Thread) (t : Thread) (path : CStr) : Nat :=
  s.log.count (.released t path)

def Holds (s : BusRun Thread) (t : Thread) (path : CStr) : Prop :=
  s.releases t path < s.acquires t path

/-- The runs of calls on known paths whose states all satisfy `keep`. -/
inductive Reach (paths : Finset CStr) (keep : BusRun Thread → Prop) : BusRun Thread → Prop
  | init : Reach paths keep busRunInit
  | step {s s' : BusRun Thread} {call : BusCall Thread} (before : Reach paths keep s)
      (known : call.Within paths) (moved : s.step call = some s') (kept : keep s') :
      Reach paths keep s'

/-- The nesting a depth counter of 32 bits can tell apart. -/
def Countable (s : BusRun Thread) : Prop :=
  ∀ t path, s.acquires t path < s.releases t path + 2 ^ 32

structure Inv (paths : Finset CStr) (s : BusRun Thread) : Prop where
  wellFormed : s.bus.WellFormed paths
  count : ∀ t path, s.acquires t path = s.releases t path + s.bus.heldDepth t path

structure Guarantee (paths : Finset CStr) (s : BusRun Thread) : Prop where
  oneSlot : ∀ i j, (s.bus.buses i).allocated = true → (s.bus.buses j).allocated = true →
    (s.bus.buses i).path = (s.bus.buses j).path → i = j
  depth : ∀ i t, (s.bus.buses i).allocated = true → (s.bus.buses i).owner = some t →
    (s.bus.buses i).depth.toNat + s.releases t (s.bus.buses i).path =
      s.acquires t (s.bus.buses i).path
  exclusive : ∀ t u path, s.Holds t path → s.Holds u path → t = u
  completes : ∀ call s' t path, call.Within paths → s.step call = some s' →
    s'.log = .acquired t path :: s.log → ∀ u, u ≠ t → ¬ s.Holds u path
  ignores : ∀ t path s', ¬ s.Holds t path → s.step (.release t path) = some s' → s' = s

variable {paths : Finset CStr} {s s' : BusRun Thread} {call : BusCall Thread} {t u : Thread}
  {path q : CStr}

/-- Everything one call can do to the table and the log. -/
inductive Move (paths : Finset CStr) (s s' : BusRun Thread) : Prop
  | granted (t : Thread) (path : CStr) (grants : BusCoord.Grants paths s.bus s'.bus t path)
      (logged : s'.log = .acquired t path :: s.log)
  | parked (t : Thread) (path : CStr) (parks : BusCoord.Parks paths s.bus s'.bus t path)
      (logged : s'.log = s.log)
  | dropped (t : Thread) (path : CStr) (held : 0 < s.bus.heldDepth t path)
      (drops : BusCoord.Drops paths s.bus s'.bus t path)
      (logged : s'.log = .released t path :: s.log)
  | ignored (same : s' = s)

theorem afterRelease_ignored (notHeld : s.bus.heldDepth t path = 0) :
    s.afterRelease t path (s.bus.release t (some path)) = s := by
  have ignored := BusCoord.release_ignored notHeld
  rcases result : s.bus.release t (some path) with ⟨bus, outcome⟩
  rw [result] at ignored
  obtain ⟨rfl, notDone⟩ := ignored
  cases outcome with
  | done => exact absurd rfl notDone
  | skipped => rfl
  | unmatched => rfl
  | notOwner => rfl

theorem afterAcquire_move {result : BusCoord Thread × Acquired}
    (outcome : (∃ b', result = (b', .owned) ∧ BusCoord.Grants paths s.bus b' t path) ∨
      ∃ b', result = (b', .blocked) ∧ BusCoord.Parks paths s.bus b' t path) :
    Move paths s (s.afterAcquire t path result) := by
  rcases outcome with ⟨b', rfl, grants⟩ | ⟨b', rfl, parks⟩
  · exact .granted t path grants rfl
  · exact .parked t path parks rfl

theorem step_acquire (moved : s.step (.acquire t path) = some s') :
    s' = s.afterAcquire t path (s.bus.acquire t (some path)) := by
  cases waiting : s.bus.waiting t with
  | some i => simp [step, waiting] at moved
  | none => simpa [step, waiting] using moved.symm

theorem step_wake (moved : s.step (.wake t) = some s') : ∃ i, s.bus.waiting t = some i ∧
    s' = s.afterAcquire t (s.bus.buses i).path (s.bus.takeOrWait t i) := by
  cases waiting : s.bus.waiting t with
  | none => simp [step, waiting] at moved
  | some i => exact ⟨i, rfl, by simpa [step, waiting] using moved.symm⟩

theorem step_release (moved : s.step (.release t path) = some s') :
    s' = s.afterRelease t path (s.bus.release t (some path)) := by
  cases waiting : s.bus.waiting t with
  | some i => simp [step, waiting] at moved
  | none => simpa [step, waiting] using moved.symm

theorem step_move (fits : BusPaths paths) (wf : s.bus.WellFormed paths)
    (known : call.Within paths) (moved : s.step call = some s') : Move paths s s' := by
  cases call with
  | acquire t path =>
      rw [step_acquire moved]
      exact afterAcquire_move (BusCoord.acquire_cases wf fits known)
  | wake t =>
      obtain ⟨i, waiting, rfl⟩ := step_wake moved
      exact afterAcquire_move (BusCoord.takeOrWait_cases wf (wf.waits t i waiting))
  | release t path =>
      rw [step_release moved]
      rcases Nat.eq_zero_or_pos (s.bus.heldDepth t path) with notHeld | held
      · exact .ignored (afterRelease_ignored notHeld)
      · obtain ⟨b', result, drops⟩ := BusCoord.release_drops wf (fits.nonempty path known) held
        rw [result]
        exact .dropped t path held drops rfl

theorem init_inv : Inv paths (busRunInit : BusRun Thread) where
  wellFormed := BusCoord.init_wellFormed
  count := by simp [busRunInit, acquires, releases]

/-- One call keeps the counts, as long as the depth counter cannot wrap. -/
theorem Move.inv (move : Move paths s s') (inv : Inv paths s) (countable : s'.Countable) :
    Inv paths s' := by
  cases move with
  | granted t path grants logged =>
      refine ⟨grants.wellFormed, ?_⟩
      intro u q
      have before := inv.count u q
      have room := countable u q
      by_cases here : u = t ∧ q = path
      · obtain ⟨rfl, rfl⟩ := here
        have deeper := grants.deeper
        simp only [acquires, releases, logged, List.count_cons_self,
          List.count_cons_of_ne (by simp : BusEvent.acquired u q ≠ .released u q)] at *
        omega
      · have apart : u ≠ t ∨ q ≠ path := by tauto
        rw [grants.frame u q apart]
        have skipped : BusEvent.acquired t path ≠ .acquired u q := by
          rintro ⟨⟩
          exact here ⟨rfl, rfl⟩
        simpa [acquires, releases, logged, List.count_cons_of_ne skipped] using before
  | parked t path parks logged =>
      refine ⟨parks.wellFormed, ?_⟩
      intro u q
      rw [parks.frame u q]
      simpa [acquires, releases, logged] using inv.count u q
  | dropped t path held drops logged =>
      refine ⟨drops.wellFormed, ?_⟩
      intro u q
      have before := inv.count u q
      by_cases here : u = t ∧ q = path
      · obtain ⟨rfl, rfl⟩ := here
        have shallower := drops.shallower
        simp only [acquires, releases, logged, List.count_cons_self,
          List.count_cons_of_ne (by simp : BusEvent.released u q ≠ .acquired u q)] at *
        omega
      · have apart : u ≠ t ∨ q ≠ path := by tauto
        rw [drops.frame u q apart]
        have skipped : BusEvent.released t path ≠ .released u q := by
          rintro ⟨⟩
          exact here ⟨rfl, rfl⟩
        simpa [acquires, releases, logged, List.count_cons_of_ne skipped] using before
  | ignored same => exact same ▸ inv

theorem Reach.inv (fits : BusPaths paths) (reached : Reach paths Countable s) : Inv paths s := by
  induction reached with
  | init => exact init_inv
  | step before known moved kept ih => exact (step_move fits ih.wellFormed known moved).inv ih kept

theorem Inv.holds_iff (inv : Inv paths s) : s.Holds t path ↔ 0 < s.bus.heldDepth t path := by
  have count := inv.count t path
  unfold Holds
  omega

theorem Inv.depth (inv : Inv paths s) {i : Fin busCoordMaxBuses}
    (allocated : (s.bus.buses i).allocated = true) (owner : (s.bus.buses i).owner = some t) :
    (s.bus.buses i).depth.toNat + s.releases t (s.bus.buses i).path =
      s.acquires t (s.bus.buses i).path := by
  have count := inv.count t (s.bus.buses i).path
  rw [BusCoord.heldDepth_slot inv.wellFormed allocated rfl, if_pos owner] at count
  omega

theorem Inv.exclusive (inv : Inv paths s) (first : s.Holds t path) (second : s.Holds u path) :
    t = u :=
  BusCoord.held_unique (inv.holds_iff.mp first) (inv.holds_iff.mp second)

theorem Inv.completes (inv : Inv paths s) (fits : BusPaths paths) (known : call.Within paths)
    (moved : s.step call = some s') (completed : s'.log = .acquired t path :: s.log)
    (other : u ≠ t) : ¬ s.Holds u path := by
  have nonempty : s'.log ≠ s.log := by simp [completed]
  rw [inv.holds_iff]
  cases step_move fits inv.wellFormed known moved with
  | granted v q grants logged =>
      rw [completed] at logged
      cases logged
      have free := grants.free u other
      omega
  | parked v q parks logged => exact absurd logged nonempty
  | dropped v q held drops logged => simp [completed] at logged
  | ignored same => exact absurd (same ▸ rfl) nonempty

theorem Inv.ignores (inv : Inv paths s) (notHeld : ¬ s.Holds t path)
    (moved : s.step (.release t path) = some s') : s' = s := by
  have zero : s.bus.heldDepth t path = 0 := by
    rw [inv.holds_iff] at notHeld
    omega
  rw [step_release moved, afterRelease_ignored zero]

structure Nested (paths : Finset CStr) (t : Thread) (path : CStr) (n : Nat) (s : BusRun Thread) :
    Prop where
  wellFormed : s.bus.WellFormed paths
  awake : ∀ u, s.bus.waiting u = none
  depth : s.bus.heldDepth t path = n % 2 ^ 32
  alone : ∀ u, u ≠ t → s.bus.heldDepth u path = 0
  log : s.log = List.replicate n (.acquired t path)

theorem Nested.acquire {n : Nat} (nested : Nested paths t path n s) (fits : BusPaths paths)
    (member : path ∈ paths) :
    ∃ s', s.step (.acquire t path) = some s' ∧ Nested paths t path (n + 1) s' := by
  obtain ⟨b', result, grants⟩ :=
    BusCoord.acquire_free nested.wellFormed fits member nested.alone
  have moved : s.step (.acquire t path) =
      some { bus := b', log := .acquired t path :: s.log } := by
    simp [step, nested.awake t, result, afterAcquire]
  refine ⟨_, moved, ?_⟩
  constructor
  case wellFormed => exact grants.wellFormed
  case awake =>
    intro u
    rcases eq_or_ne u t with rfl | other
    · simp [grants.waiting]
    · simp [grants.waiting, other, nested.awake u]
  case depth => rw [grants.deeper, nested.depth, Nat.mod_add_mod]
  case alone =>
    intro u other
    rw [grants.frame u path (.inl other), nested.alone u other]
  case log => rw [nested.log, List.replicate_succ]

theorem reach_nested {keep : BusRun Thread → Prop} (fits : BusPaths paths) (member : path ∈ paths)
    (n : Nat) (kept : ∀ m ≤ n, ∀ s, Nested paths t path m s → keep s) :
    ∃ s, Reach paths keep s ∧ Nested paths t path n s := by
  induction n with
  | zero =>
      refine ⟨busRunInit, .init, BusCoord.init_wellFormed, fun u => rfl, ?_, ?_, rfl⟩
      · exact BusCoord.heldDepth_init
      · exact fun u other => BusCoord.heldDepth_init
  | succ n ih =>
      obtain ⟨s, reached, nested⟩ := ih fun m bound => kept m (by omega)
      obtain ⟨s', moved, nested'⟩ := nested.acquire fits member
      have within : BusCall.Within paths (.acquire t path) := member
      exact ⟨s', Reach.step reached within moved (kept _ le_rfl s' nested'), nested'⟩

theorem Nested.holds {n : Nat} (nested : Nested paths t path n s) (positive : 0 < n) :
    s.Holds t path := by
  simp [Holds, acquires, releases, nested.log, List.count_replicate, positive]

theorem Nested.countable {n : Nat} (nested : Nested paths t path n s) (bound : n < 2 ^ 32) :
    s.Countable := by
  intro u q
  have few : s.acquires u q ≤ n := by
    rw [acquires, nested.log, List.count_replicate]
    split <;> omega
  omega

theorem busPaths_singleton {path : CStr} (nonempty : path ≠ [])
    (short : path.length < busCoordPathMax) : BusPaths {path} where
  few := by simp [busCoordMaxBuses]
  nonempty := by simpa using nonempty
  short := by simpa using short

theorem busCoord_excludes (fits : BusPaths paths) (reached : Reach paths Countable s) :
    Guarantee paths s := by
  have inv := reached.inv fits
  constructor
  case oneSlot => exact inv.wellFormed.unique
  case depth => exact fun i t allocated owner => inv.depth allocated owner
  case exclusive => exact fun t u path first second => inv.exclusive first second
  case completes =>
    intro call s' t path known moved completed u other
    exact inv.completes fits known moved completed other
  case ignores => exact fun t path s' notHeld moved => inv.ignores notHeld moved

theorem busCoord_excludes_nested : ∃ s : BusRun Bool, s.Holds false ttyS1 ∧
    Guarantee {ttyS1} s := by
  have fits : BusPaths {ttyS1} := busPaths_singleton (by decide) (by decide)
  obtain ⟨s, reached, nested⟩ :=
    reach_nested (t := false) fits (Finset.mem_singleton_self ttyS1) 2
      fun m bound s nested => nested.countable (by omega)
  exact ⟨s, nested.holds (by decide), busCoord_excludes fits reached⟩

/-- After 2 ^ 32 nested acquires the counter reads zero and a second thread is
let in. -/
theorem busCoord_depth_wraps :
    ¬ ∀ s : BusRun Bool, Reach {ttyS1} (fun _ => True) s → Guarantee {ttyS1} s := by
  intro always
  have fits : BusPaths {ttyS1} := busPaths_singleton (by decide) (by decide)
  have member : ttyS1 ∈ ({ttyS1} : Finset CStr) := Finset.mem_singleton_self _
  obtain ⟨s, reached, nested⟩ : ∃ s, Reach {ttyS1} (fun _ => True) s ∧
      Nested {ttyS1} false ttyS1 (2 ^ 32) s :=
    reach_nested fits member (2 ^ 32) fun _ _ _ _ => trivial
  have free : ∀ u, u ≠ true → s.bus.heldDepth u ttyS1 = 0 := by
    intro u other
    cases u with
    | false => rw [nested.depth, Nat.mod_self]
    | true => exact absurd rfl other
  obtain ⟨b', result, grants⟩ := BusCoord.acquire_free nested.wellFormed fits member free
  have moved : s.step (.acquire true ttyS1) =
      some { bus := b', log := .acquired true ttyS1 :: s.log } := by
    simp [step, nested.awake true, result, afterAcquire]
  have blocked := (always s reached).completes (.acquire true ttyS1) _ true ttyS1 member moved rfl
  exact blocked false (by decide) (nested.holds (by decide))

end BusRun

end Rs485Gateway
