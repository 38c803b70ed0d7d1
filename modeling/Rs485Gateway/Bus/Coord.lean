import Rs485Gateway.Interaction.Interleaving

/-! The RS-485 bus mutex keyed by serial path (`bus_coord.c`).

`g_lock` makes each stretch between two waits atomic, so a call is one step that
either completes or parks the thread on the slot it found. A parked thread may
be woken at any time: by the broadcast of the last release or spuriously. -/

namespace Rs485Gateway

open Interaction

abbrev CStr := List UInt8

def ttyS1 : CStr := [0x2F, 0x64, 0x65, 0x76, 0x2F, 0x74, 0x74, 0x79, 0x53, 0x31]

def busCoordMaxBuses : Nat := 8

def busCoordPathMax : Nat := 256

structure BusSlot (Thread : Type) where
  path : CStr
  allocated : Bool
  depth : UInt32
  owner : Option Thread
  deriving DecidableEq

structure BusCoord (Thread : Type) where
  buses : Fin busCoordMaxBuses → BusSlot Thread
  waiting : Thread → Option (Fin busCoordMaxBuses)

inductive Acquired where
  | skipped
  | uncoordinated
  | blocked
  | owned
  deriving DecidableEq

inductive Released where
  | skipped
  | unmatched
  | notOwner
  | done
  deriving DecidableEq

variable {Thread : Type}

def busCoordInit : BusCoord Thread where
  buses := fun _ => { path := [], allocated := false, depth := 0, owner := none }
  waiting := fun _ => none

def pathIsEmpty (serialPath : Option CStr) : Bool :=
  serialPath = none || serialPath = some []

namespace BusCoord

def setSlot (b : BusCoord Thread) (i : Fin busCoordMaxBuses) (slot : BusSlot Thread) :
    BusCoord Thread :=
  { b with buses := assign b.buses i slot }

def findSlotLocked (b : BusCoord Thread) (serialPath : CStr) : Option (Fin busCoordMaxBuses) :=
  (List.finRange busCoordMaxBuses).find? fun i =>
    (b.buses i).allocated && decide ((b.buses i).path = serialPath)

def allocSlotLocked (b : BusCoord Thread) (serialPath : CStr) :
    Option (Fin busCoordMaxBuses × BusCoord Thread) :=
  ((List.finRange busCoordMaxBuses).find? fun i => !(b.buses i).allocated).map fun i =>
    (i, b.setSlot i { b.buses i with
      path := serialPath.take (busCoordPathMax - 1), allocated := true, depth := 0 })

section Calls

variable [DecidableEq Thread]

/-- The loop around `pthread_cond_wait`, from one look at the slot to the next. -/
def takeOrWait (b : BusCoord Thread) (self : Thread) (i : Fin busCoordMaxBuses) :
    BusCoord Thread × Acquired :=
  let slot := b.buses i
  if slot.depth > 0 ∧ slot.owner ≠ some self then
    ({ b with waiting := assign b.waiting self (some i) }, .blocked)
  else
    ({ b.setSlot i { slot with
        owner := if slot.depth = 0 then some self else slot.owner, depth := slot.depth + 1 } with
       waiting := assign b.waiting self none }, .owned)

def acquire (b : BusCoord Thread) (self : Thread) (serialPath : Option CStr) :
    BusCoord Thread × Acquired :=
  match serialPath with
  | none => (b, .skipped)
  | some path =>
      if pathIsEmpty (some path) then (b, .skipped) else
      match b.findSlotLocked path with
      | some i => b.takeOrWait self i
      | none =>
          match b.allocSlotLocked path with
          | none => (b, .uncoordinated)
          | some (i, allocated) => allocated.takeOrWait self i

def release (b : BusCoord Thread) (self : Thread) (serialPath : Option CStr) :
    BusCoord Thread × Released :=
  match serialPath with
  | none => (b, .skipped)
  | some path =>
      if pathIsEmpty (some path) then (b, .skipped) else
      match b.findSlotLocked path with
      | none => (b, .unmatched)
      | some i =>
          let slot := b.buses i
          if slot.depth = 0 then (b, .unmatched)
          else if slot.owner ≠ some self then (b, .notOwner)
          else (b.setSlot i { slot with depth := slot.depth - 1 }, .done)

/-- How deep a thread holds a path, read off the slot table. -/
def heldDepth (b : BusCoord Thread) (t : Thread) (path : CStr) : Nat :=
  match b.findSlotLocked path with
  | none => 0
  | some i => if (b.buses i).owner = some t then (b.buses i).depth.toNat else 0

end Calls

structure WellFormed (paths : Finset CStr) (b : BusCoord Thread) : Prop where
  unique : ∀ i j, (b.buses i).allocated = true → (b.buses j).allocated = true →
    (b.buses i).path = (b.buses j).path → i = j
  known : ∀ i, (b.buses i).allocated = true → (b.buses i).path ∈ paths
  waits : ∀ t i, b.waiting t = some i → (b.buses i).allocated = true
  owned : ∀ i, (b.buses i).owner = none → (b.buses i).depth = 0

end BusCoord

structure BusPaths (paths : Finset CStr) : Prop where
  few : paths.card ≤ busCoordMaxBuses
  nonempty : ∀ path ∈ paths, path ≠ []
  short : ∀ path ∈ paths, path.length < busCoordPathMax

namespace BusCoord

variable {paths : Finset CStr} {b : BusCoord Thread} {path : CStr} {i : Fin busCoordMaxBuses}

theorem findSlot_some (found : b.findSlotLocked path = some i) :
    (b.buses i).allocated = true ∧ (b.buses i).path = path := by
  have present := List.find?_some found
  simpa using present

theorem findSlot_none (absent : b.findSlotLocked path = none) (i : Fin busCoordMaxBuses)
    (allocated : (b.buses i).allocated = true) : (b.buses i).path ≠ path := by
  have rejected := List.find?_eq_none.mp absent i (List.mem_finRange i)
  simpa [allocated] using rejected

theorem findSlot_eq (wf : b.WellFormed paths) (allocated : (b.buses i).allocated = true)
    (same : (b.buses i).path = path) : b.findSlotLocked path = some i := by
  cases found : b.findSlotLocked path with
  | none => exact absurd same (findSlot_none found i allocated)
  | some j =>
      have present := findSlot_some found
      rw [wf.unique j i present.1 allocated (present.2.trans same.symm)]

/-- With at most eight paths the table cannot be full of other paths. -/
theorem exists_free (wf : b.WellFormed paths) (fits : BusPaths paths) (member : path ∈ paths)
    (absent : b.findSlotLocked path = none) : ∃ i, (b.buses i).allocated = false := by
  by_contra full
  have allAllocated : ∀ i, (b.buses i).allocated = true := by
    intro i
    by_contra free
    exact full ⟨i, by simpa using free⟩
  have inside : ∀ i ∈ (Finset.univ : Finset (Fin busCoordMaxBuses)),
      (b.buses i).path ∈ paths.erase path := by
    intro i _
    have taken := allAllocated i
    exact Finset.mem_erase.mpr ⟨findSlot_none absent i taken, wf.known i taken⟩
  have injective : Set.InjOn (fun i => (b.buses i).path)
      (Finset.univ : Finset (Fin busCoordMaxBuses)) := by
    intro i _ j _ same
    exact wf.unique i j (allAllocated i) (allAllocated j) same
  have bound := Finset.card_le_card_of_injOn _ inside injective
  rw [Finset.card_univ, Fintype.card_fin, Finset.card_erase_of_mem member] at bound
  have few := fits.few
  have positive : 0 < busCoordMaxBuses := by decide
  omega

@[simp] theorem setSlot_self (slot : BusSlot Thread) : (b.setSlot i slot).buses i = slot := by
  simp [setSlot]

@[simp] theorem setSlot_other {j : Fin busCoordMaxBuses} (slot : BusSlot Thread) (other : j ≠ i) :
    (b.setSlot i slot).buses j = b.buses j := by
  simp [setSlot, other]

@[simp] theorem setSlot_waiting (slot : BusSlot Thread) :
    (b.setSlot i slot).waiting = b.waiting := rfl

theorem allocSlot_spec {allocated : BusCoord Thread}
    (made : b.allocSlotLocked path = some (i, allocated)) :
    (b.buses i).allocated = false ∧
      allocated = b.setSlot i { b.buses i with
        path := path.take (busCoordPathMax - 1), allocated := true, depth := 0 } := by
  obtain ⟨j, found, pair⟩ := Option.map_eq_some_iff.mp made
  have free := List.find?_some found
  simp only [Prod.mk.injEq] at pair
  obtain ⟨rfl, rfl⟩ := pair
  exact ⟨by simpa using free, rfl⟩

theorem exists_alloc (wf : b.WellFormed paths) (fits : BusPaths paths) (member : path ∈ paths)
    (absent : b.findSlotLocked path = none) : ∃ r, b.allocSlotLocked path = some r := by
  obtain ⟨i, free⟩ := exists_free wf fits member absent
  cases found : (List.finRange busCoordMaxBuses).find? fun i => !(b.buses i).allocated with
  | none =>
      have full := List.find?_eq_none.mp found i (List.mem_finRange i)
      simp [free] at full
  | some j => exact ⟨_, by rw [allocSlotLocked, found]; rfl⟩

theorem setSlot_wellFormed (wf : b.WellFormed paths) {slot : BusSlot Thread}
    (taken : slot.allocated = true) (member : slot.path ∈ paths)
    (fresh : ∀ j, j ≠ i → (b.buses j).allocated = true → (b.buses j).path ≠ slot.path)
    (idle : slot.owner = none → slot.depth = 0) : (b.setSlot i slot).WellFormed paths := by
  refine ⟨?_, ?_, ?_, ?_⟩
  · intro j k hj hk same
    by_cases first : j = i <;> by_cases second : k = i
    · rw [first, second]
    · subst j
      rw [setSlot_other _ second] at hk same
      exact absurd (by simpa using same.symm) (fresh k second hk)
    · subst k
      rw [setSlot_other _ first] at hj same
      exact absurd (by simpa using same) (fresh j first hj)
    · rw [setSlot_other _ first] at hj same
      rw [setSlot_other _ second] at hk same
      exact wf.unique j k hj hk same
  · intro j hj
    by_cases first : j = i
    · subst j
      simpa using member
    · rw [setSlot_other _ first] at hj ⊢
      exact wf.known j hj
  · intro t j waits
    by_cases first : j = i
    · subst j
      simpa using taken
    · rw [setSlot_other _ first]
      exact wf.waits t j waits
  · intro j unowned
    by_cases first : j = i
    · subst j
      simpa using idle (by simpa using unowned)
    · rw [setSlot_other _ first] at unowned ⊢
      exact wf.owned j unowned

theorem wellFormed_waiting (wf : b.WellFormed paths)
    (waiting : Thread → Option (Fin busCoordMaxBuses))
    (allocated : ∀ t i, waiting t = some i → (b.buses i).allocated = true) :
    ({ b with waiting := waiting } : BusCoord Thread).WellFormed paths :=
  ⟨wf.unique, wf.known, allocated, wf.owned⟩

theorem init_wellFormed : (busCoordInit : BusCoord Thread).WellFormed paths :=
  ⟨by simp [busCoordInit], by simp [busCoordInit], by simp [busCoordInit], by simp [busCoordInit]⟩

theorem acquire_named [DecidableEq Thread] {t : Thread} {serialPath : CStr}
    (nonempty : serialPath ≠ []) :
    b.acquire t (some serialPath) =
      match b.findSlotLocked serialPath with
      | some i => b.takeOrWait t i
      | none =>
          match b.allocSlotLocked serialPath with
          | none => (b, .uncoordinated)
          | some (i, allocated) => allocated.takeOrWait t i := by
  simp [acquire, pathIsEmpty, nonempty]

end BusCoord

end Rs485Gateway
