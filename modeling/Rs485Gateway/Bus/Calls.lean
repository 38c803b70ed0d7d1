import Rs485Gateway.Bus.Coord

namespace Rs485Gateway

open Interaction

namespace BusCoord

variable {Thread : Type} {paths : Finset CStr} {b : BusCoord Thread} {path : CStr}
  {i : Fin busCoordMaxBuses}

def Extends (b b' : BusCoord Thread) : Prop :=
  ∀ i, (b.buses i).allocated = true →
    (b'.buses i).allocated = true ∧ (b'.buses i).path = (b.buses i).path

theorem setSlot_extends {slot : BusSlot Thread} (taken : slot.allocated = true)
    (same : (b.buses i).allocated = true → slot.path = (b.buses i).path) :
    b.Extends (b.setSlot i slot) := by
  intro j hj
  by_cases here : j = i
  · subst j
    simpa [taken] using same hj
  · rw [setSlot_other _ here]
    exact ⟨hj, rfl⟩

variable [DecidableEq Thread] {t u : Thread}

theorem heldDepth_slot (wf : b.WellFormed paths) (allocated : (b.buses i).allocated = true)
    (same : (b.buses i).path = path) :
    b.heldDepth t path = if (b.buses i).owner = some t then (b.buses i).depth.toNat else 0 := by
  rw [heldDepth, findSlot_eq wf allocated same]

theorem heldDepth_absent
    (absent : ∀ i, (b.buses i).allocated = true → (b.buses i).path ≠ path) :
    b.heldDepth t path = 0 := by
  cases found : b.findSlotLocked path with
  | none => simp [heldDepth, found]
  | some i =>
      have present := findSlot_some found
      exact absurd present.2 (absent i present.1)

@[simp] theorem heldDepth_init : (busCoordInit : BusCoord Thread).heldDepth t path = 0 :=
  heldDepth_absent (by simp [busCoordInit])

@[simp] theorem heldDepth_waiting (waiting : Thread → Option (Fin busCoordMaxBuses)) :
    ({ b with waiting := waiting } : BusCoord Thread).heldDepth t path = b.heldDepth t path := rfl

theorem heldDepth_setSlot_other {slot : BusSlot Thread} (wf : b.WellFormed paths)
    (wf' : (b.setSlot i slot).WellFormed paths) (slotOther : slot.path ≠ path)
    (other : (b.buses i).allocated = true → (b.buses i).path ≠ path) :
    (b.setSlot i slot).heldDepth t path = b.heldDepth t path := by
  cases found : b.findSlotLocked path with
  | none =>
      rw [heldDepth_absent (b := b) (findSlot_none found)]
      apply heldDepth_absent
      intro j hj
      by_cases here : j = i
      · subst j
        simpa using slotOther
      · rw [setSlot_other _ here] at hj ⊢
        exact findSlot_none found j hj
  | some j =>
      have present := findSlot_some found
      have away : j ≠ i := by
        intro here
        subst j
        exact other present.1 present.2
      have kept := setSlot_other (b := b) slot away
      rw [heldDepth_slot wf' (by rw [kept]; exact present.1) (by rw [kept]; exact present.2),
        heldDepth_slot wf present.1 present.2, kept]

theorem owner_of_held (held : 0 < b.heldDepth t path) :
    ∃ i, b.findSlotLocked path = some i ∧ (b.buses i).owner = some t := by
  cases found : b.findSlotLocked path with
  | none => simp [heldDepth, found] at held
  | some i =>
      refine ⟨i, rfl, ?_⟩
      by_contra other
      simp [heldDepth, found, other] at held

theorem held_unique (first : 0 < b.heldDepth t path) (second : 0 < b.heldDepth u path) : t = u := by
  obtain ⟨i, foundFirst, ownsFirst⟩ := owner_of_held first
  obtain ⟨j, foundSecond, ownsSecond⟩ := owner_of_held second
  rw [foundFirst] at foundSecond
  cases foundSecond
  rw [ownsFirst] at ownsSecond
  exact Option.some.inj ownsSecond

structure Grants (paths : Finset CStr) (b b' : BusCoord Thread) (t : Thread) (path : CStr) :
    Prop where
  wellFormed : b'.WellFormed paths
  free : ∀ u, u ≠ t → b.heldDepth u path = 0
  deeper : b'.heldDepth t path = (b.heldDepth t path + 1) % 2 ^ 32
  frame : ∀ u q, u ≠ t ∨ q ≠ path → b'.heldDepth u q = b.heldDepth u q
  keeps : b.Extends b'
  waiting : b'.waiting = assign b.waiting t none

structure Parks (paths : Finset CStr) (b b' : BusCoord Thread) (t : Thread) (path : CStr) :
    Prop where
  wellFormed : b'.WellFormed paths
  busy : ∃ u, u ≠ t ∧ 0 < b.heldDepth u path
  frame : ∀ u q, b'.heldDepth u q = b.heldDepth u q
  keeps : b.Extends b'
  waiting : ∃ i, (b'.buses i).path = path ∧ b'.waiting = assign b.waiting t (some i)

structure Drops (paths : Finset CStr) (b b' : BusCoord Thread) (t : Thread) (path : CStr) :
    Prop where
  wellFormed : b'.WellFormed paths
  shallower : b'.heldDepth t path + 1 = b.heldDepth t path
  frame : ∀ u q, u ≠ t ∨ q ≠ path → b'.heldDepth u q = b.heldDepth u q
  keeps : b.Extends b'
  waiting : b'.waiting = b.waiting

theorem setSlot_inPlace (wf : b.WellFormed paths) (allocated : (b.buses i).allocated = true)
    (slot : BusSlot Thread) (taken : slot.allocated = true)
    (same : slot.path = (b.buses i).path) (idle : slot.owner = none → slot.depth = 0) :
    (b.setSlot i slot).WellFormed paths ∧ b.Extends (b.setSlot i slot) ∧
      (∀ u q, q ≠ (b.buses i).path → (b.setSlot i slot).heldDepth u q = b.heldDepth u q) ∧
      ∀ u, (b.setSlot i slot).heldDepth u (b.buses i).path =
        if slot.owner = some u then slot.depth.toNat else 0 := by
  have wf' : (b.setSlot i slot).WellFormed paths := by
    refine setSlot_wellFormed wf taken (same ▸ wf.known i allocated) ?_ idle
    intro j other hj clash
    exact other (wf.unique j i hj allocated (clash.trans same))
  refine ⟨wf', setSlot_extends taken fun _ => same, ?_, ?_⟩
  · intro u q other
    exact heldDepth_setSlot_other wf wf' (same ▸ other.symm) fun _ => other.symm
  · intro u
    have there : ((b.setSlot i slot).buses i).allocated = true := by simpa using taken
    rw [heldDepth_slot wf' there (by simpa using same), setSlot_self]

theorem takeOrWait_blocked {self : Thread}
    (busy : (b.buses i).depth > 0 ∧ (b.buses i).owner ≠ some self) :
    b.takeOrWait self i = ({ b with waiting := assign b.waiting self (some i) }, .blocked) := by
  simp [takeOrWait, busy]

theorem positive_toNat {depth : UInt32} (positive : depth > 0) : 0 < depth.toNat := by
  simpa [gt_iff_lt, UInt32.lt_iff_toNat_lt] using positive

theorem takeOrWait_parks (wf : b.WellFormed paths) (allocated : (b.buses i).allocated = true)
    (busy : (b.buses i).depth > 0 ∧ (b.buses i).owner ≠ some t) :
    Parks paths b { b with waiting := assign b.waiting t (some i) } t (b.buses i).path := by
  refine ⟨wellFormed_waiting wf _ ?_, ?_, fun u q => rfl, fun j hj => ⟨hj, rfl⟩, i, rfl, rfl⟩
  · intro u j waits
    by_cases here : u = t
    · subst u
      rw [assign_self] at waits
      cases waits
      exact allocated
    · rw [assign_other _ _ here] at waits
      exact wf.waits u j waits
  · cases owner : (b.buses i).owner with
    | none => simp [wf.owned i owner] at busy
    | some u =>
        refine ⟨u, fun same => busy.2 (same ▸ owner), ?_⟩
        rw [heldDepth_slot wf allocated rfl, if_pos owner]
        exact positive_toNat busy.1

theorem takeOrWait_grants (wf : b.WellFormed paths) (allocated : (b.buses i).allocated = true)
    (idle : ¬((b.buses i).depth > 0 ∧ (b.buses i).owner ≠ some t)) :
    ∃ b', b.takeOrWait t i = (b', .owned) ∧ Grants paths b b' t (b.buses i).path := by
  set slot : BusSlot Thread := { b.buses i with
    owner := if (b.buses i).depth = 0 then some t else (b.buses i).owner,
    depth := (b.buses i).depth + 1 } with slot_eq
  have result : b.takeOrWait t i =
      ({ b.setSlot i slot with waiting := assign b.waiting t none }, .owned) := by
    rw [takeOrWait, if_neg idle, slot_eq]
  have owner : slot.owner = some t := by
    by_cases zero : (b.buses i).depth = 0
    · simp [slot_eq, zero]
    · have positive : (b.buses i).depth > 0 := by
        rw [gt_iff_lt, UInt32.lt_iff_toNat_lt]
        have nonzero : (b.buses i).depth.toNat ≠ 0 := fun h => zero (UInt32.toNat_inj.mp h)
        simpa using Nat.pos_of_ne_zero nonzero
      have mine : (b.buses i).owner = some t := by
        by_contra other
        exact idle ⟨positive, other⟩
      simp [slot_eq, zero, mine]
  obtain ⟨wf', keeps, frame, after⟩ := setSlot_inPlace wf allocated slot allocated rfl
    (by simp [owner])
  have before := fun u => heldDepth_slot (t := u) wf allocated rfl
  have free : ∀ u, u ≠ t → b.heldDepth u (b.buses i).path = 0 := by
    intro u other
    rw [before u]
    split
    · rename_i owns
      by_contra held
      apply idle
      refine ⟨?_, by rw [owns]; exact fun h => other (Option.some.inj h)⟩
      rw [gt_iff_lt, UInt32.lt_iff_toNat_lt]
      simpa using Nat.pos_of_ne_zero held
    · rfl
  refine ⟨_, result, wellFormed_waiting wf' _ ?_, free, ?_, ?_, keeps, rfl⟩
  · intro u j waits
    by_cases here : u = t
    · subst u
      simp at waits
    · rw [assign_other _ _ here] at waits
      exact wf'.waits u j waits
  · rw [heldDepth_waiting, after t, if_pos owner, before t]
    by_cases zero : (b.buses i).depth = 0
    · simp [slot_eq, zero]
    · have mine : (b.buses i).owner = some t := by
        simpa [slot_eq, zero] using owner
      simp [slot_eq, mine]
  · intro u q different
    rw [heldDepth_waiting]
    by_cases here : q = (b.buses i).path
    · have other : u ≠ t := different.resolve_right (fun h => h here)
      rw [here, after u, owner, free u other, if_neg]
      exact fun h => other (Option.some.inj h).symm
    · exact frame u q here

theorem alloc_step (wf : b.WellFormed paths) (fits : BusPaths paths) (member : path ∈ paths)
    (absent : b.findSlotLocked path = none) {allocated : BusCoord Thread}
    (made : b.allocSlotLocked path = some (i, allocated)) :
    allocated.WellFormed paths ∧ b.Extends allocated ∧ allocated.waiting = b.waiting ∧
      (allocated.buses i).allocated = true ∧ (allocated.buses i).path = path ∧
      ∀ u q, allocated.heldDepth u q = b.heldDepth u q := by
  obtain ⟨free, rfl⟩ := allocSlot_spec made
  have whole : path.take (busCoordPathMax - 1) = path := by
    apply List.take_of_length_le
    have short := fits.short path member
    omega
  rw [whole]
  set slot : BusSlot Thread :=
    { b.buses i with path := path, allocated := true, depth := 0 } with slot_eq
  have wf' : (b.setSlot i slot).WellFormed paths := by
    refine setSlot_wellFormed wf rfl member ?_ fun _ => rfl
    intro j _ hj
    exact findSlot_none absent j hj
  refine ⟨wf', setSlot_extends rfl (by simp [free]), rfl, by simp [slot_eq], by simp [slot_eq], ?_⟩
  intro u q
  by_cases here : q = path
  · subst q
    rw [heldDepth_slot (i := i) wf' (by simp [slot_eq]) (by simp [slot_eq]),
      heldDepth_absent (b := b) (findSlot_none absent)]
    simp [slot_eq]
  · exact heldDepth_setSlot_other wf wf' (fun h => here h.symm) (by simp [free])

theorem takeOrWait_cases (wf : b.WellFormed paths) (allocated : (b.buses i).allocated = true) :
    (∃ b', b.takeOrWait t i = (b', .owned) ∧ Grants paths b b' t (b.buses i).path) ∨
      ∃ b', b.takeOrWait t i = (b', .blocked) ∧ Parks paths b b' t (b.buses i).path := by
  by_cases busy : (b.buses i).depth > 0 ∧ (b.buses i).owner ≠ some t
  · exact .inr ⟨_, takeOrWait_blocked busy, takeOrWait_parks wf allocated busy⟩
  · exact .inl (takeOrWait_grants wf allocated busy)

/-- Every acquire of a known path is granted or parked; the table never overflows. -/
theorem acquire_cases (wf : b.WellFormed paths) (fits : BusPaths paths) (member : path ∈ paths) :
    (∃ b', b.acquire t (some path) = (b', .owned) ∧ Grants paths b b' t path) ∨
      ∃ b', b.acquire t (some path) = (b', .blocked) ∧ Parks paths b b' t path := by
  rw [acquire_named (fits.nonempty path member)]
  cases found : b.findSlotLocked path with
  | some i =>
      obtain ⟨allocated, rfl⟩ := findSlot_some found
      exact takeOrWait_cases wf allocated
  | none =>
      obtain ⟨⟨i, table⟩, made⟩ := exists_alloc wf fits member found
      obtain ⟨wf', keeps, waiting, allocated, named, same⟩ := alloc_step wf fits member found made
      have through : ∀ b', table.Extends b' → b.Extends b' := by
        intro b' next j hj
        obtain ⟨alloc, path_eq⟩ := next j (keeps j hj).1
        exact ⟨alloc, path_eq.trans (keeps j hj).2⟩
      rw [made]
      have outcome := takeOrWait_cases (t := t) wf' allocated
      rw [named] at outcome
      rcases outcome with ⟨b', result, grants⟩ | ⟨b', result, parks⟩
      · refine .inl ⟨b', result, grants.wellFormed, ?_, ?_, ?_, through b' grants.keeps, ?_⟩
        · intro u other
          rw [← same]
          exact grants.free u other
        · rw [grants.deeper, same]
        · intro u q different
          rw [grants.frame u q different, same]
        · rw [grants.waiting, waiting]
      · refine .inr ⟨b', result, parks.wellFormed, ?_, ?_, through b' parks.keeps, ?_⟩
        · obtain ⟨u, other, held⟩ := parks.busy
          exact ⟨u, other, same u path ▸ held⟩
        · intro u q
          rw [parks.frame, same]
        · simpa only [waiting] using parks.waiting

theorem acquire_free (wf : b.WellFormed paths) (fits : BusPaths paths) (member : path ∈ paths)
    (free : ∀ u, u ≠ t → b.heldDepth u path = 0) :
    ∃ b', b.acquire t (some path) = (b', .owned) ∧ Grants paths b b' t path := by
  rcases acquire_cases (t := t) wf fits member with granted | ⟨b', result, parks⟩
  · exact granted
  · obtain ⟨u, other, held⟩ := parks.busy
    have idle := free u other
    omega

theorem release_ignored (notHeld : b.heldDepth t path = 0) :
    (b.release t (some path)).1 = b ∧ (b.release t (some path)).2 ≠ .done := by
  unfold release
  by_cases empty : pathIsEmpty (some path) = true
  · simp [empty]
  · cases found : b.findSlotLocked path with
    | none => simp [empty, found]
    | some i =>
        by_cases zero : (b.buses i).depth = 0
        · simp [empty, found, zero]
        · have other : (b.buses i).owner ≠ some t := by
            intro mine
            apply zero
            rw [heldDepth, found] at notHeld
            simp only [mine, if_true] at notHeld
            exact UInt32.toNat_inj.mp (by simpa using notHeld)
          simp [empty, found, zero, other]

theorem release_drops (wf : b.WellFormed paths) (nonempty : path ≠ [])
    (held : 0 < b.heldDepth t path) :
    ∃ b', b.release t (some path) = (b', .done) ∧ Drops paths b b' t path := by
  obtain ⟨i, found, mine⟩ := owner_of_held held
  obtain ⟨allocated, rfl⟩ := findSlot_some found
  have before := fun u => heldDepth_slot (t := u) wf allocated rfl
  have positive : 0 < (b.buses i).depth.toNat := by
    rw [before t, if_pos mine] at held
    exact held
  have nonzero : (b.buses i).depth ≠ 0 := by
    intro zero
    rw [zero] at positive
    exact absurd positive (by decide)
  set slot : BusSlot Thread := { b.buses i with depth := (b.buses i).depth - 1 } with slot_eq
  have lowered : slot.depth.toNat + 1 = (b.buses i).depth.toNat := by
    have one_le : (1 : UInt32) ≤ (b.buses i).depth := by
      rw [UInt32.le_iff_toNat_le]
      exact positive
    simp only [slot_eq]
    rw [UInt32.toNat_sub_of_le _ _ one_le]
    have unit : (1 : UInt32).toNat = 1 := rfl
    omega
  obtain ⟨wf', keeps, frame, after⟩ := setSlot_inPlace wf allocated slot allocated rfl
    (by simp [slot_eq, mine])
  refine ⟨b.setSlot i slot, ?_, wf', ?_, ?_, keeps, rfl⟩
  · simp [release, pathIsEmpty, nonempty, found, nonzero, mine, slot_eq]
  · rw [after t, before t, if_pos mine, if_pos mine]
    exact lowered
  · intro u q different
    by_cases here : q = (b.buses i).path
    · have other : u ≠ t := different.resolve_right (fun h => h here)
      have notOwner : ¬ (b.buses i).owner = some u := by
        rw [mine]
        exact fun h => other (Option.some.inj h).symm
      rw [here, after u, before u, if_neg notOwner, if_neg notOwner]
    · exact frame u q here

end BusCoord

end Rs485Gateway
