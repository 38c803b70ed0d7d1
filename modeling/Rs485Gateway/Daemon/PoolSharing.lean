import Rs485Gateway.Daemon.Callbacks
import Rs485Gateway.Device.Registration
import Rs485Gateway.Lists.Interleave

/-! Scans of two units in the one shared pool. A pool write is locked on its own,
so the writes of two scans may come in any order. -/

namespace Rs485Gateway

open Interaction Rs485Gateway.Lists

/-- What the scans of one unit asked and were answered, oldest first. -/
inductive ScansOf (unit : DeviceUnit) : List DaemonEvent → Prop
  | none : ScansOf unit []
  | scan {before events : List DaemonEvent} {trackCommFail : Bool} {st : UnitState}
      {result : Rc × UnitState} (earlier : ScansOf unit before)
      (run : DaemonRuns (readProfileToPool unit trackCommFail st) events result) :
      ScansOf unit (before ++ events)

section Own

variable {unit : DeviceUnit} {events : List DaemonEvent}

theorem ScansOf.own (scans : ScansOf unit events) :
    ∀ event ∈ events, (rowsFootprint unit.profile).allows event.1 := by
  induction scans with
  | none => simp
  | scan earlier run ih =>
      intro event member
      rcases List.mem_append.mp member with old | new
      · exact ih event old
      · exact (Footprint.stays_readProfileToPool (rowsFootprint_scans _) _).runs run event new

end Own

theorem poolStep_own {profile : DeviceMapProfile} {operation : DaemonOp}
    (own : (rowsFootprint profile).allows operation) :
    (∀ pool, poolStep pool operation = pool) ∨
      ∃ slot value, slot ∈ profile.poolAddresses ∧
        ∀ pool, poolStep pool operation = assign pool slot value := by
  cases operation with
  | poolStore slot value => exact .inr ⟨slot, value, own, fun _ => rfl⟩
  | poolWrite slot value =>
      by_cases outside : slot.toNat ≥ internalPoolSize
      · exact .inl fun pool => by simp [poolStep, poolWriteRegister, outside]
      · exact .inr ⟨slot, value, own, fun pool => by simp [poolStep, poolWriteRegister, outside]⟩
  | _ => exact .inl fun _ => rfl

theorem poolStep_outside {profile : DeviceMapProfile} {operation : DaemonOp} {slot : Reg}
    (own : (rowsFootprint profile).allows operation) (outside : slot ∉ profile.poolAddresses)
    (pool : Pool) : poolStep pool operation slot = pool slot := by
  rcases poolStep_own own with idle | ⟨filled, value, inside, fills⟩
  · rw [idle]
  · rw [fills]
    apply assign_other
    intro same
    exact outside (same ▸ inside)

/-- Operations of separate profiles can change places. -/
theorem poolStep_commutes {first second : DeviceMapProfile} {one other : DaemonOp}
    (apart : first.poolAddresses.Disjoint second.poolAddresses)
    (ownOne : (rowsFootprint first).allows one) (ownOther : (rowsFootprint second).allows other)
    (pool : Pool) : poolStep (poolStep pool one) other = poolStep (poolStep pool other) one := by
  rcases poolStep_own ownOne with idle | ⟨slot, value, inside, fills⟩
  · rw [idle, idle]
  · rcases poolStep_own ownOther with idle' | ⟨slot', value', inside', fills'⟩
    · rw [idle', idle']
    · rw [fills, fills', fills', fills]
      apply assign_comm
      intro same
      exact apart inside (same ▸ inside')

/-- The writes made for one unit stay inside its profile, and every order of the
writes of two units leaves the pool that their scans leave one after the other. -/
theorem scans_share_pool (calls : List (Option DeviceMapProfile)) (i j : Nat)
    (different : i ≠ j) (one other : DeviceUnit)
    (oneAccepted : (registeredProfiles calls)[i]? = some one.profile)
    (otherAccepted : (registeredProfiles calls)[j]? = some other.profile)
    (oneEvents otherEvents merged : List DaemonEvent) (oneScans : ScansOf one oneEvents)
    (otherScans : ScansOf other otherEvents) (order : Interleaves oneEvents otherEvents merged)
    (pool : Pool) :
    (∀ event ∈ oneEvents, ∀ before slot,
        slot ∈ other.profile.poolAddresses ∨ slot ∉ one.profile.poolAddresses →
        poolStep before event.1 slot = before slot) ∧
      (∀ event ∈ otherEvents, ∀ before slot,
        slot ∈ one.profile.poolAddresses ∨ slot ∉ other.profile.poolAddresses →
        poolStep before event.1 slot = before slot) ∧
      poolAfter pool merged = poolAfter pool (oneEvents ++ otherEvents) ∧
      poolAfter pool merged = poolAfter pool (otherEvents ++ oneEvents) := by
  have apart := (registeredProfiles_separate calls).disjoint different oneAccepted otherAccepted
  have ownOne := oneScans.own
  have ownOther := otherScans.own
  refine ⟨?_, ?_, ?_, ?_⟩
  · intro event member before slot elsewhere
    apply poolStep_outside (ownOne event member)
    exact elsewhere.elim (fun theirs mine => apart mine theirs) id
  · intro event member before slot elsewhere
    apply poolStep_outside (ownOther event member)
    exact elsewhere.elim (fun theirs mine => apart theirs mine) id
  · apply order.foldl_eq
    intro first here second there before
    exact poolStep_commutes apart (ownOne first here) (ownOther second there) before
  · apply order.symm.foldl_eq
    intro first here second there before
    exact poolStep_commutes apart.symm (ownOther first here) (ownOne second there) before

def sharingInverter : DeviceUnit := ⟨⟨1, .tcp⟩, inverter1Profile⟩

def sharingUps : DeviceUnit := ⟨⟨2, .tcp⟩, ups1Profile⟩

theorem lively_scan (unit : DeviceUnit) (st : UnitState)
    (lively : (simulate daemonCode (steadyDevice (fun _ => true) fun address => address) 0
      (readProfileToPool unit true st)).any (fun result => decide (20 < result.1.length)) = true) :
    ∃ events, ScansOf unit events ∧ 20 < events.length := by
  obtain ⟨events, result, run, long⟩ := runs_of_check _ _ _ _ _ lively
  exact ⟨[] ++ events, .scan .none run, by simpa using long⟩

theorem scans_share_pool_devices :
    ∃ inverterEvents upsEvents, ScansOf sharingInverter inverterEvents ∧
      ScansOf sharingUps upsEvents ∧ 20 < inverterEvents.length ∧ 20 < upsEvents.length ∧
      ∀ pool, poolAfter pool (inverterEvents ++ upsEvents) =
        poolAfter pool (upsEvents ++ inverterEvents) := by
  obtain ⟨inverterEvents, inverterScans, inverterLong⟩ :=
    lively_scan sharingInverter ⟨0, connectionConnected⟩ (by decide +kernel)
  obtain ⟨upsEvents, upsScans, upsLong⟩ :=
    lively_scan sharingUps ⟨0, connectionConnected⟩ (by decide +kernel)
  refine ⟨inverterEvents, upsEvents, inverterScans, upsScans, inverterLong, upsLong, ?_⟩
  intro pool
  exact (scans_share_pool [some inverter1Profile, some ups1Profile] 0 1 (by decide)
    sharingInverter sharingUps rfl rfl _ _ _ inverterScans upsScans
    (Interleaves.append _ _) pool).2.2.2

end Rs485Gateway
