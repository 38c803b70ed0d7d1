import Mathlib.Tactic

/-! The silence between transactions with different units on one serial port
(`enforce_bus_handoff_silence`). -/

namespace Rs485Gateway

structure Timespec where
  sec : Int
  nsec : Nat
  valid : nsec < 1000000000

def Timespec.nanos (time : Timespec) : Int := time.sec * 1000000000 + time.nsec

def rtuMinBusHandoffSilenceMs : Nat := 30

/-- What the record of a port says of its last transaction. -/
structure LastTransaction where
  hasLastTransaction : Bool
  lastUnitId : UInt8
  lastReleaseTime : Timespec

def transactionDone (unitId : UInt8) (now : Timespec) : LastTransaction where
  hasLastTransaction := true
  lastUnitId := unitId
  lastReleaseTime := now

/-- The time passed, in a `long` of 64 bits; the quotient is rounded towards zero. -/
def elapsedMs (last now : Timespec) : Int :=
  Int.bmod ((now.sec - last.sec) * 1000 + ((now.nsec : Int) - last.nsec).tdiv 1000000) (2 ^ 64)

def enforceBusHandoffSilence (bus : LastTransaction) (unitId : UInt8) (now : Timespec) : Nat :=
  if ¬ bus.hasLastTransaction ∨ bus.lastUnitId = unitId then 0
  else
    let elapsed := elapsedMs bus.lastReleaseTime now
    if 0 ≤ elapsed ∧ elapsed < rtuMinBusHandoffSilenceMs then
      (rtuMinBusHandoffSilenceMs - elapsed.toNat) * 1000
    else 0

/-- With this sleep the port is silent for the minimum, and none is longer. -/
def KeepsSilence (last now : Timespec) (sleep : Nat) : Prop :=
  30000000 ≤ now.nanos - last.nanos + sleep * 1000 ∧ (sleep : Int) * 1000 ≤ 30000000

section Elapsed

variable {last now : Timespec}

theorem tdiv_later (later : last.nsec ≤ now.nsec) :
    ((now.nsec : Int) - last.nsec).tdiv 1000000 = ((now.nsec : Int) - last.nsec) / 1000000 :=
  Int.tdiv_eq_ediv_of_nonneg (by omega)

/-- Across a second the nanoseconds count down, and what is left of a millisecond is
counted as passed. -/
theorem tdiv_earlier (earlier : now.nsec < last.nsec) :
    ((now.nsec : Int) - last.nsec).tdiv 1000000 =
      -(((last.nsec - now.nsec : Nat) : Int) / 1000000) := by
  have swapped : (now.nsec : Int) - last.nsec = -((last.nsec - now.nsec : Nat) : Int) := by omega
  rw [swapped, Int.neg_tdiv, Int.tdiv_eq_ediv_of_nonneg (Int.natCast_nonneg _)]

theorem elapsedMs_near (ordered : last.nanos ≤ now.nanos)
    (near : now.nanos - last.nanos < 30000000) :
    elapsedMs last now =
      (now.sec - last.sec) * 1000 + ((now.nsec : Int) - last.nsec).tdiv 1000000 := by
  have lastValid := last.valid
  have nowValid := now.valid
  simp only [Timespec.nanos] at ordered near
  rcases le_or_gt last.nsec now.nsec with later | earlier
  · have quotient := tdiv_later later
    exact Int.bmod_eq_of_le (by omega) (by omega)
  · have quotient := tdiv_earlier earlier
    exact Int.bmod_eq_of_le (by omega) (by omega)

theorem elapsedMs_later (ordered : last.nanos ≤ now.nanos)
    (near : now.nanos - last.nanos < 30000000) (later : last.nsec ≤ now.nsec) :
    elapsedMs last now = (now.nanos - last.nanos) / 1000000 := by
  rw [elapsedMs_near ordered near, tdiv_later later, Timespec.nanos, Timespec.nanos]
  omega

theorem elapsedMs_earlier (ordered : last.nanos ≤ now.nanos)
    (near : now.nanos - last.nanos < 30000000) (earlier : now.nsec < last.nsec) :
    elapsedMs last now = (now.nanos - last.nanos + 999999) / 1000000 := by
  rw [elapsedMs_near ordered near, tdiv_earlier earlier, Timespec.nanos, Timespec.nanos]
  omega

end Elapsed

section Silence

variable {last now : Timespec} {previous unitId : UInt8}

theorem handoffSleep_eq (differ : previous ≠ unitId) :
    enforceBusHandoffSilence (transactionDone previous last) unitId now =
      if 0 ≤ elapsedMs last now ∧ elapsedMs last now < 30 then
        (30 - (elapsedMs last now).toNat) * 1000
      else 0 := by
  have other : ¬ (¬ true = true ∨ previous = unitId) := by simpa using differ
  rw [enforceBusHandoffSilence, transactionDone, if_neg other]
  rfl

theorem handoffSleep_le (differ : previous ≠ unitId) :
    enforceBusHandoffSilence (transactionDone previous last) unitId now ≤ 30000 := by
  rw [handoffSleep_eq differ]
  split <;> omega

theorem handoffSleep_near (differ : previous ≠ unitId) {elapsed : Int}
    (counted : elapsedMs last now = elapsed) (few : 0 ≤ elapsed ∧ elapsed ≤ 30) :
    (enforceBusHandoffSilence (transactionDone previous last) unitId now : Int) =
      (30 - elapsed) * 1000 := by
  rw [handoffSleep_eq differ, counted]
  split <;> omega

/-- The sleep that is requested never falls short by a whole millisecond. -/
theorem handoff_nearly (differ : previous ≠ unitId) (ordered : last.nanos ≤ now.nanos) :
    29000000 < now.nanos - last.nanos +
      (enforceBusHandoffSilence (transactionDone previous last) unitId now : Int) * 1000 := by
  by_cases near : now.nanos - last.nanos < 30000000
  · rcases le_or_gt last.nsec now.nsec with later | earlier
    · rw [handoffSleep_near differ (elapsedMs_later ordered near later) (by omega)]
      omega
    · rw [handoffSleep_near differ (elapsedMs_earlier ordered near earlier) (by omega)]
      omega
  · omega

end Silence

/-- The minimum silence is kept to the nanosecond if and only if the nanoseconds did not count
down since the last transaction, or by whole milliseconds, or the minimum is over anyway. -/
theorem handoff_keepsSilence_iff {previous unitId : UInt8} (differ : previous ≠ unitId)
    {last now : Timespec} (ordered : last.nanos ≤ now.nanos) :
    KeepsSilence last now
        (enforceBusHandoffSilence (transactionDone previous last) unitId now) ↔
      last.nsec ≤ now.nsec ∨ (last.nsec - now.nsec) % 1000000 = 0 ∨
        30000000 ≤ now.nanos - last.nanos := by
  have bounded : (enforceBusHandoffSilence (transactionDone previous last) unitId now : Int) *
      1000 ≤ 30000000 := by
    have most := @handoffSleep_le last now previous unitId differ
    omega
  rw [KeepsSilence, and_iff_left bounded]
  by_cases near : now.nanos - last.nanos < 30000000
  · rcases le_or_gt last.nsec now.nsec with later | earlier
    · rw [handoffSleep_near differ (elapsedMs_later ordered near later) (by omega)]
      omega
    · rw [handoffSleep_near differ (elapsedMs_earlier ordered near earlier) (by omega)]
      -- What the quotient leaves of the time passed is what the nanoseconds counted down leave.
      have rest : (now.nanos - last.nanos) % 1000000 = 0 ↔
          (last.nsec - now.nsec) % 1000000 = 0 := by
        simp only [Timespec.nanos]
        omega
      omega
  · have passed : 30000000 ≤ now.nanos - last.nanos := not_lt.mp near
    exact iff_of_true (by omega) (.inr (.inr passed))

/-- A millisecond and a half after a transaction with another unit. -/
theorem handoff_keepsSilence_later :
    let last : Timespec := ⟨0, 0, by decide⟩
    let now : Timespec := ⟨0, 1500000, by decide⟩
    KeepsSilence last now (enforceBusHandoffSilence (transactionDone 1 last) 2 now) ↔
      last.nsec ≤ now.nsec ∨ (last.nsec - now.nsec) % 1000000 = 0 ∨
        30000000 ≤ now.nanos - last.nanos :=
  handoff_keepsSilence_iff (by decide) (by decide)

/-- One nanosecond over a second boundary counts as a millisecond. -/
theorem handoff_boundary_short :
    ¬ KeepsSilence ⟨0, 999999999, by decide⟩ ⟨1, 0, by decide⟩
      (enforceBusHandoffSilence (transactionDone 1 ⟨0, 999999999, by decide⟩) 2
        ⟨1, 0, by decide⟩) := by
  have slept : enforceBusHandoffSilence (transactionDone 1 ⟨0, 999999999, by decide⟩) 2
      ⟨1, 0, by decide⟩ = 29000 := by decide
  rw [slept]
  simp [KeepsSilence, Timespec.nanos]

end Rs485Gateway
