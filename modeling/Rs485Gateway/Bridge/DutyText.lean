import Rs485Gateway.Daemon.DutyRoundTrip
import Rs485Gateway.Numbers.FloatText

namespace Rs485Gateway

open Interaction Rs485Gateway.Numbers

/-- `(uint16_t)(strtof(value, NULL) * 100u)`, where the cast is defined. -/
def dutyVal (value : CStr) : Option Reg :=
  (strtof value).bind fun rawDutyVal => castUint16 (single.round (rawDutyVal * 100))

/-- `%.2f` of `(float)duty / 100.0f`. -/
def dutyText (duty : Reg) : CStr :=
  printHundredths (single.round (single.round duty.toNat / 100))

section Texts

variable {n : Nat}

theorem dutyText_hundredths (duty : Reg) : dutyText duty = hundredthsText duty.toNat := by
  have small := duty.toNat_lt
  have whole := single.round_int duty.toNat (by norm_num [single]; exact_mod_cast by omega)
    (by norm_num [single])
  have exact_float : single.round (duty.toNat : ℚ) = duty.toNat := by exact_mod_cast whole
  rw [dutyText, exact_float, printHundredths_single small]

/-- A duty that was sent is received, or the one a hundredth of a percent below. -/
theorem dutyVal_hundredths (small : n < 65536) :
    ∃ duty, dutyVal (hundredthsText n) = some duty ∧ (duty.toNat = n ∨ duty.toNat + 1 = n) :=
  castUint16_hundredths small

end Texts

def queuesFrequency (frequency : Reg) : DaemonOp → Prop
  | .queuePush _ cmd => cmd.addr = devFrequencyCmdReg → cmd.values = [frequency]
  | _ => True

def pumpFrequency (duty upper lower : Reg) : Reg :=
  if duty = 0 then duty else Daemon.dutyFrequency duty upper lower

section Loop

variable {daemon : Daemon} {lower upper duty : Reg} {events : List DaemonEvent}

theorem queueFrequency_queues (uid : UInt8) (frequency operation : Reg) :
    Uses (queuesFrequency frequency) (fun _ => False)
      (daemon.queueFrequency uid frequency operation) :=
  Daemon.queueFrequency_uses (fun _ _ => rfl) fun _ same => nomatch (same : devOperationCmdReg = _)

theorem onMainPumpDutyCmd_queues
    (run : DaemonRuns (daemon.onMainPumpDutyCmd duty) events ())
    (answered : ∀ event ∈ events, limitAnswer lower upper event) :
    ∀ event ∈ events, queuesFrequency (pumpFrequency duty upper lower) event.1 := by
  rcases run.op_inv with ⟨first, later, rfl, next⟩
  rcases next.op_inv with ⟨second, rest, rfl, last⟩
  rw [List.forall_mem_cons, List.forall_mem_cons] at answered
  rcases answered with ⟨isUpper, isLower, -⟩
  rcases isUpper.1 rfl with rfl
  rcases isLower.2 rfl with rfl
  rw [List.forall_mem_cons, List.forall_mem_cons]
  refine ⟨trivial, trivial, ?_⟩
  intro event member
  apply Uses.runs (fun _ => False.elim) _ last event member
  simp only [Prog.pure_eq, Prog.ret_bind]
  split
  · trivial
  · split
    · rename_i zero
      rw [pumpFrequency, if_pos zero]
      exact queueFrequency_queues _ _ _
    · rename_i running
      rw [pumpFrequency, if_neg running]
      exact queueFrequency_queues _ _ _

theorem pumpFrequency_back (range : lower < upper) (whole : duty ≤ 10000) :
    let back := Daemon.frequencyDuty (pumpFrequency duty upper lower) upper lower
    back.toNat ≤ duty.toNat ∧ (duty.toNat - back.toNat) * (upper.toNat - lower.toNat) ≤
      20000 + (upper.toNat - lower.toNat) := by
  intro back
  by_cases zero : duty = 0
  · have nothing : back = 0 := by
      simp only [back, pumpFrequency, zero]
      exact frequencyDuty_low range (UInt16.le_iff_toNat_le.mpr (Nat.zero_le _))
    rw [nothing, zero]
    simp
  · have same :
        back = Daemon.frequencyDuty (Daemon.dutyFrequency duty upper lower) upper lower := by
      simp only [back, pumpFrequency, if_neg zero]
    rw [same]
    exact frequencyDuty_dutyFrequency range whole

/-- Over one unit and back the duty loses at most the roundings: the text sent, the register
queued for it, and the text published once the device reports that register. -/
theorem duty_closedLoop (range : lower < upper) {n : Nat} (whole : n ≤ 10000) :
    ∃ duty, dutyVal (hundredthsText n) = some duty ∧
      ∀ daemon events, DaemonRuns (Daemon.onMainPumpDutyCmd daemon duty) events () →
        (∀ event ∈ events, limitAnswer lower upper event) →
        ∀ target cmd accepted, ⟨.queuePush target cmd, accepted⟩ ∈ events →
          cmd.addr = devFrequencyCmdReg →
          ∃ frequency back, cmd.values = [frequency] ∧ back ≤ n ∧
            dutyText (Daemon.frequencyDuty frequency upper lower) = hundredthsText back ∧
            (n - back) * (upper.toNat - lower.toNat) ≤
              20000 + 2 * (upper.toNat - lower.toNat) := by
  rcases dutyVal_hundredths (show n < 65536 by omega) with ⟨duty, received, near⟩
  refine ⟨duty, received, ?_⟩
  intro daemon events run answered target cmd accepted member frequencyWrite
  have queued : cmd.values = [pumpFrequency duty upper lower] :=
    onMainPumpDutyCmd_queues run answered _ member frequencyWrite
  have below : duty ≤ 10000 := by
    rw [UInt16.le_iff_toNat_le]
    change duty.toNat ≤ 10000
    omega
  rcases pumpFrequency_back range below with ⟨less, close⟩
  refine ⟨_, _, queued, less.trans (by omega), dutyText_hundredths _, ?_⟩
  generalize (Daemon.frequencyDuty (pumpFrequency duty upper lower) upper lower).toNat = back
    at less close ⊢
  rcases near with same | fell
  · rw [← same]
    omega
  · calc
      (n - back) * (upper.toNat - lower.toNat) ≤
          (duty.toNat - back + 1) * (upper.toNat - lower.toNat) := by
        apply Nat.mul_le_mul_right
        omega
      _ ≤ 20000 + 2 * (upper.toNat - lower.toNat) := by
        rw [Nat.succ_mul]
        omega

theorem duty_closedLoop_53 : dutyVal (hundredthsText 53) = some 52 ∧ ∃ back, back ≤ 53 ∧
    dutyText (Daemon.frequencyDuty 528 6000 500) = hundredthsText back ∧
    (53 - back) * 5500 ≤ 20000 + 2 * 5500 := by
  have short : dutyVal (hundredthsText 53) = some 52 := by decide +kernel
  have run : DaemonRuns (Daemon.loneInverter.onMainPumpDutyCmd 52)
      [⟨.poolRead .handler intFrequencyUpperLimitReg, some 6000⟩,
        ⟨.poolRead .handler intFrequencyLowerLimitReg, some 500⟩,
        ⟨.queuePush ⟨.inverter, 0⟩ ⟨devFrequencyCmdReg, [528], .auto⟩, true⟩,
        ⟨.queuePush ⟨.inverter, 0⟩ ⟨devOperationCmdReg, [Daemon.runOperation], .auto⟩, true⟩] () :=
    .op (.op (.op (.op (.ret _))))
  rcases duty_closedLoop (show (500 : Reg) < 6000 by decide) (show 53 ≤ 10000 by decide) with
    ⟨duty, received, loops⟩
  rw [short] at received
  cases received
  rcases loops _ _ run (by simp [limitAnswer]; decide) ⟨.inverter, 0⟩
    ⟨devFrequencyCmdReg, [528], .auto⟩ true (by simp) rfl with
    ⟨frequency, back, same, less, shown, close⟩
  cases same
  exact ⟨short, back, less, shown, close⟩

end Loop

end Rs485Gateway
