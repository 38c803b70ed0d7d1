import Rs485Gateway.Daemon.DutyLimits

namespace Rs485Gateway

open Interaction

def Daemon.frequencyDuty (frequency upper lower : Reg) : Reg :=
  if upper ≤ lower then 0
  else if frequency ≤ lower then 0
  else if frequency ≥ upper then 10000
  else
    let range := (upper - lower).toUInt32
    let delta := (frequency - lower).toUInt32
    ((delta * 10000 + range / 2) / range).toUInt16

def Daemon.frequencyConvertDuty (frequency : Reg) : DaemonProg Reg := do
  let (upper, lower) ← readLimits
  pure (frequencyDuty frequency upper lower)

def Converts (lower upper : Reg) (conversion : DaemonProg Reg) (value : Reg) : Prop :=
  ∃ events, DaemonRuns conversion events value ∧ ∀ event ∈ events, limitAnswer lower upper event

/-- Percents and hundredths of a percent of a span, each rounded down. -/
def spanShare (span duty : Nat) : Nat := span * (duty / 100) / 100 + span * (duty % 100) / 10000

/-- The duty nearest to a share. -/
def shareDuty (span share : Nat) : Nat := (share * 10000 + span / 2) / span

/-- What `duty_convert_frequency` computes on its way to its result. -/
def dutySteps (lower span duty : Nat) : List Nat :=
  [span, span * (duty / 100), span * (duty / 100) / 100, lower + span * (duty / 100) / 100,
    span * (duty % 100), span * (duty % 100) / 10000, lower + spanShare span duty]

def frequencySteps (span share : Nat) : List Nat :=
  [span, share, share * 10000, span / 2, share * 10000 + span / 2, shareDuty span share]

section Shares

variable {span duty later : Nat}

theorem spanShare_bounds (span duty : Nat) :
    spanShare span duty * 10000 ≤ span * duty ∧
      span * duty < spanShare span duty * 10000 + 20000 := by
  have parts : span * duty = 100 * (span * (duty / 100)) + span * (duty % 100) := by
    calc
      span * duty = span * (100 * (duty / 100) + duty % 100) := by rw [Nat.div_add_mod]
      _ = 100 * (span * (duty / 100)) + span * (duty % 100) := by ring
  rw [spanShare, parts]
  omega

theorem spanShare_mono (less : duty ≤ later) : spanShare span duty ≤ spanShare span later := by
  have percents := Nat.div_le_div_right (c := 100) less
  rcases percents.eq_or_lt with same | fewer
  · have hundredths : duty % 100 ≤ later % 100 := by omega
    rw [spanShare, spanShare, same]
    gcongr
  · -- The hundredths of a percent do not make up for a percent.
    have whole : span * (duty / 100) + span ≤ span * (later / 100) := by
      rw [← Nat.mul_succ]
      exact Nat.mul_le_mul_left span fewer
    have hundredths : span * (duty % 100) ≤ span * 99 := Nat.mul_le_mul_left span (by omega)
    rw [spanShare, spanShare]
    omega

theorem spanShare_lt (positive : 0 < span) (partly : duty < 10000) :
    spanShare span duty < span := by
  have below := (spanShare_bounds span duty).1
  have part : span * duty < span * 10000 := Nat.mul_lt_mul_of_pos_left partly positive
  omega

theorem shareDuty_bounds (positive : 0 < span) (share : Nat) :
    shareDuty span share * span ≤ share * 10000 + span / 2 ∧
      share * 10000 + span / 2 < shareDuty span share * span + span := by
  constructor
  · exact Nat.div_mul_le_self _ _
  · calc
      share * 10000 + span / 2 < span * (shareDuty span share + 1) :=
        Nat.lt_mul_div_succ _ positive
      _ = shareDuty span share * span + span := by ring

theorem shareDuty_mono {share more : Nat} (less : share ≤ more) :
    shareDuty span share ≤ shareDuty span more := by
  apply Nat.div_le_div_right
  omega

theorem shareDuty_le (positive : 0 < span) {share : Nat} (inside : share < span) :
    shareDuty span share ≤ 10000 := by
  have below := (shareDuty_bounds positive share).1
  have room : shareDuty span share * span < 10001 * span := by omega
  exact Nat.lt_succ_iff.mp (Nat.lt_of_mul_lt_mul_right room)

/-- The duty that is read back is not above the one that was set, and misses it by the two
roundings down and the one to nearest. -/
theorem shareDuty_spanShare (positive : 0 < span) (duty : Nat) :
    shareDuty span (spanShare span duty) ≤ duty ∧
      (duty - shareDuty span (spanShare span duty)) * span ≤ 20000 + span := by
  rcases spanShare_bounds span duty with ⟨low, high⟩
  rcases shareDuty_bounds positive (spanShare span duty) with ⟨below, above⟩
  have same : span * duty = duty * span := Nat.mul_comm _ _
  constructor
  · have room : shareDuty span (spanShare span duty) * span < (duty + 1) * span := by
      rw [Nat.succ_mul]
      omega
    exact Nat.lt_succ_iff.mp (Nat.lt_of_mul_lt_mul_right room)
  · rw [Nat.sub_mul]
    omega

end Shares

section Conversions

variable {lower upper : Reg}

theorem span_toNat (range : lower < upper) :
    (upper - lower).toNat = upper.toNat - lower.toNat :=
  UInt16.toNat_sub_of_le _ _ (UInt16.le_of_lt range)

theorem dutyFrequency_share (range : lower < upper) {duty : Reg} (partly : duty < 10000) :
    (Daemon.dutyFrequency duty upper lower).toNat =
      lower.toNat + spanShare (upper.toNat - lower.toNat) duty.toNat := by
  rw [Daemon.dutyFrequency_toNat range partly, spanShare, Nat.add_assoc]

theorem dutyFrequency_full (range : lower < upper) {duty : Reg} (full : 10000 ≤ duty) :
    Daemon.dutyFrequency duty upper lower = upper := by
  rw [Daemon.dutyFrequency, if_neg (UInt16.not_le.mpr range), if_pos full]

theorem frequencyDuty_low (range : lower < upper) {frequency : Reg} (low : frequency ≤ lower) :
    Daemon.frequencyDuty frequency upper lower = 0 := by
  rw [Daemon.frequencyDuty, if_neg (UInt16.not_le.mpr range), if_pos low]

theorem frequencyDuty_high (range : lower < upper) {frequency : Reg} (high : upper ≤ frequency) :
    Daemon.frequencyDuty frequency upper lower = 10000 := by
  have above : ¬ frequency ≤ lower := UInt16.not_le.mpr (UInt16.lt_of_lt_of_le range high)
  rw [Daemon.frequencyDuty, if_neg (UInt16.not_le.mpr range), if_neg above, if_pos high]

theorem frequencyDuty_share (range : lower < upper) {frequency : Reg} (above : lower < frequency)
    (below : frequency < upper) :
    (Daemon.frequencyDuty frequency upper lower).toNat =
      shareDuty (upper.toNat - lower.toNat) (frequency.toNat - lower.toNat) := by
  have ordered : lower.toNat < upper.toNat := range
  have inside : frequency.toNat < upper.toNat := below
  have started : lower.toNat < frequency.toNat := above
  have top := upper.toNat_lt
  have positive : 0 < upper.toNat - lower.toNat := by omega
  have fits := shareDuty_le positive (show frequency.toNat - lower.toNat < _ by omega)
  rw [shareDuty] at fits ⊢
  rw [Daemon.frequencyDuty, if_neg (UInt16.not_le.mpr range), if_neg (UInt16.not_le.mpr above),
    if_neg (UInt16.not_le.mpr below)]
  simp only [UInt32.toNat_toUInt16, UInt32.toNat_add, UInt32.toNat_div, UInt32.toNat_mul,
    UInt16.toNat_toUInt32, span_toNat range, span_toNat above, UInt32.reduceToNat]
  rw [Nat.mod_eq_of_lt (a := (frequency.toNat - lower.toNat) * 10000) (by omega),
    Nat.mod_eq_of_lt (b := 2 ^ 32) (by omega)]
  exact Nat.mod_eq_of_lt (by omega)

theorem frequencyDuty_cases (range : lower < upper) (frequency : Reg) :
    (Daemon.frequencyDuty frequency upper lower).toNat =
      if upper ≤ frequency then 10000
      else shareDuty (upper.toNat - lower.toNat) (frequency.toNat - lower.toNat) := by
  have positive : 0 < upper.toNat - lower.toNat := Nat.sub_pos_of_lt range
  split
  · rename_i high
    rw [frequencyDuty_high range high]
    rfl
  · rename_i inside
    by_cases low : frequency ≤ lower
    · have nothing : frequency.toNat - lower.toNat = 0 := Nat.sub_eq_zero_of_le low
      have half : (upper.toNat - lower.toNat) / 2 < upper.toNat - lower.toNat :=
        Nat.div_lt_self positive (by decide)
      rw [frequencyDuty_low range low, nothing, shareDuty, Nat.zero_mul, Nat.zero_add,
        Nat.div_eq_of_lt half]
      rfl
    · exact frequencyDuty_share range (UInt16.not_le.mp low) (UInt16.not_le.mp inside)

theorem dutyFrequency_mono (range : lower < upper) {duty later : Reg} (less : duty ≤ later) :
    Daemon.dutyFrequency duty upper lower ≤ Daemon.dutyFrequency later upper lower := by
  by_cases full : 10000 ≤ later
  · rw [dutyFrequency_full range full]
    exact (Daemon.dutyFrequency_within range duty).2
  · have partly : later < 10000 := UInt16.not_le.mp full
    have share := @spanShare_mono (upper.toNat - lower.toNat) _ _ less
    rw [UInt16.le_iff_toNat_le, dutyFrequency_share range (UInt16.lt_of_le_of_lt less partly),
      dutyFrequency_share range partly]
    exact Nat.add_le_add_left share _

theorem frequencyDuty_le (range : lower < upper) (frequency : Reg) :
    Daemon.frequencyDuty frequency upper lower ≤ 10000 := by
  have positive : 0 < upper.toNat - lower.toNat := Nat.sub_pos_of_lt range
  rw [UInt16.le_iff_toNat_le, frequencyDuty_cases range]
  split
  · exact Nat.le_refl _
  · rename_i inside
    have below : frequency.toNat < upper.toNat := UInt16.not_le.mp inside
    exact shareDuty_le positive (by omega)

theorem frequencyDuty_mono (range : lower < upper) {frequency higher : Reg}
    (less : frequency ≤ higher) :
    Daemon.frequencyDuty frequency upper lower ≤ Daemon.frequencyDuty higher upper lower := by
  by_cases high : upper ≤ higher
  · rw [frequencyDuty_high range high]
    exact frequencyDuty_le range frequency
  · have below : ¬ upper ≤ frequency := fun above => high (UInt16.le_trans above less)
    rw [UInt16.le_iff_toNat_le, frequencyDuty_cases range, frequencyDuty_cases range, if_neg high,
      if_neg below]
    exact shareDuty_mono (Nat.sub_le_sub_right less _)

theorem frequencyDuty_dutyFrequency (range : lower < upper) {duty : Reg} (whole : duty ≤ 10000) :
    let back := Daemon.frequencyDuty (Daemon.dutyFrequency duty upper lower) upper lower
    back ≤ duty ∧ (duty.toNat - back.toNat) * (upper.toNat - lower.toNat) ≤
      20000 + (upper.toNat - lower.toNat) := by
  have positive : 0 < upper.toNat - lower.toNat := Nat.sub_pos_of_lt range
  intro back
  by_cases full : 10000 ≤ duty
  · have all : duty = 10000 := UInt16.le_antisymm whole full
    have same : back = duty := by
      rw [all]
      simp only [back, dutyFrequency_full range full, frequencyDuty_high range (UInt16.le_refl _)]
    rw [same, Nat.sub_self, Nat.zero_mul]
    exact ⟨UInt16.le_refl _, Nat.zero_le _⟩
  · have partly : duty < 10000 := UInt16.not_le.mp full
    have value := dutyFrequency_share range partly
    have inside := spanShare_lt positive (show duty.toNat < 10000 from partly)
    have below : ¬ upper ≤ Daemon.dutyFrequency duty upper lower := by
      rw [UInt16.le_iff_toNat_le, value]
      omega
    have backValue : back.toNat = shareDuty (upper.toNat - lower.toNat)
        (spanShare (upper.toNat - lower.toNat) duty.toNat) := by
      rw [frequencyDuty_cases range, if_neg below, value, Nat.add_sub_cancel_left]
    rw [UInt16.le_iff_toNat_le, backValue]
    exact shareDuty_spanShare positive duty.toNat

theorem dutySteps_fit (range : lower < upper) {duty : Reg} (partly : duty < 10000) :
    ∀ step ∈ dutySteps lower.toNat (upper.toNat - lower.toNat) duty.toNat, step < 2 ^ 32 := by
  have ordered : lower.toNat < upper.toNat := range
  have top := upper.toNat_lt
  have part : duty.toNat < 10000 := partly
  have inside := spanShare_lt (Nat.sub_pos_of_lt ordered) part
  rcases Daemon.duty_parts part (upper.toNat - lower.toNat) with ⟨percent, remainder⟩
  simp only [dutySteps, List.forall_mem_cons]
  refine ⟨?_, ?_, ?_, ?_, ?_, ?_, ?_, fun _ listed => nomatch listed⟩ <;> omega

theorem frequencySteps_fit (range : lower < upper) {frequency : Reg} (below : frequency < upper) :
    ∀ step ∈ frequencySteps (upper.toNat - lower.toNat) (frequency.toNat - lower.toNat),
      step < 2 ^ 32 := by
  have ordered : lower.toNat < upper.toNat := range
  have top := upper.toNat_lt
  have inside : frequency.toNat < upper.toNat := below
  have fits := shareDuty_le (Nat.sub_pos_of_lt ordered)
    (show frequency.toNat - lower.toNat < upper.toNat - lower.toNat by omega)
  simp only [frequencySteps, List.forall_mem_cons]
  refine ⟨?_, ?_, ?_, ?_, ?_, ?_, fun _ listed => nomatch listed⟩ <;> omega

theorem converts_iff (compute : Reg → Reg → Reg) (value : Reg) :
    Converts lower upper (Daemon.readLimits >>= fun limits => pure (compute limits.1 limits.2))
      value ↔ value = compute upper lower := by
  constructor
  · rintro ⟨events, run, answered⟩
    rcases run.op_inv with ⟨first, later, rfl, next⟩
    rcases next.op_inv with ⟨second, rest, rfl, last⟩
    rcases last.ret_inv with ⟨rfl, rfl⟩
    rw [List.forall_mem_cons, List.forall_mem_cons] at answered
    rcases answered with ⟨isUpper, isLower, -⟩
    rcases isUpper.1 rfl with rfl
    rcases isLower.2 rfl with rfl
    rfl
  · rintro rfl
    refine ⟨[⟨.poolRead .handler intFrequencyUpperLimitReg, some upper⟩,
      ⟨.poolRead .handler intFrequencyLowerLimitReg, some lower⟩], .op (.op (.ret _)), ?_⟩
    rw [List.forall_mem_cons, List.forall_mem_cons]
    refine ⟨⟨fun _ => rfl, fun same => absurd same (by decide)⟩,
      ⟨fun same => absurd same (by decide), fun _ => rfl⟩, fun _ listed => nomatch listed⟩

end Conversions

structure DutyConversions (lower upper : Reg) : Prop where
  forward : ∀ duty frequency, Converts lower upper (Daemon.dutyConvertFrequency duty) frequency ↔
    frequency = Daemon.dutyFrequency duty upper lower
  backward : ∀ frequency duty, Converts lower upper (Daemon.frequencyConvertDuty frequency) duty ↔
    duty = Daemon.frequencyDuty frequency upper lower
  forwardWithin : ∀ duty, lower ≤ Daemon.dutyFrequency duty upper lower ∧
    Daemon.dutyFrequency duty upper lower ≤ upper
  forwardMono : ∀ duty later, duty ≤ later →
    Daemon.dutyFrequency duty upper lower ≤ Daemon.dutyFrequency later upper lower
  forwardFull : ∀ duty, 10000 ≤ duty → Daemon.dutyFrequency duty upper lower = upper
  backwardWithin : ∀ frequency, Daemon.frequencyDuty frequency upper lower ≤ 10000
  backwardMono : ∀ frequency higher, frequency ≤ higher →
    Daemon.frequencyDuty frequency upper lower ≤ Daemon.frequencyDuty higher upper lower
  /-- No value on the way exceeds 32 bits, and the cast of the sum changes nothing. -/
  forwardFits : ∀ duty : Reg, duty < 10000 →
    (∀ step ∈ dutySteps lower.toNat (upper.toNat - lower.toNat) duty.toNat, step < 2 ^ 32) ∧
      (Daemon.dutyFrequency duty upper lower).toNat =
        lower.toNat + spanShare (upper.toNat - lower.toNat) duty.toNat
  backwardFits : ∀ frequency : Reg, lower < frequency → frequency < upper →
    (∀ step ∈ frequencySteps (upper.toNat - lower.toNat) (frequency.toNat - lower.toNat),
        step < 2 ^ 32) ∧
      (Daemon.frequencyDuty frequency upper lower).toNat =
        shareDuty (upper.toNat - lower.toNat) (frequency.toNat - lower.toNat)
  readBack : ∀ duty, duty ≤ 10000 →
    let back := Daemon.frequencyDuty (Daemon.dutyFrequency duty upper lower) upper lower
    back ≤ duty ∧ (duty.toNat - back.toNat) * (upper.toNat - lower.toNat) ≤
      20000 + (upper.toNat - lower.toNat)

/-- Under any limits in order, the set point and the duty read back from it agree up to the
roundings. -/
theorem dutyConversions_agree (lower upper : Reg) (range : lower < upper) :
    DutyConversions lower upper where
  forward := fun duty => converts_iff (Daemon.dutyFrequency duty)
  backward := fun frequency => converts_iff (Daemon.frequencyDuty frequency)
  forwardWithin := Daemon.dutyFrequency_within range
  forwardMono := fun _ _ less => dutyFrequency_mono range less
  forwardFull := fun _ full => dutyFrequency_full range full
  backwardWithin := frequencyDuty_le range
  backwardMono := fun _ _ less => frequencyDuty_mono range less
  forwardFits := fun _ partly => ⟨dutySteps_fit range partly, dutyFrequency_share range partly⟩
  backwardFits := fun _ above below =>
    ⟨frequencySteps_fit range below, frequencyDuty_share range above below⟩
  readBack := fun _ whole => frequencyDuty_dutyFrequency range whole

theorem dutyConversions_agree_500_6000 : DutyConversions 500 6000 :=
  dutyConversions_agree 500 6000 (by decide)

end Rs485Gateway
