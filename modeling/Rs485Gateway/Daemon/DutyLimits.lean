import Rs485Gateway.Daemon.StoredReads

namespace Rs485Gateway

open Interaction

namespace Daemon

theorem duty_parts {duty : Nat} (partly : duty < 10000) (span : Nat) :
    span * (duty / 100) ≤ span * 99 ∧ span * (duty % 100) ≤ span * 99 :=
  ⟨Nat.mul_le_mul_left _ (by omega), Nat.mul_le_mul_left _ (by omega)⟩

theorem dutyFrequency_toNat {duty upper lower : Reg} (range : lower < upper)
    (partly : duty < 10000) :
    (dutyFrequency duty upper lower).toNat = lower.toNat +
      (upper.toNat - lower.toNat) * (duty.toNat / 100) / 100 +
      (upper.toNat - lower.toNat) * (duty.toNat % 100) / 10000 := by
  have ordered : lower.toNat < upper.toNat := range
  have top := upper.toNat_lt
  obtain ⟨percent, remainder⟩ := @duty_parts duty.toNat partly (upper.toNat - lower.toNat)
  have span : (upper - lower).toNat = upper.toNat - lower.toNat :=
    UInt16.toNat_sub_of_le _ _ (UInt16.le_of_lt range)
  rw [dutyFrequency, if_neg (UInt16.not_le.mpr range), if_neg (UInt16.not_le.mpr partly)]
  simp only [UInt32.toNat_toUInt16, UInt32.toNat_add, UInt32.toNat_div, UInt32.toNat_mul,
    UInt16.toNat_toUInt32, UInt16.toNat_div, UInt16.toNat_mod, span, UInt16.reduceToNat,
    UInt32.reduceToNat]
  omega

theorem dutyFrequency_within {lower upper : Reg} (range : lower < upper) (duty : Reg) :
    lower ≤ dutyFrequency duty upper lower ∧ dutyFrequency duty upper lower ≤ upper := by
  by_cases full : duty < 10000
  · have value := dutyFrequency_toNat range full
    have ordered : lower.toNat < upper.toNat := range
    obtain ⟨percent, remainder⟩ := @duty_parts duty.toNat full (upper.toNat - lower.toNat)
    rw [UInt16.le_iff_toNat_le, UInt16.le_iff_toNat_le, value]
    constructor <;> omega
  · rw [dutyFrequency, if_neg (UInt16.not_le.mpr range), if_pos (UInt16.not_lt.mp full)]
    exact ⟨UInt16.le_of_lt range, UInt16.le_refl upper⟩

end Daemon

/-- A pump command that starts the motor. -/
def runsPump : Option InverterCommand → Bool
  | some (.mainPump duty) => duty ≠ 0
  | _ => false

def received? : DaemonEvent → Option InverterCommand
  | ⟨.message .inverter, command⟩ => some command
  | _ => none

def lastCommand : History → Option InverterCommand
  | [] => none
  | (t, event) :: older =>
      (if t = .subscriber .inverter then received? event else none).or (lastCommand older)

def pumpRun? : ThreadId → DaemonOp → Option InverterCommand → Option (Reg × WriteCmd)
  | .subscriber .inverter, .queuePush _ cmd, some (.mainPump duty) =>
      if duty ≠ 0 ∧ cmd.addr = devFrequencyCmdReg then some (duty, cmd) else none
  | _, _, _ => none

def pumpRuns : History → List (Reg × WriteCmd)
  | [] => []
  | (t, event) :: older => (pumpRun? t event.1 (lastCommand older)).toList ++ pumpRuns older

/-- The inverter reports these limits whenever it reports any. -/
def returnsLimits (lower upper : Reg) : ThreadId × DaemonEvent → Bool
  | (.unit ⟨.inverter, _⟩, event) => (deviceRead? event).all fun read =>
      (read.value? devFrequencyLowerLimitReg).all (· = lower) &&
        (read.value? devFrequencyUpperLimitReg).all (· = upper)
  | _ => true

def limitRead? : ThreadId → DaemonOp → Option Reg
  | .subscriber .inverter, .poolRead .handler slot => some slot
  | _, _ => none

/-- Whenever a command that starts the motor reads a limit slot, a scan wrote it last. -/
def limitsKnown : History → Bool
  | [] => true
  | (t, event) :: older =>
      (limitRead? t event.1).all (fun slot => !runsPump (lastCommand older) || stored slot older) &&
        limitsKnown older

def limitAnswer (lower upper : Reg) : DaemonEvent → Prop
  | ⟨.poolRead .handler slot, answer⟩ =>
      (slot = intFrequencyUpperLimitReg → answer = some upper) ∧
        (slot = intFrequencyLowerLimitReg → answer = some lower)
  | _ => True

def queuesDuty (lower upper : Reg) (command : Option InverterCommand) : DaemonOp → Prop
  | .queuePush _ cmd => ∀ duty, command = some (.mainPump duty) → duty ≠ 0 →
      cmd.addr = devFrequencyCmdReg → cmd.values = [Daemon.dutyFrequency duty upper lower]
  | _ => True

/-- Given the limits of the inverter, a pump command queues the frequency they give. -/
def dutySpec (lower upper : Reg) : Protocol daemonSig (Option InverterCommand) where
  allow := queuesDuty lower upper
  rely := fun command operation answer =>
    runsPump command = true → limitAnswer lower upper ⟨operation, answer⟩
  next := fun command operation answer => (received? ⟨operation, answer⟩).or command
  enter := fun _ _ => False
  leave := fun _ _ _ _ => True

section Handlers

variable {daemon : Daemon} {lower upper duty : Reg} {command : Option InverterCommand}

theorem queuesDuty_idle (idle : runsPump command = false) (operation : DaemonOp) :
    queuesDuty lower upper command operation := by
  cases operation with
  | queuePush target cmd =>
      rintro duty rfl running
      simp [runsPump, running] at idle
  | _ => trivial

theorem handles_idle {α : Type} {prog : DaemonProg α} (handling : Daemon.Handles prog)
    (idle : runsPump command = false) :
    Safe (dutySpec lower upper) (fun _ _ => True) command prog := by
  have safe : Safe (dutySpec lower upper) (fun _ after => after = command) command prog := by
    apply handling.safe
    · exact fun operation _ => queuesDuty_idle idle operation
    · intro operation answer allowed
      cases operation <;> first | rfl | exact allowed.elim
    · intro _ never
      exact never.elim
    · intro _ _ _ never
      exact never.elim
  exact safe.mono fun _ _ _ => trivial

theorem onWrite_duty (duty : Reg) (uid : UInt8) {addr val : Reg}
    (queued : addr = devFrequencyCmdReg → val = Daemon.dutyFrequency duty upper lower) :
    Safe (dutySpec lower upper) (fun _ command => command = some (.mainPump duty))
      (some (.mainPump duty)) (daemon.onWrite uid addr val) := by
  unfold Daemon.onWrite
  split
  · rfl
  · split
    · rfl
    · unfold Daemon.inverterCmdPush
      split
      · rfl
      · split
        · rfl
        · refine ⟨?_, fun _ _ => rfl⟩
          rintro _ ⟨⟩ running here
          exact congrArg (fun value => [value]) (queued here)

theorem queueFrequency_duty (uid : UInt8) :
    Safe (dutySpec lower upper) (fun _ _ => True) (some (.mainPump duty))
      (daemon.queueFrequency uid (Daemon.dutyFrequency duty upper lower) Daemon.runOperation) := by
  apply Safe.bind (onWrite_duty duty uid fun _ => rfl)
  rintro result _ rfl
  cases result with
  | fail => trivial
  | ok =>
      apply Safe.bind (onWrite_duty duty uid fun same => absurd same (by decide))
      intro _ _ _
      trivial

theorem onMainPumpDutyCmd_duty (running : duty ≠ 0) :
    Safe (dutySpec lower upper) (fun _ _ => True) (some (.mainPump duty))
      (daemon.onMainPumpDutyCmd duty) := by
  have starts : runsPump (some (.mainPump duty)) = true := by simpa [runsPump] using running
  refine ⟨trivial, fun first trusted => ⟨trivial, fun second given => ?_⟩⟩
  obtain rfl := (trusted starts).1 rfl
  obtain rfl := (given starts).2 rfl
  change Safe _ _ (some (InverterCommand.mainPump duty)) _
  simp only [Prog.pure_eq, Prog.ret_bind, Option.getD_some]
  split
  · trivial
  · rw [if_neg running]
    exact queueFrequency_duty _

theorem handleMessage_duty (last : Option InverterCommand) :
    Safe (dutySpec lower upper) (fun _ _ => True) last (daemon.handleMessage .inverter) := by
  refine ⟨trivial, fun command _ => ?_⟩
  change Safe _ _ (some command) (daemon.inverterDispatch command)
  have handling : Daemon.Handles (daemon.inverterDispatch command) :=
    Daemon.inverterDispatch_handles command
  cases command with
  | mainPump duty =>
      by_cases stopping : duty = 0
      · exact handles_idle handling (by simp [runsPump, stopping])
      · exact onMainPumpDutyCmd_duty stopping
  | _ => exact handles_idle handling rfl

theorem lastCommand_ghost (history : History) :
    (dutySpec lower upper).ghost none (.subscriber .inverter) history = lastCommand history := by
  induction history with
  | nil => rfl
  | cons head older ih =>
      obtain ⟨t, operation, answer⟩ := head
      by_cases same : t = .subscriber .inverter
      · subst t
        rw [Protocol.ghost_self, ih]
        rfl
      · rw [Protocol.ghost_other _ _ _ _ same, ih, lastCommand, if_neg same, Option.none_or]

end Handlers

section Runs

variable {daemon : Daemon} {lower upper : Reg} {c : DaemonConfig}

theorem row_returned (standard : daemon.Standard) (reached : daemon.Reachable c)
    (constant : ∀ entry ∈ c.history, returnsLimits lower upper entry = true)
    (newer older : History) (split : c.history = newer ++ older) {row : DeviceRegisterMapping}
    (mapped : row ∈ (unitProfile .inverter).table) (holds : stored row.poolAddress older = true) :
    ∃ read : DeviceRead, read.value? row.deviceAddress = some (poolOf older row.poolAddress) ∧
      (read.value? devFrequencyLowerLimitReg).all (· = lower) = true ∧
      (read.value? devFrequencyUpperLimitReg).all (· = upper) = true := by
  obtain ⟨index, line, read, member, returned⟩ :=
    Daemon.stored_returned standard reached split mapped holds
  have limits := constant _ (split ▸ List.mem_append_right newer member)
  simp only [returnsLimits, deviceRead?, Option.all_some, Bool.and_eq_true] at limits
  exact ⟨read, returned, limits⟩

theorem limit_returned (standard : daemon.Standard) (reached : daemon.Reachable c)
    (constant : ∀ entry ∈ c.history, returnsLimits lower upper entry = true)
    (newer older : History) (split : c.history = newer ++ older) {slot : Reg}
    (holds : stored slot older = true) :
    (slot = intFrequencyUpperLimitReg → poolOf older slot = upper) ∧
      (slot = intFrequencyLowerLimitReg → poolOf older slot = lower) := by
  constructor
  · rintro rfl
    have mapped : (⟨devFrequencyUpperLimitReg, intFrequencyUpperLimitReg, .rw⟩ :
        DeviceRegisterMapping) ∈ (unitProfile .inverter).table := by decide
    obtain ⟨read, returned, -, limit⟩ :=
      row_returned standard reached constant newer older split mapped holds
    simpa [returned] using limit
  · rintro rfl
    have mapped : (⟨devFrequencyLowerLimitReg, intFrequencyLowerLimitReg, .rw⟩ :
        DeviceRegisterMapping) ∈ (unitProfile .inverter).table := by decide
    obtain ⟨read, returned, limit, -⟩ :=
      row_returned standard reached constant newer older split mapped holds
    simpa [returned] using limit

/-- Stored limits are the limits the handler relies on. -/
theorem dutySpec_trusted (standard : daemon.Standard) (reached : daemon.Reachable c)
    (constant : ∀ entry ∈ c.history, returnsLimits lower upper entry = true)
    (known : limitsKnown c.history = true) :
    (dutySpec lower upper).Trusted none (.subscriber .inverter) c.history := by
  have reads := (reachable_pool reached).2
  suffices each : ∀ older newer, c.history = newer ++ older → limitsKnown older = true →
      (dutySpec lower upper).Trusted none (.subscriber .inverter) older from
    each c.history [] rfl known
  intro older
  induction older with
  | nil => exact fun _ _ _ => trivial
  | cons head older ih =>
      intro newer split known
      obtain ⟨t, operation, answer⟩ := head
      rw [limitsKnown, Bool.and_eq_true] at known
      rw [split] at reads
      refine ⟨?_, ih (newer ++ [(t, ⟨operation, answer⟩)]) (by simp [split]) known.2⟩
      rintro rfl starts
      rw [lastCommand_ghost] at starts
      cases operation with
      | poolRead reader slot =>
          cases reader with
          | handler =>
              have holds : stored slot older = true := by
                simpa [limitRead?, starts] using known.1
              have found := reads.tail.1 .handler slot answer rfl
              have limits := limit_returned standard reached constant
                (newer ++ [(.subscriber .inverter, ⟨.poolRead .handler slot, answer⟩)]) older
                (by simp [split]) holds
              constructor
              · rintro rfl
                rw [found, ← limits.1 rfl]
                rfl
              · rintro rfl
                rw [found, ← limits.2 rfl]
                rfl
          | alarm ctx entry => trivial
      | _ => trivial

theorem pumpRuns_kept {history : History}
    (kept : (dutySpec lower upper).Kept none (.subscriber .inverter) history) :
    ∀ run ∈ pumpRuns history, run.2.values = [Daemon.dutyFrequency run.1 upper lower] := by
  induction history with
  | nil => simp [pumpRuns]
  | cons head older ih =>
      obtain ⟨t, operation, answer⟩ := head
      intro run member
      rcases List.mem_append.mp member with here | earlier
      · unfold pumpRun? at here
        split at here
        · rename_i target cmd duty op_eq last
          split at here
          · rename_i running
            obtain rfl : run = (duty, cmd) := by simpa using here
            have allowed := kept.1 rfl
            rw [lastCommand_ghost, last] at allowed
            change operation = _ at op_eq
            subst operation
            exact allowed duty rfl running.1 running.2
          · simp at here
        · simp at here
      · exact ih kept.2 run earlier

/-- Where the limits are known, a pump command queues a frequency between them. -/
theorem mainPump_within (standard : daemon.Standard) (range : lower < upper)
    (reached : daemon.Reachable c)
    (constant : ∀ entry ∈ c.history, returnsLimits lower upper entry = true)
    (known : limitsKnown c.history = true) :
    ∀ run ∈ pumpRuns c.history,
      ∃ frequency, run.2.values = [frequency] ∧ lower ≤ frequency ∧ frequency ≤ upper := by
  have starts : SafeThread (dutySpec lower upper) none (fun _ _ => True) (.subscriber .inverter)
      daemon.start := trivial
  have verified : (dutySpec lower upper).Verifies daemonCode := fun _ _ never => never.elim
  obtain ⟨_, kept⟩ := System.Reaches.guarantee verified
    (by
      intro choice home prog resumed last _
      cases Daemon.resume_cases resumed with
      | message => exact (handleMessage_duty last).bind fun _ _ _ => trivial)
    rfl starts reached (dutySpec_trusted standard reached constant known)
  intro run member
  have queued := pumpRuns_kept kept run member
  exact ⟨_, queued, Daemon.dutyFrequency_within range run.1⟩

/-- Half duty before the first scan: the limits read as zero, and so does the frequency. -/
theorem mainPump_unscanned : ¬ ∀ c, Daemon.loneInverter.Reachable c →
    (∀ entry ∈ c.history, returnsLimits 500 6000 entry = true) →
    ∀ run ∈ pumpRuns c.history,
      ∃ frequency, run.2.values = [frequency] ∧ 500 ≤ frequency ∧ frequency ≤ 6000 := by
  intro always
  obtain ⟨c, reached, checked⟩ := System.reaches_of_check Daemon.loneInverter.system
    Daemon.loneInverter.start
    [(.subscriber .inverter, .go), (.subscriber .inverter, .inverterMessage (.mainPump 5000)),
      (.subscriber .inverter, .go), (.subscriber .inverter, .go), (.subscriber .inverter, .go)]
    (fun c => c.history.all (returnsLimits 500 6000) &&
      pumpRuns c.history = [(5000, ⟨devFrequencyCmdReg, [0], .auto⟩)]) (by decide +kernel)
  rw [Bool.and_eq_true, List.all_eq_true, decide_eq_true_eq] at checked
  obtain ⟨frequency, queued, low, _⟩ := always c reached checked.1
    (5000, ⟨devFrequencyCmdReg, [0], .auto⟩) (by simp [checked.2])
  obtain rfl : 0 = frequency := by simpa using queued
  exact absurd low (by decide)

theorem mainPump_within_scanned : ∃ c, Daemon.loneInverter.Reachable c ∧
    pumpRuns c.history = [(5000, ⟨devFrequencyCmdReg, [3250], .auto⟩)] ∧
    ∃ frequency, [(3250 : Reg)] = [frequency] ∧ 500 ≤ frequency ∧ frequency ≤ 6000 := by
  obtain ⟨c, reached, checked⟩ := System.reaches_of_check Daemon.loneInverter.system
    Daemon.loneInverter.start
    (Daemon.inverterSteps [.go, .connected .ok, .go, .go, .go, .go, .go, .go,
        .answer (some [1]), .go, .answer (some [1, 2]), .go, .go,
        .answer (some [6000, 500, 0, 0]), .go, .go, .go, .go] ++
      [(ThreadId.subscriber .inverter, Choice.go),
        (.subscriber .inverter, .inverterMessage (.mainPump 5000)),
        (.subscriber .inverter, .go), (.subscriber .inverter, .go), (.subscriber .inverter, .go)])
    (fun c => c.history.all (returnsLimits 500 6000) && limitsKnown c.history &&
      pumpRuns c.history = [(5000, ⟨devFrequencyCmdReg, [3250], .auto⟩)]) (by decide +kernel)
  rw [Bool.and_eq_true, Bool.and_eq_true, List.all_eq_true, decide_eq_true_eq] at checked
  obtain ⟨⟨constant, known⟩, pushes⟩ := checked
  refine ⟨c, reached, pushes, ?_⟩
  have range : (500 : Reg) < 6000 := by decide
  exact mainPump_within Daemon.loneInverter_standard range reached constant known
    (5000, ⟨devFrequencyCmdReg, [3250], .auto⟩) (by simp [pushes])

end Runs

end Rs485Gateway
