import Rs485Gateway.Daemon.UnitModules
import Rs485Gateway.Modbus.PortSharing

/-! The speed of the serial lines (`config_loader.c`, `modbus_rtu_client.c`,
`inverter_module.c`): what the loader accepts, what the first unit on a port programs,
and what an inverter is told. -/

namespace Rs485Gateway

def maxInverterCount : Nat := 10

def maxUpsCount : Nat := 10

def rtuBaudMin : Int := 4800

def rtuBaudMax : Int := 115200

def validateRtuBaud (baud : Int) : Bool :=
  decide (baud ≥ rtuBaudMin) && decide (baud ≤ rtuBaudMax) && decide (Int.tmod baud 100 = 0)

/-- An RTU entry, its path in 256 bytes with the terminator. -/
structure RtuEntry where
  path : CStr
  baudRate : Int
  fits : path.length < 256

/-- The checks of `validate_module_config` on the line. -/
def validateRtuLine (entry : RtuEntry) : Bool :=
  decide (entry.path ≠ []) && validateRtuBaud entry.baudRate

/-- The RTU entries of a configuration the loader accepts. -/
structure RtuConfig where
  inverter : List RtuEntry
  ups : List RtuEntry
  inverterCount : inverter.length ≤ maxInverterCount
  upsCount : ups.length ≤ maxUpsCount
  valid : ∀ entry ∈ inverter ++ ups, validateRtuLine entry = true

abbrev RtuConfig.Member (config : RtuConfig) : Type :=
  Fin config.inverter.length ⊕ Fin config.ups.length

namespace RtuConfig

variable {config : RtuConfig}

def entry (config : RtuConfig) : config.Member → RtuEntry
  | .inl i => config.inverter.get i
  | .inr i => config.ups.get i

def clientConfig (config : RtuConfig) (member : config.Member) : MbRtuClientConfig where
  serialPath := some (config.entry member).path
  baudRate := UInt32.ofInt (config.entry member).baudRate

def Calls (config : RtuConfig) : PortCall config.Member → Prop
  | .connect self cfg _ => cfg = config.clientConfig self
  | .disconnect _ => True

abbrev Run (config : RtuConfig) (s : SerialClients config.Member) : Prop :=
  SerialClients.Reach config.Calls (fun _ => True) s

structure SpeedAgrees (config : RtuConfig) (s : SerialClients config.Member)
    (member : config.Member) (speed : LineSpeed) : Prop where
  line : s.line (config.entry member).path = some speed
  rate : (speed.baud.toNat : Int) = (config.entry member).baudRate
  code : member.isLeft = true → ∃ code,
    inverterBaudConvert (UInt32.ofInt (config.entry member).baudRate) = some code ∧
      code.toNat * 100 = speed.baud.toNat

def SpeedsAgree (config : RtuConfig) (s : SerialClients config.Member) : Prop :=
  ∀ member i, s.attachedTo member = some i → ∃ speed, config.SpeedAgrees s member speed

/-- The accepted rates that the client can program. -/
def lineRates : List Int := [4800, 9600, 19200, 38400, 57600, 115200]

theorem lineRates_agree : ∀ rate ∈ lineRates,
    ((mapBaudRate (UInt32.ofInt rate)).baud.toNat : Int) = rate ∧
      (inverterBaudConvert (UInt32.ofInt rate)).map (fun code => code.toNat * 100) =
        some (mapBaudRate (UInt32.ofInt rate)).baud.toNat := by
  decide

theorem mem_lineRates {rate : Int} (valid : validateRtuBaud rate = true) (speed : LineSpeed)
    (same : (speed.baud.toNat : Int) = rate) : rate ∈ lineRates := by
  rw [← same] at valid ⊢
  cases speed with
  | b1200 => exact absurd valid (by decide)
  | b2400 => exact absurd valid (by decide)
  | b4800 => decide
  | b9600 => decide
  | b19200 => decide
  | b38400 => decide
  | b57600 => decide
  | b115200 => decide

theorem entry_mem (member : config.Member) :
    config.entry member ∈ config.inverter ++ config.ups := by
  cases member with
  | inl i => exact List.mem_append_left _ (List.get_mem _ _)
  | inr i => exact List.mem_append_right _ (List.get_mem _ _)

theorem entry_valid (member : config.Member) :
    validateRtuBaud (config.entry member).baudRate = true := by
  have valid := config.valid _ (entry_mem member)
  rw [validateRtuLine, Bool.and_eq_true] at valid
  exact valid.2

theorem countable (s : SerialClients config.Member) : s.Countable := by
  intro i
  have few : Fintype.card config.Member ≤ maxInverterCount + maxUpsCount := by
    rw [Fintype.card_sum, Fintype.card_fin, Fintype.card_fin]
    exact Nat.add_le_add config.inverterCount config.upsCount
  calc
    (s.members i).ncard ≤ Fintype.card config.Member := by
      rw [← Nat.card_eq_fintype_card]
      exact Set.ncard_le_card _
    _ ≤ maxInverterCount + maxUpsCount := few
    _ < 2 ^ 32 := by decide

variable {s : SerialClients config.Member} {member : config.Member}

theorem calls_short {call : PortCall config.Member} (own : config.Calls call) : call.Short := by
  cases call with
  | connect self cfg opening =>
      rw [Calls] at own
      subst own
      intro path named
      cases named
      exact (config.entry self).fits
  | disconnect self => trivial

theorem Run.inv (run : config.Run s) : s.Inv :=
  (run.weaken (fun _ own => calls_short own) (fun s _ => countable s)).inv

theorem Run.line (run : config.Run s) {i : Fin mbRtuMaxSharedBuses}
    (attached : s.attachedTo member = some i) :
    s.line (config.entry member).path =
      some (mapBaudRate (UInt32.ofInt (config.entry member).baudRate)) := by
  have own : (s.ctxs member).cfg = config.clientConfig member :=
    run.configured (fun _ _ _ own => own) member (by simp [attached])
  have named : (s.ctxs member).cfg.serialPath = some (config.entry member).path := by
    rw [own]
    rfl
  have programmed := run.inv.line attached named
  rw [own] at programmed
  exact programmed

theorem run_first (config : RtuConfig) (member : config.Member) :
    config.Run (serialClientsInit.step
      (.connect member (config.clientConfig member) SerialClients.goodOpening)) :=
  .step .init rfl ⟨rfl, (by decide : (3 : Int) ∉ Lists.held [])⟩ trivial

theorem attached_first (config : RtuConfig) (member : config.Member) :
    (serialClientsInit.step (.connect member (config.clientConfig member)
      SerialClients.goodOpening)).attachedTo member = some SerialClients.firstBus := by
  have named : (config.clientConfig member).serialPath = some (config.entry member).path := rfl
  have connected := SerialClients.connect_first member named (config.entry member).fits
  rw [SerialClients.step, connected, SerialClients.attachedTo, SerialClients.settle_self]
  rfl

theorem SpeedsAgree.supported (always : ∀ s, config.Run s → config.SpeedsAgree s)
    (member : config.Member) : (config.entry member).baudRate ∈ lineRates := by
  rcases always _ (run_first config member) member _ (attached_first config member) with
    ⟨speed, agrees⟩
  exact mem_lineRates (entry_valid member) speed agrees.rate

theorem Run.agrees (run : config.Run s) {i : Fin mbRtuMaxSharedBuses}
    (attached : s.attachedTo member = some i)
    (supported : (config.entry member).baudRate ∈ lineRates) :
    ∃ speed, config.SpeedAgrees s member speed := by
  have agree := lineRates_agree _ supported
  refine ⟨mapBaudRate (UInt32.ofInt (config.entry member).baudRate), run.line attached,
    agree.1, ?_⟩
  intro _
  exact Option.map_eq_some_iff.mp agree.2

/-- The speeds agree in every run of the units exactly when every configured rate is one
the client can program. -/
theorem speeds_agree (config : RtuConfig) :
    (∀ s, config.Run s → config.SpeedsAgree s) ↔
      ∀ member, (config.entry member).baudRate ∈ lineRates := by
  constructor
  · intro always member
    exact SpeedsAgree.supported always member
  · intro supported s run member i attached
    exact run.agrees attached (supported member)

def oddConfig : RtuConfig where
  inverter := [{ path := ttyS1, baudRate := 14400, fits := by decide }]
  ups := []
  inverterCount := by decide
  upsCount := by decide
  valid := by decide

theorem oddConfig_disagrees : ¬ ∀ s, oddConfig.Run s → oddConfig.SpeedsAgree s := by
  intro always
  have supported := SpeedsAgree.supported always (.inl ⟨0, by decide⟩)
  exact absurd supported (by decide)

end RtuConfig

end Rs485Gateway
