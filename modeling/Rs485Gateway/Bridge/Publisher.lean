import Rs485Gateway.Bridge.DutyText
import Rs485Gateway.Cmos.RoundTrip
import Rs485Gateway.Daemon.StoredReads

/-! The publisher process of a bridge: what it reads out of the shared pool and publishes
(`inverter_cmos_pub_run`, `ups_cmos_pub_run`). -/

namespace Rs485Gateway

open Interaction Rs485Gateway.Lists

/-- What a publisher asks for. A step of the daemon answers with the daemon's history. -/
inductive PubOp where
  | poolRead (poolAddress : Reg)
  | publish (message : Message)
  | moveDaemon

abbrev PubOp.Res : PubOp → Type
  | poolRead _ => Option Reg
  | publish _ => Unit
  | moveDaemon => History

abbrev pubSig : Sig where
  Op := PubOp
  Res := PubOp.Res
  Loop := Empty
  Out := fun _ => Unit

abbrev PubProg := Prog pubSig

def pubAsk (operation : PubOp) : PubProg operation.Res :=
  Prog.op (S := pubSig) operation Prog.ret

def intFrequencyWriteCmdReg : Reg := 0xA10C
def intFaultWarningCodeReg : Reg := 0xA002
def intOutFrequencyReg : Reg := 0xA005

/-- The `description` column of `inverter1_mapping_table`. -/
def inverter1Descriptions : List String :=
  ["firmware_version", "frequency_cmd_source", "run_cmd_source", "frequency_upper_limit",
    "frequency_lower_limit", "acceleration_1", "deceleration_1", "s_speed_start", "s_speed_end",
    "s_deceleration_start", "s_deceleration_end", "slave_id", "baud_rate",
    "modbust_error_handle", "modbust_timeout_setting", "modbus_serial_format", "parameter_mode",
    "operation_commands", "frequency_write_commands", "fault_control_commands",
    "fault_warning_code", "inverter_operating_status", "frequency_read_command",
    "output_frequency", "output_current", "dc_bus_voltage", "motor_actual_speed",
    "pid_feedback_value"]

def ups1Descriptions : List String :=
  ["ups_warning_information_1", "ups_warning_information_2", "ups_warning_information_3",
    "ups_warning_information_4", "ups_p_battery_voltage", "ups_p_battery_discharging_current",
    "ups_p_battery_charging_current", "ups_battery_capacity", "ups_battery_remain_time",
    "ups_n_battery_voltage", "ups_n_battery_charging_current", "ups_battery_temperature",
    "ups_temperature_pfc", "ups_temperature_inv", "ups_temperature_bypass",
    "ups_max_temperature", "ups_mode_information", "ups_over_temperature_fault_recovery_value",
    "ups_over_temperature_warning_trigger_value", "ups_over_temperature_warning_recovery_value",
    "ups_fault_information", "ups_battery_shutdown_voltage", "ups_battery_low_voltage",
    "ups_pfc_fw_version_1", "ups_pfc_fw_version_2", "ups_pfc_fw_version_3",
    "ups_pfc_fw_version_4", "ups_pfc_fw_version_5", "ups_inv_fw_version_1",
    "ups_inv_fw_version_2", "ups_inv_fw_version_3", "ups_inv_fw_version_4",
    "ups_inv_fw_version_5", "ups_com_fw_version_1", "ups_com_fw_version_2",
    "ups_com_fw_version_3", "ups_com_fw_version_4", "ups_com_fw_version_5",
    "ups_lcd_fw_version_1", "ups_lcd_fw_version_2", "ups_lcd_fw_version_3",
    "ups_lcd_fw_version_4", "ups_lcd_fw_version_5", "ups_fbpn_1", "ups_fbpn_2", "ups_fbpn_3",
    "ups_fbpn_4", "ups_fbpn_5", "ups_battery_high_voltage"]

def descriptions : DeviceKind → List CStr
  | .inverter => inverter1Descriptions.map fun name => text name.toList
  | .ups => ups1Descriptions.map fun name => text name.toList

def described (kind : DeviceKind) : List (DeviceRegisterMapping × CStr) :=
  (unitProfile kind).table.zip (descriptions kind)

def alive : CStr := text "alive".toList
def disconnect : CStr := text "disconnect".toList

def valStr (printed : CStr) : CStr := printed.take 7

def connectionPubState (kind : DeviceKind) : PubProg CStr := do
  match ← pubAsk (.poolRead (statusReg kind)) with
  | none => pure disconnect
  | some conn => pure (if conn = 1 then alive else disconnect)

def publishPoolRegister (kind : DeviceKind) (type : Option CStr) (key : CStr)
    (poolAddress : Reg) : PubProg Unit := do
  let state ← connectionPubState kind
  match ← pubAsk (.poolRead poolAddress) with
  | none => pure ()
  | some val => pubAsk (.publish ⟨some state, type, some key, some (valStr (decimal val.toNat))⟩)

def publishRows (kind : DeviceKind) : List (DeviceRegisterMapping × CStr) → PubProg Unit
  | [] => pure ()
  | (row, description) :: rest => do
      publishPoolRegister kind none description row.poolAddress
      publishRows kind rest

def publishAllPoolRegister (kind : DeviceKind) : PubProg Unit := publishRows kind (described kind)

/-- `publish_frequency_cmd_duty` and `publish_frequency_out_duty`. -/
def publishFrequencyDuty (key : CStr) (poolAddress : Reg) : PubProg Unit := do
  let frequency ← pubAsk (.poolRead poolAddress)
  let upper ← pubAsk (.poolRead intFrequencyUpperLimitReg)
  let lower ← pubAsk (.poolRead intFrequencyLowerLimitReg)
  let duty := Daemon.frequencyDuty (frequency.getD 0) (upper.getD 0) (lower.getD 0)
  let state ← connectionPubState .inverter
  pubAsk (.publish ⟨some state, none, some key, some (valStr (dutyText duty))⟩)

def publishFaultWarningCode : PubProg Unit := do
  let rawValue := (← pubAsk (.poolRead intFaultWarningCodeReg)).getD 0
  let state ← connectionPubState .inverter
  pubAsk (.publish ⟨some state, none, some (text "fault_code".toList),
    some (valStr (decimal (rawValue &&& 0xFF).toNat))⟩)
  pubAsk (.publish ⟨some state, none, some (text "warning_code".toList),
    some (valStr (decimal (rawValue >>> 8 &&& 0xFF).toNat))⟩)

def publishAdditionalItem : DeviceKind → PubProg Unit
  | .inverter => do
      publishFrequencyDuty (text "duty_command".toList) intFrequencyWriteCmdReg
      publishFrequencyDuty (text "output_duty".toList) intOutFrequencyReg
      publishFaultWarningCode
      publishPoolRegister .inverter none (text "inverter_node".toList) intInverterInitFlagReg
  | .ups => publishPoolRegister .ups none (text "ups_node".toList) intUpsInitFlagReg

/-- One round of the loop, over the `enabled` fields of the configured units. -/
def pubRound (kind : DeviceKind) : List Bool → PubProg Unit
  | [] => pure ()
  | enabled :: rest => do
      if enabled then
        publishAllPoolRegister kind
        publishAdditionalItem kind
      pubRound kind rest

end Rs485Gateway
