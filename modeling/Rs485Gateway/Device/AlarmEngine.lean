import Rs485Gateway.Device.RegisterMap

/-! The register alarm engine (`alarm_engine.c`): one entry, one value. -/

namespace Rs485Gateway

inductive AlarmCond where
  | bitmask
  | range
  | change
  deriving DecidableEq

inductive AlarmEvent where
  | trigger
  | clear
  deriving DecidableEq

structure AlarmEntry where
  deviceAddress : Reg
  condition : AlarmCond
  loLimit : Reg
  hiLimit : Reg
  deriving DecidableEq

structure AlarmState where
  isActive : Bool
  prevValue : Reg
  deriving DecidableEq

def alarmStateInit : AlarmState where
  isActive := false
  prevValue := 0

def evalBitmask (entry : AlarmEntry) (value : Reg) : Bool :=
  value &&& entry.hiLimit = entry.hiLimit

def evalRange (entry : AlarmEntry) (value : Reg) : Bool :=
  value < entry.loLimit || value > entry.hiLimit

def evalChange (state : AlarmState) (value : Reg) : Bool :=
  value ≠ state.prevValue

def applySticky (state : AlarmState) (triggered : Bool) : AlarmState × Option AlarmEvent :=
  if triggered ∧ ¬ state.isActive then ({ state with isActive := true }, some .trigger)
  else if ¬ triggered ∧ state.isActive then ({ state with isActive := false }, some .clear)
  else (state, none)

/-- The body of the loop of `alarm_engine_run` after a successful read. -/
def evalEntry (entry : AlarmEntry) (state : AlarmState) (value : Reg) :
    AlarmState × Option AlarmEvent :=
  match entry.condition with
  | .bitmask => applySticky state (evalBitmask entry value)
  | .range => applySticky state (evalRange entry value)
  | .change =>
      ({ state with prevValue := value }, if evalChange state value then some .trigger else none)

/-- Unit alarm tables (`inverter_alarm.c`, `ups_alarm.c`). -/
def changeEntry (deviceAddress : Reg) : AlarmEntry where
  deviceAddress := deviceAddress
  condition := .change
  loLimit := 0
  hiLimit := 0

def inverterAlarmTable : List AlarmEntry := [changeEntry 0x2100]

def upsAlarmTable : List AlarmEntry :=
  [changeEntry 0x0000, changeEntry 0x0001, changeEntry 0x0002, changeEntry 0x0003,
    changeEntry 0x00D0, changeEntry 0x02A2]

end Rs485Gateway
