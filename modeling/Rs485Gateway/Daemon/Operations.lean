import Rs485Gateway.Bus.Coord
import Rs485Gateway.Device.AlarmEngine
import Rs485Gateway.Device.CmdQueue

/-! What the daemon's threads ask of each other and of their devices.

A unit thread owns its transport, so transactions name only the serial line
they go over; pool, queues, flags and the bus table are shared. Marks have no
effect; they delimit one scan or one queue drain in the history. -/

namespace Rs485Gateway

open Interaction

inductive Rc where
  | ok
  | fail
  deriving DecidableEq

inductive DeviceKind where
  | inverter
  | ups
  deriving DecidableEq

structure UnitId where
  kind : DeviceKind
  index : Nat
  deriving DecidableEq

inductive ThreadId where
  | unit (id : UnitId)
  | subscriber (kind : DeviceKind)
  | alarmMonitor
  deriving DecidableEq

inductive Transport where
  | tcp
  | rtu (path : CStr) (baudRate : Int)
  deriving DecidableEq

structure ModuleConfig where
  modbusUid : Int
  transport : Transport

structure DeviceUnit where
  cfg : ModuleConfig
  profile : DeviceMapProfile

/-- Commands the inverter subscriber hands to its callbacks; numbers as `strtoul`
returns them, the duty in hundredths of a percent. -/
inductive InverterCommand where
  | operation (value : UInt64)
  | frequencyWrite (value : UInt64)
  | faultControl (value : UInt64)
  | mainPump (dutyVal : Reg)
  | initInverter (value : UInt64)
  | bypass (value : UInt64)
  deriving DecidableEq

inductive UpsCommand where
  | initUps (value : UInt64)
  | rebootUps (value : UInt64)
  deriving DecidableEq

abbrev Command : DeviceKind → Type
  | .inverter => InverterCommand
  | .ups => UpsCommand

inductive Mark where
  | scan (trackCommFail : Bool)
  | drain
  | leave
  deriving DecidableEq

inductive PoolReader where
  | handler
  | alarm (ctx entry : Nat)
  deriving DecidableEq

inductive DaemonOp where
  | message (kind : DeviceKind)
  | mark (mark : Mark)
  | busAcquire (path : Option CStr)
  | busRelease (path : Option CStr)
  | connect
  | disconnect
  | readHolding (line : Option CStr) (addr count : Reg)
  | writeSingle (line : Option CStr) (addr value : Reg)
  | writeMultiple (line : Option CStr) (addr : Reg) (values : List Reg)
  | poolStore (poolAddress value : Reg)
  | poolWrite (poolAddress value : Reg)
  | poolRead (reader : PoolReader) (poolAddress : Reg)
  | exchangeInit
  | exchangeReboot
  | requestInit (target : UnitId)
  | requestReboot (target : UnitId)
  | queuePop
  | queuePush (target : UnitId) (cmd : WriteCmd)
  | alarmEvent (ctx entry : Nat) (value : Reg) (event : AlarmEvent)
  deriving DecidableEq

abbrev DaemonOp.Res : DaemonOp → Type
  | message kind => Command kind
  | connect | writeSingle _ _ _ | writeMultiple _ _ _ => Rc
  | readHolding _ _ count => Option (Fin count.toNat → Reg)
  | poolRead _ _ => Option Reg
  | exchangeInit | exchangeReboot | queuePush _ _ => Bool
  | queuePop => Option WriteCmd
  | mark _ | busAcquire _ | busRelease _ | disconnect | poolStore _ _ | poolWrite _ _
  | requestInit _ | requestReboot _ | alarmEvent _ _ _ _ => Unit

/-- The do-while loop that drains a command queue, with the command in hand. -/
inductive DaemonLoop where
  | drain (unit : DeviceUnit) (cmd : WriteCmd)

abbrev daemonSig : Sig where
  Op := DaemonOp
  Res := DaemonOp.Res
  Loop := DaemonLoop
  Out := fun _ => Unit

abbrev DaemonProg := Prog daemonSig

abbrev DaemonEvent := Event daemonSig

def ask (operation : DaemonOp) : DaemonProg operation.Res :=
  Prog.op (S := daemonSig) operation Prog.ret

def isMark : DaemonOp → Bool
  | .mark _ => true
  | _ => false

def DaemonOp.transactionOn (path : CStr) : DaemonOp → Bool
  | readHolding line _ _ => line = some path
  | writeSingle line _ _ => line = some path
  | writeMultiple line _ _ => line = some path
  | _ => false

end Rs485Gateway
