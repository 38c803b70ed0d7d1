import Rs485Gateway.Bus.Coord
import Rs485Gateway.Lists.Ledger

/-! The serial ports of the RTU client (`modbus_rtu_client.c`): one record for each
`serial_path`, shared by reference count between the contexts connected to it. The log
keeps the descriptors opened and closed, newest first. -/

namespace Rs485Gateway

open Interaction Rs485Gateway.Lists

def mbRtuMaxSharedBuses : Nat := 8

def mbRtuPathSize : Nat := 256

inductive LineSpeed where
  | b1200
  | b2400
  | b4800
  | b9600
  | b19200
  | b38400
  | b57600
  | b115200
  deriving DecidableEq

def LineSpeed.baud : LineSpeed → UInt32
  | b1200 => 1200
  | b2400 => 2400
  | b4800 => 4800
  | b9600 => 9600
  | b19200 => 19200
  | b38400 => 38400
  | b57600 => 57600
  | b115200 => 115200

def mapBaudRate : UInt32 → LineSpeed
  | 1200 => .b1200
  | 2400 => .b2400
  | 4800 => .b4800
  | 9600 => .b9600
  | 19200 => .b19200
  | 38400 => .b38400
  | 57600 => .b57600
  | 115200 => .b115200
  | _ => .b9600

structure SharedBus where
  path : CStr
  inUse : Bool
  fd : Int
  refcnt : UInt32
  baudRate : UInt32
  hasLastTransaction : Bool
  deriving DecidableEq

def freshBus (path : CStr) : SharedBus where
  path := path.take (mbRtuPathSize - 1)
  inUse := true
  fd := -1
  refcnt := 0
  baudRate := 0
  hasLastTransaction := false

namespace SharedBus

def opened (bus : SharedBus) (fd : Int) (baudRate : UInt32) : SharedBus :=
  { bus with fd := fd, baudRate := baudRate, refcnt := 0, hasLastTransaction := false }

def closed (bus : SharedBus) : SharedBus :=
  { bus with fd := -1, hasLastTransaction := false }

def retained (bus : SharedBus) : SharedBus :=
  { bus with refcnt := bus.refcnt + 1 }

def released (bus : SharedBus) : SharedBus :=
  { bus with refcnt := if 0 < bus.refcnt then bus.refcnt - 1 else bus.refcnt }

end SharedBus

/-- What the system answers while a port is opened: `open`, `tcgetattr`, `tcsetattr`. -/
structure PortOpening where
  fd : Int
  tcgetattr : Int
  tcsetattr : Int

def configureSerialPort (opening : PortOpening) (baudRate : UInt32) : Option LineSpeed :=
  if opening.tcgetattr ≠ 0 then none
  else if opening.tcsetattr ≠ 0 then none
  else some (mapBaudRate baudRate)

/-- The records, and beside them the speed last programmed on each path's line. -/
structure SharedBuses where
  bus : Fin mbRtuMaxSharedBuses → SharedBus
  line : CStr → Option LineSpeed
  log : List (LedgerEvent Int)

def sharedBusesInit : SharedBuses where
  bus := fun _ => { path := [], inUse := false, fd := 0, refcnt := 0, baudRate := 0,
                    hasLastTransaction := false }
  line := fun _ => none
  log := []

namespace SharedBuses

def setBus (b : SharedBuses) (i : Fin mbRtuMaxSharedBuses) (bus : SharedBus) : SharedBuses :=
  { b with bus := assign b.bus i bus }

def logs (b : SharedBuses) (event : LedgerEvent Int) : SharedBuses :=
  { b with log := event :: b.log }

def programs (b : SharedBuses) (path : CStr) (speed : LineSpeed) : SharedBuses :=
  { b with line := assign b.line path (some speed) }

def acquireSharedBus (b : SharedBuses) (path : CStr) :
    Option (Fin mbRtuMaxSharedBuses × SharedBuses) :=
  match (List.finRange mbRtuMaxSharedBuses).find? fun i =>
      (b.bus i).inUse && decide ((b.bus i).path = path) with
  | some i => some (i, b)
  | none =>
      ((List.finRange mbRtuMaxSharedBuses).find? fun i => !(b.bus i).inUse).map fun i =>
        (i, b.setBus i (freshBus path))

/-- `none` is the result -1, otherwise the descriptor is handed out. -/
def sharedBusAttachPort (b : SharedBuses) (i : Fin mbRtuMaxSharedBuses) (baudRate : UInt32)
    (opening : PortOpening) : SharedBuses × Option Int :=
  let bus := b.bus i
  if bus.fd < 0 then
    if opening.fd < 0 then (b, none)
    else
      match configureSerialPort opening baudRate with
      | none => ((b.logs (.acquire opening.fd)).logs (.release opening.fd), none)
      | some speed =>
          (((b.logs (.acquire opening.fd)).programs bus.path speed).setBus i
            (bus.opened opening.fd baudRate).retained, some opening.fd)
  else if bus.baudRate ≠ baudRate then (b, none)
  else (b.setBus i bus.retained, some bus.fd)

def sharedBusDetachPort (b : SharedBuses) (i : Fin mbRtuMaxSharedBuses) : SharedBuses :=
  let bus := (b.bus i).released
  if bus.refcnt = 0 ∧ 0 ≤ bus.fd then (b.logs (.release bus.fd)).setBus i bus.closed
  else b.setBus i bus

end SharedBuses

structure MbRtuClientConfig where
  serialPath : Option CStr
  baudRate : UInt32

structure MbRtuClientCtx where
  fd : Int
  sharedBus : Option (Fin mbRtuMaxSharedBuses)
  cfg : MbRtuClientConfig

def MbRtuClientCtx.zero : MbRtuClientCtx where
  fd := 0
  sharedBus := none
  cfg := { serialPath := none, baudRate := 0 }

def MbRtuClientCtx.detached (cfg : MbRtuClientConfig) : MbRtuClientCtx where
  fd := -1
  sharedBus := none
  cfg := cfg

def MbRtuClientCtx.attachedTo (ctx : MbRtuClientCtx) : Option (Fin mbRtuMaxSharedBuses) :=
  if 0 ≤ ctx.fd then ctx.sharedBus else none

theorem MbRtuClientCtx.attachedTo_some {ctx : MbRtuClientCtx} {i : Fin mbRtuMaxSharedBuses} :
    ctx.attachedTo = some i ↔ 0 ≤ ctx.fd ∧ ctx.sharedBus = some i :=
  Option.ite_none_right_eq_some

structure SerialClients (Ctx : Type) where
  shared : SharedBuses
  ctxs : Ctx → MbRtuClientCtx

variable {Ctx : Type}

def serialClientsInit : SerialClients Ctx where
  shared := sharedBusesInit
  ctxs := fun _ => .zero

namespace SerialClients

def bus (s : SerialClients Ctx) : Fin mbRtuMaxSharedBuses → SharedBus := s.shared.bus

def log (s : SerialClients Ctx) : List (LedgerEvent Int) := s.shared.log

def line (s : SerialClients Ctx) : CStr → Option LineSpeed := s.shared.line

def attachedTo (s : SerialClients Ctx) (ctx : Ctx) : Option (Fin mbRtuMaxSharedBuses) :=
  (s.ctxs ctx).attachedTo

section Calls

variable [DecidableEq Ctx]

def settle (s : SerialClients Ctx) (shared : SharedBuses) (self : Ctx) (ctx : MbRtuClientCtx) :
    SerialClients Ctx where
  shared := shared
  ctxs := assign s.ctxs self ctx

def mbRtuClientConnect (s : SerialClients Ctx) (self : Ctx) (cfg : MbRtuClientConfig)
    (opening : PortOpening) : SerialClients Ctx × Int :=
  match cfg.serialPath with
  | none => (s, -1)
  | some path =>
      match s.shared.acquireSharedBus path with
      | none => (s.settle s.shared self (.detached cfg), -1)
      | some (i, shared) =>
          match shared.sharedBusAttachPort i cfg.baudRate opening with
          | (shared, none) =>
              (s.settle shared self (.detached cfg), -1)
          | (shared, some fd) =>
              (s.settle shared self { fd := fd, sharedBus := some i, cfg := cfg }, 0)

def mbRtuClientDisconnect (s : SerialClients Ctx) (self : Ctx) : SerialClients Ctx :=
  let ctx := s.ctxs self
  match ctx.sharedBus with
  | none => s
  | some i =>
      if 0 ≤ ctx.fd then s.settle (s.shared.sharedBusDetachPort i) self { ctx with fd := -1 }
      else s

end Calls

end SerialClients

section Lookup

variable {b b' : SharedBuses} {path : CStr} {i : Fin mbRtuMaxSharedBuses}

namespace SharedBuses

/-- Everything a successful lookup can do. -/
inductive Acquires (b : SharedBuses) (path : CStr) (i : Fin mbRtuMaxSharedBuses) :
    SharedBuses → Prop
  | known (inUse : (b.bus i).inUse = true) (named : (b.bus i).path = path) : Acquires b path i b
  | fresh (free : (b.bus i).inUse = false)
      (unknown : ∀ j, (b.bus j).inUse = true → (b.bus j).path ≠ path) :
      Acquires b path i (b.setBus i (freshBus path))

theorem acquireSharedBus_acquires (acquired : b.acquireSharedBus path = some (i, b')) :
    Acquires b path i b' := by
  unfold acquireSharedBus at acquired
  split at acquired
  case h_1 found =>
    cases acquired
    have present := List.find?_some found
    rw [Bool.and_eq_true, decide_eq_true_eq] at present
    exact .known present.1 present.2
  case h_2 absent =>
    rw [Option.map_eq_some_iff] at acquired
    rcases acquired with ⟨j, found, same⟩
    cases same
    have free := List.find?_some found
    apply Acquires.fresh
    · simpa using free
    · intro j inUse
      have rejected := List.find?_eq_none.mp absent j (List.mem_finRange j)
      simpa [inUse] using rejected

theorem acquireSharedBus_known
    (unique : ∀ i j, (b.bus i).inUse = true → (b.bus j).inUse = true →
      (b.bus i).path = (b.bus j).path → i = j)
    (inUse : (b.bus i).inUse = true) (named : (b.bus i).path = path) :
    b.acquireSharedBus path = some (i, b) := by
  unfold acquireSharedBus
  split
  case h_1 j found =>
    have present := List.find?_some found
    rw [Bool.and_eq_true, decide_eq_true_eq] at present
    rw [unique j i present.1 inUse (present.2.trans named.symm)]
  case h_2 absent =>
    have rejected := List.find?_eq_none.mp absent i (List.mem_finRange i)
    simp [inUse, named] at rejected

inductive Attaches (b : SharedBuses) (i : Fin mbRtuMaxSharedBuses) (baudRate : UInt32)
    (opening : PortOpening) : SharedBuses × Option Int → Prop
  | refused : Attaches b i baudRate opening (b, none)
  | returned (closed : (b.bus i).fd < 0) (valid : 0 ≤ opening.fd) :
      Attaches b i baudRate opening
        ((b.logs (.acquire opening.fd)).logs (.release opening.fd), none)
  | opened (closed : (b.bus i).fd < 0) (valid : 0 ≤ opening.fd) :
      Attaches b i baudRate opening
        (((b.logs (.acquire opening.fd)).programs (b.bus i).path (mapBaudRate baudRate)).setBus i
          ((b.bus i).opened opening.fd baudRate).retained, some opening.fd)
  | joined (isOpen : 0 ≤ (b.bus i).fd) (same : (b.bus i).baudRate = baudRate) :
      Attaches b i baudRate opening (b.setBus i (b.bus i).retained, some (b.bus i).fd)

theorem sharedBusAttachPort_attaches (b : SharedBuses) (i : Fin mbRtuMaxSharedBuses)
    (baudRate : UInt32) (opening : PortOpening) :
    Attaches b i baudRate opening (b.sharedBusAttachPort i baudRate opening) := by
  unfold sharedBusAttachPort
  by_cases closed : (b.bus i).fd < 0
  · rw [if_pos closed]
    by_cases failed : opening.fd < 0
    · rw [if_pos failed]
      exact .refused
    · rw [if_neg failed]
      have valid : 0 ≤ opening.fd := not_lt.mp failed
      unfold configureSerialPort
      by_cases unread : opening.tcgetattr ≠ 0
      · simp only [if_pos unread]
        exact .returned closed valid
      · by_cases unset : opening.tcsetattr ≠ 0
        · simp only [if_neg unread, if_pos unset]
          exact .returned closed valid
        · simp only [if_neg unread, if_neg unset]
          exact .opened closed valid
  · rw [if_neg closed]
    by_cases other : (b.bus i).baudRate ≠ baudRate
    · rw [if_pos other]
      exact .refused
    · rw [if_neg other]
      exact .joined (not_lt.mp closed) (not_not.mp other)

theorem attach_joined {baudRate : UInt32} {opening : PortOpening} (isOpen : 0 ≤ (b.bus i).fd)
    (same : (b.bus i).baudRate = baudRate) :
    b.sharedBusAttachPort i baudRate opening =
      (b.setBus i (b.bus i).retained, some (b.bus i).fd) := by
  simp [sharedBusAttachPort, not_lt.mpr isOpen, same]

theorem released_last (last : (b.bus i).refcnt = 1) : (b.bus i).released.refcnt = 0 := by
  simp [SharedBus.released, last]

theorem released_shared (shared : 1 < (b.bus i).refcnt.toNat) :
    (b.bus i).released.refcnt.toNat = (b.bus i).refcnt.toNat - 1 := by
  have positive : 0 < (b.bus i).refcnt := UInt32.lt_iff_toNat_lt.mpr (Nat.lt_of_succ_lt shared)
  have least : 1 ≤ (b.bus i).refcnt := UInt32.le_iff_toNat_le.mpr shared.le
  simp [SharedBus.released, positive, UInt32.toNat_sub_of_le _ _ least]

theorem detach_cases (b : SharedBuses) (i : Fin mbRtuMaxSharedBuses) :
    (0 ≤ (b.bus i).fd ∧ b.sharedBusDetachPort i =
      (b.logs (.release (b.bus i).fd)).setBus i (b.bus i).released.closed) ∨
    b.sharedBusDetachPort i = b.setBus i (b.bus i).released := by
  by_cases last : (b.bus i).released.refcnt = 0 ∧ 0 ≤ (b.bus i).released.fd
  · exact .inl ⟨last.2, if_pos last⟩
  · exact .inr (if_neg last)

/-- The last reference closes the port. -/
theorem detach_last (last : (b.bus i).refcnt = 1) (isOpen : 0 ≤ (b.bus i).fd) :
    b.sharedBusDetachPort i =
      (b.logs (.release (b.bus i).fd)).setBus i (b.bus i).released.closed := by
  have remains : (b.bus i).released.refcnt = 0 ∧ 0 ≤ (b.bus i).released.fd :=
    ⟨released_last last, isOpen⟩
  exact if_pos remains

theorem detach_shared (shared : 1 < (b.bus i).refcnt.toNat) :
    b.sharedBusDetachPort i = b.setBus i (b.bus i).released := by
  have fewer := released_shared shared
  apply if_neg
  intro last
  rw [last.1, UInt32.toNat_zero] at fewer
  omega

end SharedBuses

end Lookup

namespace SerialClients

variable [DecidableEq Ctx] {s : SerialClients Ctx} {self : Ctx} {cfg : MbRtuClientConfig}
  {opening : PortOpening}

inductive Connects (s : SerialClients Ctx) (self : Ctx) (cfg : MbRtuClientConfig)
    (opening : PortOpening) : SerialClients Ctx × Int → Prop
  | nowhere (unnamed : cfg.serialPath = none) : Connects s self cfg opening (s, -1)
  | full : Connects s self cfg opening (s.settle s.shared self (.detached cfg), -1)
  | failed {path : CStr} {i : Fin mbRtuMaxSharedBuses} {found shared : SharedBuses}
      (named : cfg.serialPath = some path) (acquired : s.shared.Acquires path i found)
      (attached : found.Attaches i cfg.baudRate opening (shared, none)) :
      Connects s self cfg opening (s.settle shared self (.detached cfg), -1)
  | connected {path : CStr} {i : Fin mbRtuMaxSharedBuses} {found shared : SharedBuses} {fd : Int}
      (named : cfg.serialPath = some path) (acquired : s.shared.Acquires path i found)
      (attached : found.Attaches i cfg.baudRate opening (shared, some fd)) :
      Connects s self cfg opening
        (s.settle shared self { fd := fd, sharedBus := some i, cfg := cfg }, 0)

theorem connect_connects (s : SerialClients Ctx) (self : Ctx) (cfg : MbRtuClientConfig)
    (opening : PortOpening) :
    Connects s self cfg opening (s.mbRtuClientConnect self cfg opening) := by
  unfold mbRtuClientConnect
  split
  case h_1 unnamed => exact .nowhere unnamed
  case h_2 path named =>
    split
    case h_1 => exact .full
    case h_2 i found acquired =>
      have attaches := found.sharedBusAttachPort_attaches i cfg.baudRate opening
      have acquires := SharedBuses.acquireSharedBus_acquires acquired
      rcases result : found.sharedBusAttachPort i cfg.baudRate opening with ⟨shared, _ | fd⟩
      · exact .failed named acquires (result ▸ attaches)
      · exact .connected named acquires (result ▸ attaches)

theorem connect_joined {path : CStr} {i : Fin mbRtuMaxSharedBuses}
    (named : cfg.serialPath = some path)
    (acquired : s.shared.acquireSharedBus path = some (i, s.shared))
    (isOpen : 0 ≤ (s.bus i).fd) (same : (s.bus i).baudRate = cfg.baudRate) :
    s.mbRtuClientConnect self cfg opening =
      (s.settle (s.shared.setBus i (s.bus i).retained) self
        { fd := (s.bus i).fd, sharedBus := some i, cfg := cfg }, 0) := by
  simp only [mbRtuClientConnect, named, acquired, SharedBuses.attach_joined isOpen same, bus]

theorem disconnect_detached (detached : s.attachedTo self = none) :
    s.mbRtuClientDisconnect self = s := by
  unfold mbRtuClientDisconnect
  cases record : (s.ctxs self).sharedBus with
  | none => simp [record]
  | some i =>
      have closed : ¬ 0 ≤ (s.ctxs self).fd := by
        intro isOpen
        have attached := MbRtuClientCtx.attachedTo_some.mpr ⟨isOpen, record⟩
        rw [attachedTo, attached] at detached
        cases detached
      simp [record, closed]

theorem disconnect_attached {i : Fin mbRtuMaxSharedBuses} (attached : s.attachedTo self = some i) :
    s.mbRtuClientDisconnect self =
      s.settle (s.shared.sharedBusDetachPort i) self { s.ctxs self with fd := -1 } := by
  have record := MbRtuClientCtx.attachedTo_some.mp attached
  simp [mbRtuClientDisconnect, record.1, record.2]

end SerialClients

end Rs485Gateway
