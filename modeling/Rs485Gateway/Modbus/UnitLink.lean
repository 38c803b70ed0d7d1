import Rs485Gateway.Modbus.SharedBusRuns

/-! What the transport context of a unit owns (`modbus_tcp_client.c`,
`modbus_rtu_client.c`): its mutex, and its socket if it has one. The descriptors of the
serial ports stay on the ledger of the shared records. -/

namespace Rs485Gateway

open Rs485Gateway.Lists

inductive LinkResource where
  | mutex
  | socket (fd : Int)
  deriving DecidableEq

structure UnitLink (Ctx : Type) where
  sock : Int
  serial : SerialClients Ctx
  log : List (LedgerEvent LinkResource)

/-- What the system answers to a TCP connect: `pthread_mutex_init`, `socket`, and whether
everything after the socket succeeds. -/
structure TcpOpening where
  mutexInit : Int
  sock : Int
  connected : Bool

variable {Ctx : Type}

namespace UnitLink

def logs (u : UnitLink Ctx) (event : LedgerEvent LinkResource) : UnitLink Ctx :=
  { u with log := event :: u.log }

def setSock (u : UnitLink Ctx) (sock : Int) : UnitLink Ctx :=
  { u with sock := sock }

def setSerial (u : UnitLink Ctx) (serial : SerialClients Ctx) : UnitLink Ctx :=
  { u with serial := serial }

def mbTcpConnect (u : UnitLink Ctx) (opening : TcpOpening) : UnitLink Ctx × Int :=
  if opening.sock < 0 then (u.setSock opening.sock, -1)
  else
    let u := (u.setSock opening.sock).logs (.acquire (.socket opening.sock))
    if opening.connected then (u, 0)
    else ((u.logs (.release (.socket opening.sock))).setSock (-1), -1)

def mbTcpClose (u : UnitLink Ctx) : UnitLink Ctx :=
  if 0 ≤ u.sock then (u.logs (.release (.socket u.sock))).setSock (-1) else u

def mbTcpClientConnect (u : UnitLink Ctx) (remoteHost : CStr) (port : UInt16)
    (opening : TcpOpening) : UnitLink Ctx × Int :=
  if remoteHost = [] ∨ port = 0 then (u, -1)
  else
    let u := u.setSock (-1)
    if opening.mutexInit ≠ 0 then (u, -1)
    else
      match (u.logs (.acquire .mutex)).mbTcpConnect opening with
      | (u, rc) => if rc ≠ 0 then ((u.logs (.release .mutex)).setSock (-1), -1) else (u, 0)

def mbTcpClientDisconnect (u : UnitLink Ctx) : UnitLink Ctx :=
  u.mbTcpClose.logs (.release .mutex)

/-- A request over TCP locks the mutex of a context that is connected. -/
def mbTcpClientRequest (u : UnitLink Ctx) : UnitLink Ctx :=
  if u.sock < 0 then u else u.logs (.use .mutex)

/-- A request over a serial port locks the mutex before it looks at the port. -/
def mbRtuClientRequest (u : UnitLink Ctx) : UnitLink Ctx :=
  u.logs (.use .mutex)

section Serial

variable [DecidableEq Ctx]

def mbRtuClientConnect (u : UnitLink Ctx) (self : Ctx) (path : CStr) (baudRate : UInt32)
    (opening : PortOpening) : UnitLink Ctx × Int :=
  match u.serial.mbRtuClientConnect self { serialPath := some path, baudRate := baudRate }
      opening with
  | (serial, rc) =>
      let u := (u.setSerial serial).logs (.acquire .mutex)
      if rc ≠ 0 then (u.logs (.release .mutex), -1) else (u, 0)

def mbRtuClientDisconnect (u : UnitLink Ctx) (self : Ctx) : UnitLink Ctx :=
  let u := u.logs (.use .mutex)
  (u.setSerial (u.serial.mbRtuClientDisconnect self)).logs (.release .mutex)

end Serial

structure Idle (u : UnitLink Ctx) : Prop where
  proper : Proper u.log
  free : held u.log = ∅

variable {u : UnitLink Ctx}

structure TcpLive (u : UnitLink Ctx) : Prop where
  proper : Proper u.log
  owns : held u.log = {.mutex, .socket u.sock}
  valid : 0 ≤ u.sock

structure RtuLive (u : UnitLink Ctx) : Prop where
  proper : Proper u.log
  owns : held u.log = {.mutex}

theorem Idle.setSock (idle : u.Idle) (sock : Int) : (u.setSock sock).Idle :=
  ⟨idle.proper, idle.free⟩

theorem Idle.setSerial (idle : u.Idle) (serial : SerialClients Ctx) : (u.setSerial serial).Idle :=
  ⟨idle.proper, idle.free⟩

theorem Idle.returned (idle : u.Idle) (r : LinkResource) :
    ((u.logs (.acquire r)).logs (.release r)).Idle where
  proper := by
    have free : r ∉ held u.log := by simp [idle.free]
    exact ⟨Finset.mem_insert_self _ _, free, idle.proper⟩
  free := by
    change (insert r (held u.log)).erase r = ∅
    simp [idle.free]

theorem Idle.returned_socket (idle : u.Idle) (fd : Int) :
    ((((u.logs (.acquire .mutex)).logs (.acquire (.socket fd))).logs
      (.release (.socket fd))).logs (.release .mutex)).Idle where
  proper := by simp [logs, idle.free, idle.proper]
  free := by
    change (((insert (.socket fd) (insert LinkResource.mutex (held u.log))).erase
      (.socket fd)).erase .mutex) = ∅
    simp [idle.free]

inductive TcpConnects (u : UnitLink Ctx) (opening : TcpOpening) : UnitLink Ctx × Int → Prop
  | noSocket : TcpConnects u opening (u.setSock opening.sock, -1)
  | failed : TcpConnects u opening
      ((((u.setSock opening.sock).logs (.acquire (.socket opening.sock))).logs
        (.release (.socket opening.sock))).setSock (-1), -1)
  | connected (valid : 0 ≤ opening.sock) : TcpConnects u opening
      ((u.setSock opening.sock).logs (.acquire (.socket opening.sock)), 0)

theorem mbTcpConnect_connects (u : UnitLink Ctx) (opening : TcpOpening) :
    TcpConnects u opening (u.mbTcpConnect opening) := by
  unfold mbTcpConnect
  by_cases noSocket : opening.sock < 0
  · rw [if_pos noSocket]
    exact .noSocket
  · rw [if_neg noSocket]
    cases connected : opening.connected with
    | false => exact .failed
    | true => exact .connected (not_lt.mp noSocket)

theorem Idle.mbTcpClientConnect (idle : u.Idle) (remoteHost : CStr) (port : UInt16)
    (opening : TcpOpening) :
    ((u.mbTcpClientConnect remoteHost port opening).2 = 0 ∧
        (u.mbTcpClientConnect remoteHost port opening).1.TcpLive) ∨
      ((u.mbTcpClientConnect remoteHost port opening).2 = -1 ∧
        (u.mbTcpClientConnect remoteHost port opening).1.Idle) := by
  unfold UnitLink.mbTcpClientConnect
  by_cases refused : remoteHost = [] ∨ port = 0
  · rw [if_pos refused]
    exact .inr ⟨rfl, idle⟩
  · rw [if_neg refused]
    by_cases uninitialised : opening.mutexInit ≠ 0
    · rw [if_pos uninitialised]
      exact .inr ⟨rfl, idle.setSock (-1)⟩
    · rw [if_neg uninitialised]
      have connects := mbTcpConnect_connects ((u.setSock (-1)).logs (.acquire .mutex)) opening
      generalize ((u.setSock (-1)).logs (.acquire .mutex)).mbTcpConnect opening = result at connects
      cases connects with
      | noSocket => exact .inr ⟨rfl, (idle.returned .mutex).setSock (-1)⟩
      | failed => exact .inr ⟨rfl, (idle.returned_socket opening.sock).setSock (-1)⟩
      | connected valid =>
          refine .inl ⟨rfl, ?_⟩
          constructor
          case proper =>
            change Proper (.acquire (.socket opening.sock) :: .acquire .mutex :: u.log)
            simp [idle.free, idle.proper]
          case owns =>
            change insert (.socket opening.sock) (insert .mutex (held u.log)) = _
            rw [idle.free, insert_empty_eq]
            exact Finset.pair_comm _ _
          case valid => exact valid

theorem mbTcpClientConnect_serial (u : UnitLink Ctx) (remoteHost : CStr) (port : UInt16)
    (opening : TcpOpening) :
    (u.mbTcpClientConnect remoteHost port opening).1.serial = u.serial := by
  unfold UnitLink.mbTcpClientConnect
  by_cases refused : remoteHost = [] ∨ port = 0
  · rw [if_pos refused]
  · rw [if_neg refused]
    by_cases uninitialised : opening.mutexInit ≠ 0
    · rw [if_pos uninitialised]
      rfl
    · rw [if_neg uninitialised]
      have connects := mbTcpConnect_connects ((u.setSock (-1)).logs (.acquire .mutex)) opening
      generalize ((u.setSock (-1)).logs (.acquire .mutex)).mbTcpConnect opening = result at connects
      cases connects with
      | noSocket => rfl
      | failed => rfl
      | connected valid => rfl

theorem mbTcpClientDisconnect_serial (u : UnitLink Ctx) :
    u.mbTcpClientDisconnect.serial = u.serial := by
  unfold mbTcpClientDisconnect mbTcpClose
  split <;> rfl

theorem mbTcpClientRequest_serial (u : UnitLink Ctx) :
    u.mbTcpClientRequest.serial = u.serial := by
  unfold mbTcpClientRequest
  split <;> rfl

theorem TcpLive.request (live : u.TcpLive) : u.mbTcpClientRequest.TcpLive := by
  have connected : u.mbTcpClientRequest = u.logs (.use .mutex) :=
    if_neg (not_lt.mpr live.valid)
  have locked : LinkResource.mutex ∈ held u.log := by simp [live.owns]
  rw [connected]
  exact ⟨⟨locked, live.proper⟩, live.owns, live.valid⟩

theorem TcpLive.disconnect (live : u.TcpLive) : u.mbTcpClientDisconnect.Idle := by
  have closed : u.mbTcpClose = (u.logs (.release (.socket u.sock))).setSock (-1) :=
    if_pos live.valid
  rw [mbTcpClientDisconnect, closed]
  constructor
  case proper =>
    change Proper (.release .mutex :: .release (.socket u.sock) :: u.log)
    simp [live.owns, live.proper]
  case free =>
    change ((held u.log).erase (.socket u.sock)).erase .mutex = ∅
    rw [live.owns]
    ext r
    simp only [Finset.mem_erase, Finset.mem_insert, Finset.mem_singleton, Finset.notMem_empty]
    tauto

theorem Idle.closed (idle : u.Idle) : held u.mbTcpClose.log = ∅ := by
  unfold mbTcpClose
  split
  · change (held u.log).erase (.socket u.sock) = ∅
    simp [idle.free]
  · exact idle.free

/-- A disconnect of a context that owns nothing destroys a mutex that is not there. -/
theorem Idle.tcpDisconnect (idle : u.Idle) : ¬ Proper u.mbTcpClientDisconnect.log := by
  intro proper
  have locked : LinkResource.mutex ∈ held u.mbTcpClose.log := proper.1
  rw [idle.closed] at locked
  cases locked

section Serial

variable [DecidableEq Ctx] {self : Ctx}

theorem Idle.mbRtuClientConnect (idle : u.Idle) (self : Ctx) (path : CStr) (baudRate : UInt32)
    (opening : PortOpening) :
    ((u.mbRtuClientConnect self path baudRate opening).2 = 0 ∧
        (u.mbRtuClientConnect self path baudRate opening).1.RtuLive) ∨
      ((u.mbRtuClientConnect self path baudRate opening).2 = -1 ∧
        (u.mbRtuClientConnect self path baudRate opening).1.Idle) := by
  unfold UnitLink.mbRtuClientConnect
  rcases u.serial.mbRtuClientConnect self { serialPath := some path, baudRate := baudRate }
    opening with ⟨serial, rc⟩
  by_cases failed : rc ≠ 0
  · simp only [if_pos failed]
    exact .inr ⟨trivial, (idle.setSerial serial).returned .mutex⟩
  · simp only [if_neg failed]
    refine .inl ⟨trivial, ?_⟩
    constructor
    case proper =>
      change Proper (.acquire .mutex :: u.log)
      simp [idle.free, idle.proper]
    case owns =>
      change insert .mutex (held u.log) = _
      rw [idle.free, insert_empty_eq]

theorem mbRtuClientConnect_serial (u : UnitLink Ctx) (self : Ctx) (path : CStr)
    (baudRate : UInt32) (opening : PortOpening) :
    (u.mbRtuClientConnect self path baudRate opening).1.serial =
      (u.serial.mbRtuClientConnect self { serialPath := some path, baudRate := baudRate }
        opening).1 := by
  unfold UnitLink.mbRtuClientConnect
  rcases u.serial.mbRtuClientConnect self { serialPath := some path, baudRate := baudRate }
    opening with ⟨serial, rc⟩
  simp only []
  split <;> rfl

omit [DecidableEq Ctx] in
theorem RtuLive.request (live : u.RtuLive) : u.mbRtuClientRequest.RtuLive := by
  have locked : LinkResource.mutex ∈ held u.log := by simp [live.owns]
  exact ⟨⟨locked, live.proper⟩, live.owns⟩

theorem RtuLive.disconnect (live : u.RtuLive) : (u.mbRtuClientDisconnect self).Idle where
  proper := by
    change Proper (.release .mutex :: .use .mutex :: u.log)
    simp [live.owns, live.proper]
  free := by
    change (held u.log).erase .mutex = ∅
    simp [live.owns]

theorem Idle.rtuDisconnect (idle : u.Idle) : ¬ Proper (u.mbRtuClientDisconnect self).log := by
  intro proper
  have locked : LinkResource.mutex ∈ held u.log := proper.2.1
  rw [idle.free] at locked
  cases locked

end Serial

end UnitLink

end Rs485Gateway
