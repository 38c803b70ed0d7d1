import Rs485Gateway.Modbus.UnitLink

/-! The thread of a unit (`inverter_thread`, `ups_thread`) and what its transport context
owns on the way: every outcome of its callbacks, a stop request at any moment, and other
units at work on the shared ports in between. -/

namespace Rs485Gateway

open Rs485Gateway.Lists

inductive LinkFormat where
  | tcp (ip : CStr) (port : UInt16)
  | rtu (path : CStr) (baudRate : UInt32)

structure LinkUnit (Ctx : Type) where
  self : Ctx
  format : LinkFormat
  tableCount : Nat
  fits : ∀ path baudRate, format = .rtu path baudRate → path.length < mbRtuPathSize

/-- What `unit_connect` meets: the answers to the open, the answer to the probe, and the
number of requests after it. -/
structure ConnectAnswers where
  tcp : TcpOpening
  port : PortOpening
  probe : Bool
  requests : Nat

structure ProcessAnswers where
  requests : Nat
  ok : Bool

variable {Ctx : Type}

namespace LinkUnit

def request (unit : LinkUnit Ctx) (u : UnitLink Ctx) : UnitLink Ctx :=
  match unit.format with
  | .tcp _ _ => u.mbTcpClientRequest
  | .rtu _ _ => u.mbRtuClientRequest

def requests (unit : LinkUnit Ctx) : Nat → UnitLink Ctx → UnitLink Ctx
  | 0, u => u
  | n + 1, u => unit.requests n (unit.request u)

section Serial

variable [DecidableEq Ctx]

def unitDisconnect (unit : LinkUnit Ctx) (u : UnitLink Ctx) : UnitLink Ctx :=
  match unit.format with
  | .tcp _ _ => u.mbTcpClientDisconnect
  | .rtu _ _ => u.mbRtuClientDisconnect unit.self

/-- The probe of a profile with a table, and the requests that follow it. -/
def probeDevice (unit : LinkUnit Ctx) (u : UnitLink Ctx) (answers : ConnectAnswers) :
    UnitLink Ctx × Int :=
  if 0 < unit.tableCount then
    if answers.probe then (unit.requests answers.requests (unit.request u), 0)
    else (unit.unitDisconnect (unit.request u), -1)
  else (unit.requests answers.requests u, 0)

def unitConnect (unit : LinkUnit Ctx) (u : UnitLink Ctx) (answers : ConnectAnswers) :
    UnitLink Ctx × Int :=
  match unit.format with
  | .tcp ip port => u.mbTcpClientConnect ip port answers.tcp
  | .rtu path baudRate =>
      let opened := u.mbRtuClientConnect unit.self path baudRate answers.port
      if opened.2 ≠ 0 then (opened.1, -1) else unit.probeDevice opened.1 answers

end Serial

end LinkUnit

inductive ThreadPoint where
  | reconnecting
  | polling
  | stopped
  deriving DecidableEq

inductive CallbackResult where
  | connected
  | connectFailed
  | processed
  | processFailed
  deriving DecidableEq

structure UnitThread (Ctx : Type) where
  point : ThreadPoint
  running : Bool
  link : UnitLink Ctx
  results : List CallbackResult

inductive ThreadAction (Ctx : Type) where
  | stop
  | elsewhere (call : PortCall Ctx)
  | turn (connect : ConnectAnswers) (process : ProcessAnswers)

variable [DecidableEq Ctx]

namespace UnitThread

/-- The contexts are zeroed, and the serial descriptor is set to -1. -/
def start (unit : LinkUnit Ctx) : UnitThread Ctx where
  point := .reconnecting
  running := true
  link :=
    { sock := 0
      serial := serialClientsInit.settle sharedBusesInit unit.self
        { MbRtuClientCtx.zero with fd := -1 }
      log := [] }
  results := []

def setLink (t : UnitThread Ctx) (point : ThreadPoint) (link : UnitLink Ctx) : UnitThread Ctx :=
  { t with point := point, link := link }

def result (t : UnitThread Ctx) (result : CallbackResult) : UnitThread Ctx :=
  { t with results := result :: t.results }

def turn (unit : LinkUnit Ctx) (t : UnitThread Ctx) (connect : ConnectAnswers)
    (process : ProcessAnswers) : UnitThread Ctx :=
  match t.point with
  | .reconnecting =>
      if t.running then
        let opened := unit.unitConnect t.link connect
        if opened.2 ≠ 0 then (t.setLink .reconnecting opened.1).result .connectFailed
        else (t.setLink .polling opened.1).result .connected
      else t.setLink .stopped (unit.unitDisconnect t.link)
  | .polling =>
      if t.running then
        let link := unit.requests process.requests t.link
        if process.ok then (t.setLink .polling link).result .processed
        else (t.setLink .reconnecting (unit.unitDisconnect link)).result .processFailed
      else t.setLink .reconnecting t.link
  | .stopped => t

def step (unit : LinkUnit Ctx) (t : UnitThread Ctx) : ThreadAction Ctx → UnitThread Ctx
  | .stop => { t with running := false }
  | .elsewhere call => t.setLink t.point (t.link.setSerial (t.link.serial.step call))
  | .turn connect process => t.turn unit connect process

/-- Other units call for their own contexts, and `open` answers with a descriptor not
open. -/
def Legal (unit : LinkUnit Ctx) (t : UnitThread Ctx) : ThreadAction Ctx → Prop
  | .stop => True
  | .elsewhere (.connect other cfg opening) =>
      other ≠ unit.self ∧ cfg.Short ∧ opening.fd ∉ held t.link.serial.log
  | .elsewhere (.disconnect other) => other ≠ unit.self
  | .turn connect _ => connect.port.fd ∉ held t.link.serial.log

inductive Reach (unit : LinkUnit Ctx) : UnitThread Ctx → Prop
  | start : Reach unit (start unit)
  | step {t : UnitThread Ctx} {action : ThreadAction Ctx} (before : Reach unit t)
      (legal : t.Legal unit action) : Reach unit (t.step unit action)

/-- Every close is of a descriptor opened and not closed since, and every lock or destroy
of a mutex initialised and not destroyed since. -/
structure Owned (t : UnitThread Ctx) : Prop where
  context : Proper t.link.log
  ports : Proper t.link.serial.log

def Connected (t : UnitThread Ctx) : Prop :=
  t.results.head? = some .connected ∨ t.results.head? = some .processed

end UnitThread

namespace LinkUnit

variable {unit : LinkUnit Ctx} {u : UnitLink Ctx}

def Up (unit : LinkUnit Ctx) (u : UnitLink Ctx) : Prop :=
  match unit.format with
  | .tcp _ _ => u.TcpLive
  | .rtu _ _ => u.RtuLive

omit [DecidableEq Ctx] in
theorem Up.proper (up : unit.Up u) : Proper u.log := by
  unfold Up at up
  split at up
  · exact up.proper
  · exact up.proper

omit [DecidableEq Ctx] in
theorem Up.setSerial (up : unit.Up u) (serial : SerialClients Ctx) :
    unit.Up (u.setSerial serial) := by
  unfold Up at up ⊢
  split at up
  · exact ⟨up.proper, up.owns, up.valid⟩
  · exact ⟨up.proper, up.owns⟩

omit [DecidableEq Ctx] in
theorem Up.request (up : unit.Up u) : unit.Up (unit.request u) := by
  unfold Up LinkUnit.request at *
  cases format : unit.format with
  | tcp ip port =>
      rw [format] at up
      exact UnitLink.TcpLive.request up
  | rtu path baudRate =>
      rw [format] at up
      exact UnitLink.RtuLive.request up

omit [DecidableEq Ctx] in
theorem Up.requests (n : Nat) (up : unit.Up u) : unit.Up (unit.requests n u) := by
  induction n generalizing u with
  | zero => exact up
  | succ n ih => exact ih up.request

theorem Up.disconnect (up : unit.Up u) : (unit.unitDisconnect u).Idle := by
  unfold Up at up
  unfold unitDisconnect
  cases format : unit.format with
  | tcp ip port =>
      rw [format] at up
      exact UnitLink.TcpLive.disconnect up
  | rtu path baudRate =>
      rw [format] at up
      exact UnitLink.RtuLive.disconnect up

theorem disconnect_unowned (idle : u.Idle) : ¬ Proper (unit.unitDisconnect u).log := by
  unfold unitDisconnect
  cases unit.format with
  | tcp ip port => exact idle.tcpDisconnect
  | rtu path baudRate => exact idle.rtuDisconnect

def Connects (unit : LinkUnit Ctx) (result : UnitLink Ctx × Int) : Prop :=
  (result.2 = 0 ∧ unit.Up result.1) ∨ (result.2 = -1 ∧ result.1.Idle)

theorem Up.probe (up : unit.Up u) (answers : ConnectAnswers) :
    unit.Connects (unit.probeDevice u answers) := by
  unfold probeDevice
  by_cases table : 0 < unit.tableCount
  · rw [if_pos table]
    cases answers.probe with
    | true => exact .inl ⟨rfl, up.request.requests answers.requests⟩
    | false => exact .inr ⟨rfl, up.request.disconnect⟩
  · rw [if_neg table]
    exact .inl ⟨rfl, up.requests answers.requests⟩

theorem connects (unit : LinkUnit Ctx) (idle : u.Idle) (answers : ConnectAnswers) :
    unit.Connects (unit.unitConnect u answers) := by
  unfold unitConnect
  cases format : unit.format with
  | tcp ip port =>
      have connected := idle.mbTcpClientConnect ip port answers.tcp
      have live : unit.Up = UnitLink.TcpLive := by
        funext u
        rw [Up, format]
      rw [Connects, live]
      exact connected
  | rtu path baudRate =>
      have live : unit.Up = UnitLink.RtuLive := by
        funext u
        rw [Up, format]
      rcases idle.mbRtuClientConnect unit.self path baudRate answers.port with
        ⟨success, up⟩ | ⟨failure, idle⟩
      · have zero : ¬ (u.mbRtuClientConnect unit.self path baudRate answers.port).2 ≠ 0 :=
          not_not.mpr success
        simp only [if_neg zero]
        exact Up.probe (live ▸ up) answers
      · have nonzero : (u.mbRtuClientConnect unit.self path baudRate answers.port).2 ≠ 0 := by
          omega
        simp only [if_pos nonzero]
        exact .inr ⟨rfl, idle⟩

/-! The records of the serial ports stay sound. -/

omit [DecidableEq Ctx] in
theorem request_serial (unit : LinkUnit Ctx) (u : UnitLink Ctx) :
    (unit.request u).serial = u.serial := by
  unfold request
  cases unit.format with
  | tcp ip port => exact u.mbTcpClientRequest_serial
  | rtu path baudRate => rfl

omit [DecidableEq Ctx] in
theorem requests_serial (unit : LinkUnit Ctx) (n : Nat) (u : UnitLink Ctx) :
    (unit.requests n u).serial = u.serial := by
  induction n generalizing u with
  | zero => rfl
  | succ n ih => exact (ih _).trans (unit.request_serial u)

theorem disconnect_sound (sound : u.serial.Sound) : (unit.unitDisconnect u).serial.Sound := by
  unfold unitDisconnect
  cases unit.format with
  | tcp ip port =>
      rw [u.mbTcpClientDisconnect_serial]
      exact sound
  | rtu path baudRate => exact sound.disconnect

theorem probe_sound (sound : u.serial.Sound) (answers : ConnectAnswers) :
    (unit.probeDevice u answers).1.serial.Sound := by
  have probed : (unit.request u).serial.Sound := by
    rw [unit.request_serial]
    exact sound
  unfold probeDevice
  by_cases table : 0 < unit.tableCount
  · rw [if_pos table]
    cases answers.probe with
    | true =>
        change (unit.requests answers.requests (unit.request u)).serial.Sound
        rw [unit.requests_serial]
        exact probed
    | false => exact disconnect_sound probed
  · rw [if_neg table]
    change (unit.requests answers.requests u).serial.Sound
    rw [unit.requests_serial]
    exact sound

theorem connect_sound (unit : LinkUnit Ctx) (sound : u.serial.Sound) (answers : ConnectAnswers)
    (fresh : answers.port.fd ∉ held u.serial.log) :
    (unit.unitConnect u answers).1.serial.Sound := by
  unfold unitConnect
  cases format : unit.format with
  | tcp ip port =>
      change (u.mbTcpClientConnect ip port answers.tcp).1.serial.Sound
      rw [u.mbTcpClientConnect_serial]
      exact sound
  | rtu path baudRate =>
      have short : MbRtuClientConfig.Short { serialPath := some path, baudRate := baudRate } := by
        intro name named
        cases named
        exact unit.fits path baudRate format
      have after : (u.mbRtuClientConnect unit.self path baudRate answers.port).1.serial.Sound := by
        rw [u.mbRtuClientConnect_serial]
        exact sound.connect fresh short
      by_cases failed : (u.mbRtuClientConnect unit.self path baudRate answers.port).2 ≠ 0
      · simp only [if_pos failed]
        exact after
      · simp only [if_neg failed]
        exact probe_sound after answers

end LinkUnit

namespace UnitThread

variable {unit : LinkUnit Ctx} {t : UnitThread Ctx}

def Owns (unit : LinkUnit Ctx) (t : UnitThread Ctx) : Prop :=
  match t.point with
  | .polling => t.Connected ∧ unit.Up t.link
  | .reconnecting => (t.Connected ∧ t.running = false ∧ unit.Up t.link) ∨
      (¬ t.Connected ∧ t.link.Idle)
  | .stopped => (t.Connected ∧ t.link.Idle) ∨ (¬ t.Connected ∧ ¬ Proper t.link.log)

structure Inv (unit : LinkUnit Ctx) (t : UnitThread Ctx) : Prop where
  sound : t.link.serial.Sound
  owns : t.Owns unit

omit [DecidableEq Ctx] in
theorem connected_connected (point : ThreadPoint) (link : UnitLink Ctx) :
    ((t.setLink point link).result .connected).Connected :=
  .inl rfl

omit [DecidableEq Ctx] in
theorem connected_processed (point : ThreadPoint) (link : UnitLink Ctx) :
    ((t.setLink point link).result .processed).Connected :=
  .inr rfl

omit [DecidableEq Ctx] in
theorem not_connected (point : ThreadPoint) (link : UnitLink Ctx) {result : CallbackResult}
    (failed : result = .connectFailed ∨ result = .processFailed) :
    ¬ ((t.setLink point link).result result).Connected := by
  rcases failed with rfl | rfl
  · simp [Connected, UnitThread.result]
  · simp [Connected, UnitThread.result]

theorem start_inv (unit : LinkUnit Ctx) : Inv unit (start unit) := by
  constructor
  case sound =>
    apply SerialClients.init_sound.settle SharedBuses.init_wellFormed
    case kept => exact fun _ used => used
    case settles =>
      intro i attached
      cases attached
  case owns => exact .inr ⟨by simp [Connected, start], proper_nil, rfl⟩

theorem Inv.stop (inv : Inv unit t) : Inv unit (t.step unit .stop) where
  sound := inv.sound
  owns := by
    rcases t with ⟨point, running, link, results⟩
    cases point with
    | polling => exact inv.owns
    | stopped => exact inv.owns
    | reconnecting =>
        rcases inv.owns with ⟨connected, stopping, up⟩ | ⟨failed, idle⟩
        · exact .inl ⟨connected, rfl, up⟩
        · exact .inr ⟨failed, idle⟩

omit [DecidableEq Ctx] in
theorem Owns.setSerial (owns : t.Owns unit) (serial : SerialClients Ctx) :
    (t.setLink t.point (t.link.setSerial serial)).Owns unit := by
  rcases t with ⟨point, running, link, results⟩
  cases point with
  | polling => exact ⟨owns.1, owns.2.setSerial serial⟩
  | stopped =>
      rcases owns with ⟨connected, idle⟩ | ⟨failed, improper⟩
      · exact .inl ⟨connected, idle.setSerial serial⟩
      · exact .inr ⟨failed, improper⟩
  | reconnecting =>
      rcases owns with ⟨connected, stopping, up⟩ | ⟨failed, idle⟩
      · exact .inl ⟨connected, stopping, up.setSerial serial⟩
      · exact .inr ⟨failed, idle.setSerial serial⟩

theorem Inv.elsewhere (inv : Inv unit t) {call : PortCall Ctx}
    (legal : t.Legal unit (.elsewhere call)) : Inv unit (t.step unit (.elsewhere call)) where
  sound := by
    cases call with
    | connect other cfg opening => exact inv.sound.connect legal.2.2 legal.2.1
    | disconnect other => exact inv.sound.disconnect
  owns := inv.owns.setSerial _

omit [DecidableEq Ctx] in
theorem Inv.idle (inv : Inv unit t) (here : t.point = .reconnecting)
    (running : t.running = true) : t.link.Idle := by
  have owns := inv.owns
  rw [Owns, here] at owns
  rcases owns with ⟨connected, stopping, up⟩ | ⟨failed, idle⟩
  · rw [running] at stopping
    cases stopping
  · exact idle

omit [DecidableEq Ctx] in
theorem Inv.polling (inv : Inv unit t) (here : t.point = .polling) :
    t.Connected ∧ unit.Up t.link := by
  have owns := inv.owns
  rw [Owns, here] at owns
  exact owns

theorem Inv.reconnect (inv : Inv unit t) (here : t.point = .reconnecting)
    (running : t.running = true) (connect : ConnectAnswers) (process : ProcessAnswers)
    (fresh : connect.port.fd ∉ held t.link.serial.log) :
    Inv unit (t.turn unit connect process) := by
  have sound := unit.connect_sound inv.sound connect fresh
  rcases unit.connects (inv.idle here running) connect with ⟨success, up⟩ | ⟨failure, idle⟩
  · have turned : t.turn unit connect process =
        (t.setLink .polling (unit.unitConnect t.link connect).1).result .connected := by
      simp [UnitThread.turn, here, running, success]
    rw [turned]
    exact ⟨sound, connected_connected _ _, up⟩
  · have turned : t.turn unit connect process =
        (t.setLink .reconnecting (unit.unitConnect t.link connect).1).result .connectFailed := by
      simp [UnitThread.turn, here, running, failure]
    rw [turned]
    exact ⟨sound, .inr ⟨not_connected _ _ (.inl rfl), idle⟩⟩

theorem Inv.leave (inv : Inv unit t) (here : t.point = .reconnecting)
    (stopping : t.running = false) (connect : ConnectAnswers) (process : ProcessAnswers) :
    Inv unit (t.turn unit connect process) := by
  have turned : t.turn unit connect process =
      t.setLink .stopped (unit.unitDisconnect t.link) := by
    simp [UnitThread.turn, here, stopping]
  have owns := inv.owns
  rw [Owns, here] at owns
  rw [turned]
  constructor
  case sound => exact LinkUnit.disconnect_sound inv.sound
  case owns =>
    rcases owns with ⟨connected, stopping, up⟩ | ⟨failed, idle⟩
    · exact .inl ⟨connected, up.disconnect⟩
    · exact .inr ⟨failed, LinkUnit.disconnect_unowned idle⟩

theorem Inv.poll (inv : Inv unit t) (here : t.point = .polling) (running : t.running = true)
    (connect : ConnectAnswers) (process : ProcessAnswers) :
    Inv unit (t.turn unit connect process) := by
  have up := (inv.polling here).2.requests process.requests
  have sound : (unit.requests process.requests t.link).serial.Sound := by
    rw [unit.requests_serial]
    exact inv.sound
  cases outcome : process.ok with
  | true =>
      have turned : t.turn unit connect process =
          (t.setLink .polling (unit.requests process.requests t.link)).result .processed := by
        simp [UnitThread.turn, here, running, outcome]
      rw [turned]
      exact ⟨sound, connected_processed _ _, up⟩
  | false =>
      have turned : t.turn unit connect process = (t.setLink .reconnecting
          (unit.unitDisconnect (unit.requests process.requests t.link))).result
            .processFailed := by
        simp [UnitThread.turn, here, running, outcome]
      rw [turned]
      exact ⟨LinkUnit.disconnect_sound sound,
        .inr ⟨not_connected _ _ (.inr rfl), up.disconnect⟩⟩

theorem Inv.turn (inv : Inv unit t) (connect : ConnectAnswers) (process : ProcessAnswers)
    (fresh : connect.port.fd ∉ held t.link.serial.log) :
    Inv unit (t.turn unit connect process) := by
  cases here : t.point with
  | reconnecting =>
      cases running : t.running with
      | true => exact inv.reconnect here running connect process fresh
      | false => exact inv.leave here running connect process
  | polling =>
      cases running : t.running with
      | true => exact inv.poll here running connect process
      | false =>
          have turned : t.turn unit connect process = t.setLink .reconnecting t.link := by
            simp [UnitThread.turn, here, running]
          have owns := inv.polling here
          rw [turned]
          exact ⟨inv.sound, .inl ⟨owns.1, running, owns.2⟩⟩
  | stopped =>
      have turned : t.turn unit connect process = t := by
        simp [UnitThread.turn, here]
      rw [turned]
      exact inv

theorem Inv.step (inv : Inv unit t) {action : ThreadAction Ctx} (legal : t.Legal unit action) :
    Inv unit (t.step unit action) := by
  cases action with
  | stop => exact inv.stop
  | elsewhere call => exact inv.elsewhere legal
  | turn connect process => exact inv.turn connect process legal

theorem Reach.inv (reached : Reach unit t) : Inv unit t := by
  induction reached with
  | start => exact start_inv unit
  | step before legal ih => exact ih.step legal

omit [DecidableEq Ctx] in
theorem Inv.proper (inv : Inv unit t) (live : t.point = .stopped → t.Connected) :
    Proper t.link.log := by
  have owns := inv.owns
  cases here : t.point with
  | polling => exact (inv.polling here).2.proper
  | reconnecting =>
      rw [Owns, here] at owns
      rcases owns with ⟨connected, stopping, up⟩ | ⟨failed, idle⟩
      · exact up.proper
      · exact idle.proper
  | stopped =>
      rw [Owns, here] at owns
      rcases owns with ⟨connected, idle⟩ | ⟨failed, improper⟩
      · exact idle.proper
      · exact absurd (live here) failed

omit [DecidableEq Ctx] in
theorem Inv.connected (inv : Inv unit t) (proper : Proper t.link.log)
    (here : t.point = .stopped) : t.Connected := by
  have owns := inv.owns
  rw [Owns, here] at owns
  rcases owns with ⟨connected, idle⟩ | ⟨failed, improper⟩
  · exact connected
  · exact absurd proper improper

/-- The transport context keeps to what it owns exactly when the thread does not leave, or
leaves while it is connected. -/
theorem transport_owned (reached : Reach unit t) :
    t.Owned ↔ (t.point = .stopped → t.Connected) := by
  have inv := reached.inv
  constructor
  · intro owned here
    exact inv.connected owned.context here
  · intro live
    exact ⟨inv.proper live, inv.sound.wellFormed.tracks.proper⟩

def tcpUnit : LinkUnit Unit where
  self := ()
  format := .tcp [49] 502
  tableCount := 1
  fits := by
    intro path baudRate format
    cases format

def tcpAnswers : ConnectAnswers where
  tcp := { mutexInit := 0, sock := 5, connected := true }
  port := { fd := -1, tcgetattr := 0, tcsetattr := 0 }
  probe := true
  requests := 0

def tcpTurn (ok : Bool) : ThreadAction Unit :=
  .turn tcpAnswers { requests := 1, ok := ok }

theorem transport_owned_stopped : ((((((start tcpUnit).step tcpUnit (tcpTurn true)).step tcpUnit
    (tcpTurn true)).step tcpUnit .stop).step tcpUnit (tcpTurn true)).step tcpUnit
      (tcpTurn true)).Owned := by
  have fresh : (-1 : Int) ∉ held [] := by decide
  have reached : Reach tcpUnit (((((start tcpUnit).step tcpUnit (tcpTurn true)).step tcpUnit
      (tcpTurn true)).step tcpUnit .stop).step tcpUnit (tcpTurn true) |>.step tcpUnit
        (tcpTurn true)) :=
    .step (.step (.step (.step (.step .start fresh) fresh) trivial) fresh) fresh
  exact (transport_owned reached).mpr fun _ => .inr rfl

/-- A stop before the first connect: the zeroed context closes descriptor 0 and destroys a
mutex that was never initialised. -/
theorem transport_unowned : ¬ ∀ t, Reach tcpUnit t → t.Owned := by
  intro always
  have fresh : (-1 : Int) ∉ held [] := by decide
  have reached : Reach tcpUnit (((start tcpUnit).step tcpUnit .stop).step tcpUnit
      (tcpTurn true)) := .step (.step .start trivial) fresh
  exact absurd (always _ reached).context (by decide)

end UnitThread

end Rs485Gateway
