import Rs485Gateway.Modbus.SharedBus

namespace Rs485Gateway

open Interaction Rs485Gateway.Lists

def SharedBus.openFd (bus : SharedBus) : Option Int :=
  if bus.inUse = true ∧ 0 ≤ bus.fd then some bus.fd else none

theorem SharedBus.openFd_some {bus : SharedBus} {fd : Int} :
    bus.openFd = some fd ↔ bus.inUse = true ∧ 0 ≤ bus.fd ∧ bus.fd = fd := by
  unfold SharedBus.openFd
  split <;> simp_all

theorem SharedBus.openFd_none {bus : SharedBus} (closed : bus.fd < 0) : bus.openFd = none := by
  unfold SharedBus.openFd
  rw [if_neg]
  omega

namespace SharedBuses

def openFd (b : SharedBuses) (i : Fin mbRtuMaxSharedBuses) : Option Int := (b.bus i).openFd

/-- One record for each path, the descriptors open in the records and nowhere else, and
the speed of an open port on its line. -/
structure WellFormed (b : SharedBuses) : Prop where
  unique : ∀ i j, (b.bus i).inUse = true → (b.bus j).inUse = true →
    (b.bus i).path = (b.bus j).path → i = j
  tracks : Tracks b.log b.openFd
  programmed : ∀ i fd, b.openFd i = some fd →
    b.line (b.bus i).path = some (mapBaudRate (b.bus i).baudRate)

variable {b found : SharedBuses} {path : CStr} {i j : Fin mbRtuMaxSharedBuses} {bus : SharedBus}

@[simp] theorem setBus_self : (b.setBus i bus).bus i = bus := assign_self b.bus i bus

@[simp] theorem setBus_other (other : j ≠ i) : (b.setBus i bus).bus j = b.bus j :=
  assign_other b.bus bus other

@[simp] theorem setBus_line : (b.setBus i bus).line = b.line := rfl

@[simp] theorem setBus_openFd : (b.setBus i bus).openFd = assign b.openFd i bus.openFd := by
  funext j
  rcases eq_or_ne j i with rfl | other
  · simp [openFd]
  · simp [openFd, other]

theorem setBus_openFd_same (same : bus.openFd = b.openFd i) :
    (b.setBus i bus).openFd = b.openFd := by
  funext j
  rw [setBus_openFd]
  rcases eq_or_ne j i with rfl | other
  · rw [assign_self, same]
  · rw [assign_other _ _ other]

theorem init_wellFormed : sharedBusesInit.WellFormed where
  unique := by simp [sharedBusesInit]
  tracks := Tracks.init
  programmed := by simp [sharedBusesInit, openFd, SharedBus.openFd]

theorem WellFormed.unique_setBus (wf : b.WellFormed)
    (alone : ∀ j, j ≠ i → (b.bus j).inUse = true → (b.bus j).path ≠ bus.path) :
    ∀ j k, ((b.setBus i bus).bus j).inUse = true → ((b.setBus i bus).bus k).inUse = true →
      ((b.setBus i bus).bus j).path = ((b.setBus i bus).bus k).path → j = k := by
  intro j k first second same
  by_cases here : j = i
  · by_cases there : k = i
    · rw [here, there]
    · subst here
      rw [setBus_other there] at second same
      rw [setBus_self] at same
      exact absurd same.symm (alone k there second)
  · rw [setBus_other here] at first same
    by_cases there : k = i
    · subst there
      rw [setBus_self] at same
      exact absurd same (alone j here first)
    · rw [setBus_other there] at second same
      exact wf.unique j k first second same

theorem WellFormed.unique_kept (wf : b.WellFormed) (inUse : (b.bus i).inUse = true)
    (named : bus.path = (b.bus i).path) :
    ∀ j k, ((b.setBus i bus).bus j).inUse = true → ((b.setBus i bus).bus k).inUse = true →
      ((b.setBus i bus).bus j).path = ((b.setBus i bus).bus k).path → j = k := by
  apply wf.unique_setBus
  intro j other used same
  rw [named] at same
  exact other (wf.unique j i used inUse same)

theorem WellFormed.fresh (wf : b.WellFormed) (short : path.length < mbRtuPathSize)
    (free : (b.bus i).inUse = false)
    (unknown : ∀ j, (b.bus j).inUse = true → (b.bus j).path ≠ path) :
    (b.setBus i (freshBus path)).WellFormed := by
  have whole : (freshBus path).path = path := List.take_of_length_le (Nat.le_pred_of_lt short)
  have closed : (freshBus path).openFd = b.openFd i := by
    rw [SharedBus.openFd_none (by decide : (-1 : Int) < 0)]
    simp [openFd, SharedBus.openFd, free]
  constructor
  case unique =>
    apply wf.unique_setBus
    intro j other used
    rw [whole]
    exact unknown j used
  case tracks =>
    rw [setBus_openFd_same closed]
    exact wf.tracks
  case programmed =>
    intro j fd isOpen
    rw [setBus_openFd_same closed] at isOpen
    have other : j ≠ i := by
      intro same
      have inUse := (SharedBus.openFd_some.mp isOpen).1
      rw [same, free] at inUse
      cases inUse
    rw [setBus_other other]
    exact wf.programmed j fd isOpen

theorem WellFormed.recount (wf : b.WellFormed) (inUse : (b.bus i).inUse = true) (n : UInt32) :
    (b.setBus i { b.bus i with refcnt := n }).WellFormed := by
  have same : ({ b.bus i with refcnt := n } : SharedBus).openFd = b.openFd i := rfl
  constructor
  case unique => exact wf.unique_kept inUse rfl
  case tracks =>
    rw [setBus_openFd_same same]
    exact wf.tracks
  case programmed =>
    intro j fd isOpen
    rw [setBus_openFd_same same] at isOpen
    have before := wf.programmed j fd isOpen
    rcases eq_or_ne j i with rfl | other
    · simpa using before
    · simpa [other] using before

theorem WellFormed.returned (wf : b.WellFormed) {fd : Int} (fresh : fd ∉ held b.log) :
    ((b.logs (.acquire fd)).logs (.release fd)).WellFormed where
  unique := wf.unique
  tracks := wf.tracks.returned fresh
  programmed := wf.programmed

theorem WellFormed.opened (wf : b.WellFormed) {fd : Int} (baudRate : UInt32)
    (inUse : (b.bus i).inUse = true) (closed : (b.bus i).fd < 0) (valid : 0 ≤ fd)
    (fresh : fd ∉ held b.log) :
    (((b.logs (.acquire fd)).programs (b.bus i).path (mapBaudRate baudRate)).setBus i
      ((b.bus i).opened fd baudRate).retained).WellFormed := by
  have opens : ((b.bus i).opened fd baudRate).retained.openFd = some fd :=
    SharedBus.openFd_some.mpr ⟨inUse, valid, rfl⟩
  constructor
  case unique => exact wf.unique_kept inUse rfl
  case tracks =>
    rw [setBus_openFd, opens]
    exact wf.tracks.acquire fresh (SharedBus.openFd_none closed)
  case programmed =>
    intro j q isOpen
    rcases eq_or_ne j i with rfl | other
    · rw [setBus_self, setBus_line]
      exact assign_self b.line _ _
    · rw [setBus_openFd, assign_other _ _ other] at isOpen
      have used := (SharedBus.openFd_some.mp isOpen).1
      have apart : (b.bus j).path ≠ (b.bus i).path := fun same =>
        other (wf.unique j i used inUse same)
      rw [setBus_other other, setBus_line]
      exact (assign_other _ _ apart).trans (wf.programmed j q isOpen)

theorem WellFormed.closed (wf : b.WellFormed) (inUse : (b.bus i).inUse = true)
    (isOpen : 0 ≤ (b.bus i).fd) :
    ((b.logs (.release (b.bus i).fd)).setBus i (b.bus i).released.closed).WellFormed := by
  have closes : (b.bus i).released.closed.openFd = none :=
    SharedBus.openFd_none (by decide : (-1 : Int) < 0)
  constructor
  case unique => exact wf.unique_kept inUse rfl
  case tracks =>
    rw [setBus_openFd, closes]
    exact wf.tracks.release (SharedBus.openFd_some.mpr ⟨inUse, isOpen, rfl⟩)
  case programmed =>
    intro j q stillOpen
    have other : j ≠ i := by
      intro same
      rw [same, setBus_openFd, assign_self, closes] at stillOpen
      cases stillOpen
    rw [setBus_openFd, assign_other _ _ other] at stillOpen
    rw [setBus_other other]
    exact wf.programmed j q stillOpen

theorem Acquires.wellFormed (acquires : b.Acquires path i found) (wf : b.WellFormed)
    (short : path.length < mbRtuPathSize) : found.WellFormed := by
  cases acquires with
  | known inUse named => exact wf
  | fresh free unknown => exact wf.fresh short free unknown

theorem Acquires.inUse (acquires : b.Acquires path i found) : (found.bus i).inUse = true := by
  cases acquires with
  | known inUse named => exact inUse
  | fresh free unknown =>
      rw [setBus_self]
      rfl

theorem Acquires.named (acquires : b.Acquires path i found)
    (short : path.length < mbRtuPathSize) : (found.bus i).path = path := by
  cases acquires with
  | known inUse named => exact named
  | fresh free unknown =>
      rw [setBus_self]
      exact List.take_of_length_le (Nat.le_pred_of_lt short)

theorem Acquires.kept (acquires : b.Acquires path i found) (inUse : (b.bus j).inUse = true) :
    found.bus j = b.bus j := by
  cases acquires with
  | known used named => rfl
  | fresh free unknown =>
      apply setBus_other
      intro same
      rw [same, free] at inUse
      cases inUse

theorem Acquires.log (acquires : b.Acquires path i found) : found.log = b.log := by
  cases acquires <;> rfl

theorem Acquires.inUse_kept (acquires : b.Acquires path i found)
    (inUse : (b.bus j).inUse = true) : (found.bus j).inUse = true := by
  rw [acquires.kept inUse]
  exact inUse

theorem setBus_inUse (same : bus.inUse = (b.bus i).inUse) :
    ((b.setBus i bus).bus j).inUse = (b.bus j).inUse := by
  rcases eq_or_ne j i with rfl | other
  · rw [setBus_self, same]
  · rw [setBus_other other]

theorem Attaches.wellFormed {baudRate : UInt32} {opening : PortOpening}
    {result : SharedBuses × Option Int} (attaches : b.Attaches i baudRate opening result)
    (wf : b.WellFormed) (inUse : (b.bus i).inUse = true) (fresh : opening.fd ∉ held b.log) :
    result.1.WellFormed := by
  cases attaches with
  | refused => exact wf
  | returned closed valid => exact wf.returned fresh
  | opened closed valid => exact wf.opened baudRate inUse closed valid fresh
  | joined isOpen same => exact wf.recount inUse _

theorem Attaches.inUse_kept {baudRate : UInt32} {opening : PortOpening}
    {result : SharedBuses × Option Int} (attaches : b.Attaches i baudRate opening result) :
    (result.1.bus j).inUse = (b.bus j).inUse := by
  cases attaches with
  | refused => rfl
  | returned closed valid => rfl
  | opened closed valid => exact setBus_inUse rfl
  | joined isOpen same => exact setBus_inUse rfl

theorem detach_wellFormed (wf : b.WellFormed) (inUse : (b.bus i).inUse = true) :
    (b.sharedBusDetachPort i).WellFormed := by
  rcases b.detach_cases i with ⟨isOpen, closes⟩ | stays
  · rw [closes]
    exact wf.closed inUse isOpen
  · rw [stays]
    exact wf.recount inUse _

theorem detach_inUse : ((b.sharedBusDetachPort i).bus j).inUse = (b.bus j).inUse := by
  rcases b.detach_cases i with ⟨isOpen, closes⟩ | stays
  · rw [closes]
    exact setBus_inUse rfl
  · rw [stays]
    exact setBus_inUse rfl

end SharedBuses

inductive PortCall (Ctx : Type) where
  | connect (self : Ctx) (cfg : MbRtuClientConfig) (opening : PortOpening)
  | disconnect (self : Ctx)

variable {Ctx : Type} [DecidableEq Ctx]

def MbRtuClientConfig.Short (cfg : MbRtuClientConfig) : Prop :=
  ∀ path ∈ cfg.serialPath, path.length < mbRtuPathSize

def PortCall.Short : PortCall Ctx → Prop
  | connect _ cfg _ => cfg.Short
  | disconnect _ => True

namespace SerialClients

def step (s : SerialClients Ctx) : PortCall Ctx → SerialClients Ctx
  | .connect self cfg opening => (s.mbRtuClientConnect self cfg opening).1
  | .disconnect self => s.mbRtuClientDisconnect self

/-- Only a detached context connects, and `open` answers with a descriptor not open. -/
def Legal (s : SerialClients Ctx) : PortCall Ctx → Prop
  | .connect self _ opening => s.attachedTo self = none ∧ opening.fd ∉ held s.log
  | .disconnect _ => True

/-- The runs of such calls, all of them `allowed`, through states that satisfy `keep`. -/
inductive Reach (allowed : PortCall Ctx → Prop) (keep : SerialClients Ctx → Prop) :
    SerialClients Ctx → Prop
  | init : Reach allowed keep serialClientsInit
  | step {s : SerialClients Ctx} {call : PortCall Ctx} (before : Reach allowed keep s)
      (permitted : allowed call) (legal : s.Legal call) (kept : keep (s.step call)) :
      Reach allowed keep (s.step call)

def members (s : SerialClients Ctx) (i : Fin mbRtuMaxSharedBuses) : Set Ctx :=
  {ctx | s.attachedTo ctx = some i}

omit [DecidableEq Ctx] in
theorem mem_members {s : SerialClients Ctx} {ctx : Ctx} {i : Fin mbRtuMaxSharedBuses} :
    ctx ∈ s.members i ↔ s.attachedTo ctx = some i :=
  Iff.rfl

structure Agrees (s : SerialClients Ctx) (ctx : Ctx) (i : Fin mbRtuMaxSharedBuses) : Prop where
  inUse : (s.bus i).inUse = true
  path : (s.ctxs ctx).cfg.serialPath = some (s.bus i).path
  fd : (s.ctxs ctx).fd = (s.bus i).fd
  baudRate : (s.ctxs ctx).cfg.baudRate = (s.bus i).baudRate

omit [DecidableEq Ctx] in
theorem Agrees.kept {s s' : SerialClients Ctx} {ctx : Ctx} {i : Fin mbRtuMaxSharedBuses}
    (agrees : s.Agrees ctx i) (record : s'.bus i = s.bus i) (context : s'.ctxs ctx = s.ctxs ctx) :
    s'.Agrees ctx i where
  inUse := record ▸ agrees.inUse
  path := record ▸ context ▸ agrees.path
  fd := record ▸ context ▸ agrees.fd
  baudRate := record ▸ context ▸ agrees.baudRate

/-- The attachments a reference count of 32 bits can tell apart. -/
def Countable (s : SerialClients Ctx) : Prop :=
  ∀ i, (s.members i).ncard < 2 ^ 32

structure Inv (s : SerialClients Ctx) : Prop where
  wellFormed : s.shared.WellFormed
  finite : ∀ i, (s.members i).Finite
  counted : ∀ i, (s.bus i).refcnt.toNat = (s.members i).ncard
  port : ∀ i, (s.bus i).inUse = true → (0 ≤ (s.bus i).fd ↔ 0 < (s.bus i).refcnt)
  attached : ∀ ctx i, s.attachedTo ctx = some i → s.Agrees ctx i

variable {s : SerialClients Ctx} {self ctx : Ctx} {cfg : MbRtuClientConfig}
  {opening : PortOpening} {shared : SharedBuses} {now : MbRtuClientCtx}
  {i j : Fin mbRtuMaxSharedBuses}

@[simp] theorem settle_bus : (s.settle shared self now).bus = shared.bus := rfl

@[simp] theorem settle_self : (s.settle shared self now).ctxs self = now :=
  assign_self s.ctxs self now

@[simp] theorem settle_other (other : ctx ≠ self) :
    (s.settle shared self now).ctxs ctx = s.ctxs ctx :=
  assign_other s.ctxs now other

theorem settle_attachedTo_other (other : ctx ≠ self) :
    (s.settle shared self now).attachedTo ctx = s.attachedTo ctx := by
  rw [attachedTo, settle_other other, attachedTo]

theorem members_join (s : SerialClients Ctx) (shared : SharedBuses) (self : Ctx)
    (joins : now.attachedTo = some i) :
    (s.settle shared self now).members i = insert self (s.members i) := by
  ext ctx
  rw [Set.mem_insert_iff, mem_members, mem_members]
  rcases eq_or_ne ctx self with rfl | other
  · rw [attachedTo, settle_self]
    exact ⟨fun _ => .inl rfl, fun _ => joins⟩
  · rw [settle_attachedTo_other other]
    exact ⟨.inr, fun either => either.resolve_left other⟩

theorem members_leave (s : SerialClients Ctx) (shared : SharedBuses) (self : Ctx)
    (leaves : now.attachedTo ≠ some i) :
    (s.settle shared self now).members i = s.members i \ {self} := by
  ext ctx
  rw [Set.mem_sdiff_singleton, mem_members, mem_members]
  rcases eq_or_ne ctx self with rfl | other
  · rw [attachedTo, settle_self]
    exact ⟨fun stays => absurd stays leaves, fun gone => absurd rfl gone.2⟩
  · rw [settle_attachedTo_other other]
    exact ⟨fun stays => ⟨stays, other⟩, And.left⟩

theorem members_kept (leaves : now.attachedTo ≠ some i) (absent : s.attachedTo self ≠ some i) :
    (s.settle shared self now).members i = s.members i := by
  rw [members_leave s shared self leaves]
  exact Set.sdiff_singleton_eq_self absent

omit [DecidableEq Ctx] in
theorem init_inv : Inv (serialClientsInit : SerialClients Ctx) := by
  have nobody : ∀ i, (serialClientsInit : SerialClients Ctx).members i = ∅ := by
    intro i
    ext ctx
    simp [mem_members, attachedTo, serialClientsInit, MbRtuClientCtx.zero,
      MbRtuClientCtx.attachedTo]
  constructor
  case wellFormed => exact SharedBuses.init_wellFormed
  case finite =>
    intro i
    rw [nobody]
    exact Set.finite_empty
  case counted =>
    intro i
    rw [nobody, Set.ncard_empty]
    rfl
  case port =>
    intro i inUse
    cases inUse
  case attached =>
    intro ctx i attached
    have member : ctx ∈ (serialClientsInit : SerialClients Ctx).members i := attached
    rw [nobody] at member
    cases member

/-- One context moves at one record; nobody else notices. -/
theorem Inv.settle (inv : s.Inv) (wf : shared.WellFormed)
    (only : ∀ j, j ≠ i → shared.bus j = s.bus j)
    (here : ∀ j, j ≠ i → now.attachedTo ≠ some j ∧ s.attachedTo self ≠ some j)
    (finite : ((s.settle shared self now).members i).Finite)
    (counted : (shared.bus i).refcnt.toNat = ((s.settle shared self now).members i).ncard)
    (port : (shared.bus i).inUse = true →
      (0 ≤ (shared.bus i).fd ↔ 0 < (shared.bus i).refcnt))
    (agrees : ∀ ctx, (s.settle shared self now).attachedTo ctx = some i →
      (s.settle shared self now).Agrees ctx i) :
    (s.settle shared self now).Inv := by
  have others : ∀ j, j ≠ i → (s.settle shared self now).members j = s.members j :=
    fun j other => members_kept (here j other).1 (here j other).2
  constructor
  case wellFormed => exact wf
  case finite =>
    intro j
    rcases eq_or_ne j i with rfl | other
    · exact finite
    · rw [others j other]
      exact inv.finite j
  case counted =>
    intro j
    rcases eq_or_ne j i with rfl | other
    · exact counted
    · rw [others j other, settle_bus, only j other]
      exact inv.counted j
  case port =>
    intro j
    rcases eq_or_ne j i with rfl | other
    · exact port
    · rw [settle_bus, only j other]
      exact inv.port j
  case attached =>
    intro ctx j attached
    rcases eq_or_ne j i with rfl | other
    · exact agrees ctx attached
    · have apart : ctx ≠ self := by
        intro same
        rw [same, attachedTo, settle_self] at attached
        exact (here j other).1 attached
      rw [settle_attachedTo_other apart] at attached
      exact (inv.attached ctx j attached).kept (only j other) (settle_other apart)

structure Sound (s : SerialClients Ctx) : Prop where
  wellFormed : s.shared.WellFormed
  inUse : ∀ ctx i, s.attachedTo ctx = some i → (s.bus i).inUse = true

omit [DecidableEq Ctx] in
theorem init_sound : Sound (serialClientsInit : SerialClients Ctx) where
  wellFormed := SharedBuses.init_wellFormed
  inUse := by
    intro ctx i attached
    cases attached

theorem Sound.settle (sound : s.Sound) (wf : shared.WellFormed)
    (kept : ∀ j, (s.bus j).inUse = true → (shared.bus j).inUse = true)
    (settles : ∀ i, now.attachedTo = some i → (shared.bus i).inUse = true) :
    (s.settle shared self now).Sound where
  wellFormed := wf
  inUse := by
    intro ctx i attached
    rcases eq_or_ne ctx self with rfl | other
    · rw [attachedTo, settle_self] at attached
      exact settles i attached
    · rw [settle_attachedTo_other other] at attached
      exact kept i (sound.inUse ctx i attached)

theorem Sound.disconnect (sound : s.Sound) : (s.mbRtuClientDisconnect self).Sound := by
  cases attached : s.attachedTo self with
  | none =>
      rw [disconnect_detached attached]
      exact sound
  | some i =>
      rw [disconnect_attached attached]
      have inUse := sound.inUse self i attached
      apply sound.settle (SharedBuses.detach_wellFormed sound.wellFormed inUse)
      case kept =>
        intro j used
        rw [SharedBuses.detach_inUse]
        exact used
      case settles =>
        intro j stays
        cases stays

theorem Sound.connect (sound : s.Sound) (fresh : opening.fd ∉ held s.log) (short : cfg.Short) :
    (s.mbRtuClientConnect self cfg opening).1.Sound := by
  have connects := connect_connects s self cfg opening
  generalize s.mbRtuClientConnect self cfg opening = result at connects ⊢
  cases connects with
  | nowhere unnamed => exact sound
  | full =>
      apply sound.settle sound.wellFormed
      case kept => exact fun _ used => used
      case settles =>
        intro i attached
        cases attached
  | @failed path i found shared named acquired attaches =>
      have looked := acquired.wellFormed sound.wellFormed (short _ named)
      have unheld := (congrArg held acquired.log).symm ▸ fresh
      apply sound.settle (attaches.wellFormed looked acquired.inUse unheld)
      case kept =>
        intro j used
        have kept : (shared.bus j).inUse = (found.bus j).inUse := attaches.inUse_kept
        exact kept.trans (acquired.inUse_kept used)
      case settles =>
        intro j attached
        cases attached
  | @connected path i found shared fd named acquired attaches =>
      have looked := acquired.wellFormed sound.wellFormed (short _ named)
      have unheld := (congrArg held acquired.log).symm ▸ fresh
      have kept : ∀ j, (shared.bus j).inUse = (found.bus j).inUse := fun j => attaches.inUse_kept
      apply sound.settle (attaches.wellFormed looked acquired.inUse unheld)
      case kept => exact fun j used => (kept j).trans (acquired.inUse_kept used)
      case settles =>
        intro j attached
        have here : i = j := Option.some.inj (MbRtuClientCtx.attachedTo_some.mp attached).2
        rw [← here, kept i]
        exact acquired.inUse

end SerialClients

end Rs485Gateway
