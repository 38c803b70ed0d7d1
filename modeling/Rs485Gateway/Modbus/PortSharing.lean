import Rs485Gateway.Modbus.SharedBusRuns

namespace Rs485Gateway

open Interaction Rs485Gateway.Lists

namespace SerialClients

variable {Ctx : Type} [DecidableEq Ctx] {s : SerialClients Ctx} {self ctx : Ctx}
  {cfg : MbRtuClientConfig} {opening : PortOpening} {shared looked : SharedBuses}
  {now : MbRtuClientCtx} {path : CStr} {i j : Fin mbRtuMaxSharedBuses} {bus : SharedBus} {fd : Int}

theorem detached_attachedTo (cfg : MbRtuClientConfig) :
    (MbRtuClientCtx.detached cfg).attachedTo = none := rfl

omit [DecidableEq Ctx] in
theorem Inv.found (inv : s.Inv) (acquires : s.shared.Acquires path i looked)
    (short : path.length < mbRtuPathSize) :
    ({ s with shared := looked } : SerialClients Ctx).Inv := by
  have wf := acquires.wellFormed inv.wellFormed short
  cases acquires with
  | known inUse named => exact inv
  | fresh free unknown =>
      have nobody : ∀ ctx, s.attachedTo ctx ≠ some i := by
        intro ctx attached
        have inUse := (inv.attached ctx i attached).inUse
        rw [bus, free] at inUse
        cases inUse
      constructor
      case wellFormed => exact wf
      case finite => exact inv.finite
      case counted =>
        intro j
        rcases eq_or_ne j i with rfl | other
        · have empty : s.members j = ∅ := Set.eq_empty_of_forall_notMem nobody
          change ((s.shared.setBus j (freshBus path)).bus j).refcnt.toNat = (s.members j).ncard
          rw [empty, Set.ncard_empty, SharedBuses.setBus_self]
          rfl
        · change ((s.shared.setBus i (freshBus path)).bus j).refcnt.toNat = (s.members j).ncard
          rw [SharedBuses.setBus_other other]
          exact inv.counted j
      case port =>
        intro j
        change ((s.shared.setBus i (freshBus path)).bus j).inUse = true →
          (0 ≤ ((s.shared.setBus i (freshBus path)).bus j).fd ↔
            0 < ((s.shared.setBus i (freshBus path)).bus j).refcnt)
        rcases eq_or_ne j i with rfl | other
        · rw [SharedBuses.setBus_self]
          intro inUse
          exact ⟨fun isOpen => absurd isOpen (by decide : ¬ (0 : Int) ≤ -1),
            fun counted => absurd counted (by decide : ¬ (0 : UInt32) < 0)⟩
        · rw [SharedBuses.setBus_other other]
          exact inv.port j
      case attached =>
        intro ctx j attached
        have other : j ≠ i := by
          intro same
          exact nobody ctx (same ▸ attached)
        have same : (s.shared.setBus i (freshBus path)).bus j = s.bus j :=
          SharedBuses.setBus_other other
        exact (inv.attached ctx j attached).kept same rfl

theorem Inv.stays (inv : s.Inv) (wf : shared.WellFormed) (same : shared.bus = s.bus)
    (detached : s.attachedTo self = none) (stays : now.attachedTo = none) :
    (s.settle shared self now).Inv := by
  have members : ∀ j, (s.settle shared self now).members j = s.members j := by
    intro j
    apply members_kept
    · simp [stays]
    · simp [detached]
  constructor
  case wellFormed => exact wf
  case finite =>
    intro j
    rw [members]
    exact inv.finite j
  case counted =>
    intro j
    rw [members, settle_bus, same]
    exact inv.counted j
  case port =>
    intro j
    rw [settle_bus, same]
    exact inv.port j
  case attached =>
    intro ctx j attached
    have apart : ctx ≠ self := by
      intro isSelf
      rw [isSelf, attachedTo, settle_self, stays] at attached
      cases attached
    rw [settle_attachedTo_other apart] at attached
    exact (inv.attached ctx j attached).kept (congrFun same j) (settle_other apart)

theorem Inv.joins (inv : s.Inv) (wf : shared.WellFormed) (detached : s.attachedTo self = none)
    (only : ∀ j, j ≠ i → shared.bus j = s.bus j) (named : cfg.serialPath = some path)
    (record : (shared.bus i).inUse = true ∧ (shared.bus i).path = path ∧
      0 ≤ (shared.bus i).fd ∧ (shared.bus i).baudRate = cfg.baudRate)
    (counted : (shared.bus i).refcnt.toNat = (s.bus i).refcnt.toNat + 1)
    (others : ∀ ctx, s.attachedTo ctx = some i → (s.bus i).fd = (shared.bus i).fd ∧
      (s.bus i).baudRate = (shared.bus i).baudRate ∧ (s.bus i).path = (shared.bus i).path) :
    (s.settle shared self { fd := (shared.bus i).fd, sharedBus := some i, cfg := cfg }).Inv := by
  have joins : ({ fd := (shared.bus i).fd, sharedBus := some i, cfg := cfg } :
      MbRtuClientCtx).attachedTo = some i := if_pos record.2.2.1
  have members := members_join s shared self joins
  have absent : self ∉ s.members i := by
    rw [mem_members, detached]
    simp
  apply inv.settle wf only
  case here =>
    intro j other
    rw [joins, detached]
    exact ⟨fun same => other (Option.some.inj same).symm, by simp⟩
  case finite =>
    rw [members]
    exact (inv.finite i).insert self
  case counted =>
    rw [members, Set.ncard_insert_of_notMem absent (inv.finite i), counted, inv.counted]
  case port =>
    intro inUse
    have positive : 0 < (shared.bus i).refcnt := by
      rw [UInt32.lt_iff_toNat_lt, counted]
      exact Nat.succ_pos _
    exact ⟨fun _ => positive, fun _ => record.2.2.1⟩
  case agrees =>
    intro ctx attached
    rcases eq_or_ne ctx self with rfl | apart
    · constructor
      case inUse => exact record.1
      case path => rw [settle_self, settle_bus, named, record.2.1]
      case fd => rw [settle_self, settle_bus]
      case baudRate => rw [settle_self, settle_bus, record.2.2.2]
    · rw [settle_attachedTo_other apart] at attached
      have before := inv.attached ctx i attached
      have same := others ctx attached
      constructor
      case inUse => exact record.1
      case path => rw [settle_other apart, settle_bus, before.path, same.2.2]
      case fd => rw [settle_other apart, settle_bus, before.fd, same.1]
      case baudRate => rw [settle_other apart, settle_bus, before.baudRate, same.2.1]

theorem Inv.failed (inv : s.Inv) (detached : s.attachedTo self = none)
    (fresh : opening.fd ∉ held s.log)
    (attaches : s.shared.Attaches i cfg.baudRate opening (shared, none)) :
    (s.settle shared self (.detached cfg)).Inv := by
  cases attaches with
  | refused => exact inv.stays inv.wellFormed rfl detached (detached_attachedTo cfg)
  | returned closed valid =>
      exact inv.stays (inv.wellFormed.returned fresh) rfl detached (detached_attachedTo cfg)

theorem Inv.connected (inv : s.Inv) (detached : s.attachedTo self = none)
    (fresh : opening.fd ∉ held s.log) (inUse : (s.bus i).inUse = true)
    (named : cfg.serialPath = some (s.bus i).path)
    (attaches : s.shared.Attaches i cfg.baudRate opening (shared, some fd))
    (countable : (s.settle shared self { fd := fd, sharedBus := some i, cfg := cfg }).Countable) :
    (s.settle shared self { fd := fd, sharedBus := some i, cfg := cfg }).Inv := by
  cases attaches with
  | opened closed valid =>
      have idle : (s.bus i).refcnt = 0 := by
        by_contra counted
        have isOpen := (inv.port i inUse).mpr (UInt32.pos_iff_ne_zero.mpr counted)
        exact absurd closed (not_lt.mpr isOpen)
      have nobody : s.members i = ∅ := by
        rw [← Set.ncard_eq_zero (inv.finite i), ← inv.counted, idle]
        rfl
      have wf := inv.wellFormed.opened cfg.baudRate inUse closed valid fresh
      have joined := inv.joins wf detached (fun j other => SharedBuses.setBus_other other) named
        (by rw [SharedBuses.setBus_self]; exact ⟨inUse, rfl, valid, rfl⟩)
        (by rw [SharedBuses.setBus_self, idle]; rfl)
        (fun ctx attached => absurd (nobody ▸ attached : ctx ∈ (∅ : Set Ctx)) (by simp))
      rw [SharedBuses.setBus_self] at joined
      exact joined
  | joined isOpen same =>
      have joins : ({ fd := (s.shared.bus i).fd, sharedBus := some i, cfg := cfg } :
          MbRtuClientCtx).attachedTo = some i := if_pos isOpen
      have absent : self ∉ s.members i := by
        rw [mem_members, detached]
        simp
      have room := countable i
      rw [members_join _ _ _ joins, Set.ncard_insert_of_notMem absent (inv.finite i),
        ← inv.counted] at room
      have counted : (s.bus i).retained.refcnt.toNat = (s.bus i).refcnt.toNat + 1 := by
        rw [SharedBus.retained, UInt32.toNat_add, UInt32.toNat_one, Nat.mod_eq_of_lt room]
      have wf := inv.wellFormed.recount inUse ((s.bus i).refcnt + 1)
      have joined := inv.joins wf detached (fun j other => SharedBuses.setBus_other other) named
        (by rw [SharedBuses.setBus_self]; exact ⟨inUse, rfl, isOpen, same⟩)
        (by rw [SharedBuses.setBus_self]; exact counted)
        (fun ctx attached => by rw [SharedBuses.setBus_self]; exact ⟨rfl, rfl, rfl⟩)
      rw [SharedBuses.setBus_self] at joined
      exact joined

theorem Inv.leaves (inv : s.Inv) (wf : shared.WellFormed) (attached : s.attachedTo self = some i)
    (only : ∀ j, j ≠ i → shared.bus j = s.bus j) (gone : now.attachedTo = none)
    (counted : (shared.bus i).refcnt.toNat + 1 = (s.bus i).refcnt.toNat)
    (port : 0 ≤ (shared.bus i).fd ↔ 0 < (shared.bus i).refcnt)
    (others : ∀ ctx, ctx ≠ self → s.attachedTo ctx = some i → s.Agrees ctx i →
      (s.settle shared self now).Agrees ctx i) :
    (s.settle shared self now).Inv := by
  have nowhere : ∀ j, now.attachedTo ≠ some j := by simp [gone]
  have members := members_leave s shared self (nowhere i)
  apply inv.settle wf only
  case here =>
    intro j other
    refine ⟨nowhere j, ?_⟩
    rw [attached]
    intro same
    exact other (Option.some.inj same).symm
  case finite =>
    rw [members]
    exact (inv.finite i).sdiff
  case counted =>
    have member : self ∈ s.members i := attached
    have fewer := Set.ncard_sdiff_singleton_add_one member (inv.finite i)
    rw [members]
    have before := inv.counted i
    omega
  case port => exact fun _ => port
  case agrees =>
    intro ctx stays
    have apart : ctx ≠ self := by
      intro same
      rw [same, attachedTo, settle_self, gone] at stays
      cases stays
    rw [settle_attachedTo_other apart] at stays
    exact others ctx apart stays (inv.attached ctx i stays)

theorem Inv.disconnect_last (inv : s.Inv) (attached : s.attachedTo self = some i)
    (last : s.members i = {self}) :
    s.mbRtuClientDisconnect self =
      s.settle ((s.shared.logs (.release (s.bus i).fd)).setBus i (s.bus i).released.closed) self
        { s.ctxs self with fd := -1 } := by
  have agrees := inv.attached self i attached
  have one : (s.bus i).refcnt = 1 := by
    rw [← UInt32.toNat_inj, inv.counted, last, Set.ncard_singleton]
    rfl
  have isOpen : 0 ≤ (s.bus i).fd := by
    rw [inv.port i agrees.inUse, one]
    decide
  rw [disconnect_attached attached, SharedBuses.detach_last one isOpen]
  rfl

theorem Inv.disconnect_shared (inv : s.Inv) (attached : s.attachedTo self = some i)
    (shared : s.members i ≠ {self}) :
    1 < (s.bus i).refcnt.toNat ∧ s.mbRtuClientDisconnect self =
      s.settle (s.shared.setBus i (s.bus i).released) self { s.ctxs self with fd := -1 } := by
  have many : 1 < (s.bus i).refcnt.toNat := by
    rw [inv.counted]
    have member : self ∈ s.members i := attached
    have positive := (Set.ncard_pos (inv.finite i)).mpr ⟨self, member⟩
    have several : (s.members i).ncard ≠ 1 := by
      intro one
      rcases Set.ncard_eq_one.mp one with ⟨only, same⟩
      rw [same, Set.mem_singleton_iff] at member
      rw [same, member] at shared
      exact shared rfl
    omega
  refine ⟨many, ?_⟩
  rw [disconnect_attached attached, SharedBuses.detach_shared many]
  rfl

theorem Inv.disconnect (inv : s.Inv) : (s.mbRtuClientDisconnect self).Inv := by
  cases attached : s.attachedTo self with
  | none =>
      rw [disconnect_detached attached]
      exact inv
  | some i =>
      have agrees := inv.attached self i attached
      have gone : ({ s.ctxs self with fd := -1 } : MbRtuClientCtx).attachedTo = none := rfl
      by_cases last : s.members i = {self}
      · rw [inv.disconnect_last attached last]
        have one : (s.bus i).refcnt.toNat = 1 := by
          rw [inv.counted, last, Set.ncard_singleton]
        have isOpen : 0 ≤ (s.bus i).fd := by
          rw [inv.port i agrees.inUse, UInt32.lt_iff_toNat_lt, one]
          decide
        have released : (s.shared.bus i).released.closed.refcnt = 0 :=
          SharedBuses.released_last (UInt32.toNat_inj.mp one)
        apply inv.leaves (inv.wellFormed.closed agrees.inUse isOpen) attached
        case only => exact fun j other => SharedBuses.setBus_other other
        case gone => exact gone
        case counted =>
          rw [SharedBuses.setBus_self, one, released]
          rfl
        case port =>
          rw [SharedBuses.setBus_self, released]
          exact ⟨fun isOpen => absurd isOpen (by decide : ¬ (0 : Int) ≤ -1),
            fun counted => absurd counted (by decide : ¬ (0 : UInt32) < 0)⟩
        case others =>
          intro ctx apart stays
          have member : ctx ∈ s.members i := stays
          rw [last, Set.mem_singleton_iff] at member
          exact absurd member apart
      · rcases inv.disconnect_shared attached last with ⟨many, result⟩
        rw [result]
        have fewer := SharedBuses.released_shared many
        have isOpen : 0 ≤ (s.bus i).fd := by
          rw [inv.port i agrees.inUse, UInt32.lt_iff_toNat_lt]
          exact Nat.lt_of_succ_lt many
        apply inv.leaves (inv.wellFormed.recount agrees.inUse _) attached
        case only => exact fun j other => SharedBuses.setBus_other other
        case gone => exact gone
        case counted =>
          rw [SharedBuses.setBus_self]
          exact (congrArg (· + 1) fewer).trans (Nat.sub_add_cancel (Nat.one_le_of_lt many))
        case port =>
          rw [SharedBuses.setBus_self]
          have remains : 0 < (s.bus i).released.refcnt := by
            rw [UInt32.lt_iff_toNat_lt]
            exact fewer ▸ Nat.sub_pos_of_lt many
          exact ⟨fun _ => remains, fun _ => isOpen⟩
        case others =>
          intro ctx apart stays before
          constructor
          case inUse => rw [settle_bus, SharedBuses.setBus_self]; exact before.inUse
          case path =>
            rw [settle_bus, SharedBuses.setBus_self, settle_other apart]; exact before.path
          case fd => rw [settle_bus, SharedBuses.setBus_self, settle_other apart]; exact before.fd
          case baudRate =>
            rw [settle_bus, SharedBuses.setBus_self, settle_other apart]
            exact before.baudRate

omit [DecidableEq Ctx] in
theorem Inv.line (inv : s.Inv) (attached : s.attachedTo ctx = some i)
    (named : (s.ctxs ctx).cfg.serialPath = some path) :
    s.line path = some (mapBaudRate (s.ctxs ctx).cfg.baudRate) := by
  have agrees := inv.attached ctx i attached
  have isOpen : 0 ≤ (s.bus i).fd := agrees.fd ▸ (MbRtuClientCtx.attachedTo_some.mp attached).1
  have programmed := inv.wellFormed.programmed i (s.bus i).fd
    (SharedBus.openFd_some.mpr ⟨agrees.inUse, isOpen, rfl⟩)
  have same : (s.bus i).path = path := Option.some.inj (agrees.path.symm.trans named)
  rw [agrees.baudRate, ← same]
  exact programmed

theorem Inv.connect (inv : s.Inv) (detached : s.attachedTo self = none)
    (fresh : opening.fd ∉ held s.log) (short : cfg.Short)
    (countable : (s.mbRtuClientConnect self cfg opening).1.Countable) :
    (s.mbRtuClientConnect self cfg opening).1.Inv := by
  have connects := connect_connects s self cfg opening
  generalize s.mbRtuClientConnect self cfg opening = result at connects countable ⊢
  cases connects with
  | nowhere unnamed => exact inv
  | full => exact inv.stays inv.wellFormed rfl detached (detached_attachedTo cfg)
  | failed named acquired attaches =>
      have looked := inv.found acquired (short _ named)
      have unheld := (congrArg held acquired.log).symm ▸ fresh
      exact looked.failed detached unheld attaches
  | connected named acquired attaches =>
      have looked := inv.found acquired (short _ named)
      have unheld := (congrArg held acquired.log).symm ▸ fresh
      apply looked.connected detached unheld acquired.inUse _ attaches countable
      exact (acquired.named (short _ named)).symm ▸ named

theorem Inv.step (inv : s.Inv) {call : PortCall Ctx} (short : call.Short) (legal : s.Legal call)
    (countable : (s.step call).Countable) : (s.step call).Inv := by
  cases call with
  | connect self cfg opening => exact inv.connect legal.1 legal.2 short countable
  | disconnect self => exact inv.disconnect

theorem Reach.inv (reached : Reach PortCall.Short Countable s) : s.Inv := by
  induction reached with
  | init => exact init_inv
  | step before short legal countable ih => exact ih.step short legal countable

theorem Reach.weaken {allowed allowed' : PortCall Ctx → Prop}
    {keep keep' : SerialClients Ctx → Prop} (reached : Reach allowed keep s)
    (allows : ∀ call, allowed call → allowed' call) (keeps : ∀ s, keep s → keep' s) :
    Reach allowed' keep' s := by
  induction reached with
  | init => exact .init
  | step before permitted legal kept ih => exact .step ih (allows _ permitted) legal (keeps _ kept)

theorem settle_context (s : SerialClients Ctx) (shared : SharedBuses) (self : Ctx)
    (now : MbRtuClientCtx) (ctx : Ctx) : (s.settle shared self now).ctxs ctx = s.ctxs ctx ∨
    ctx = self ∧ (s.settle shared self now).ctxs ctx = now := by
  rcases eq_or_ne ctx self with rfl | other
  · exact .inr ⟨rfl, settle_self⟩
  · exact .inl (settle_other other)

theorem settle_configured (configured : now.cfg = cfg) :
    (s.settle shared self now).ctxs ctx = s.ctxs ctx ∨
      ctx = self ∧ ((s.settle shared self now).ctxs ctx).cfg = cfg := by
  rcases settle_context s shared self now ctx with same | ⟨here, written⟩
  · exact .inl same
  · exact .inr ⟨here, (congrArg MbRtuClientCtx.cfg written).trans configured⟩

theorem connect_context (s : SerialClients Ctx) (self : Ctx) (cfg : MbRtuClientConfig)
    (opening : PortOpening) (ctx : Ctx) :
    (s.mbRtuClientConnect self cfg opening).1.ctxs ctx = s.ctxs ctx ∨
    ctx = self ∧ ((s.mbRtuClientConnect self cfg opening).1.ctxs ctx).cfg = cfg := by
  have connects := connect_connects s self cfg opening
  generalize s.mbRtuClientConnect self cfg opening = result at connects ⊢
  cases connects with
  | nowhere unnamed => exact .inl rfl
  | full => exact settle_configured rfl
  | failed named acquired attaches => exact settle_configured rfl
  | connected named acquired attaches => exact settle_configured rfl

theorem disconnect_context (s : SerialClients Ctx) (self ctx : Ctx) :
    (s.mbRtuClientDisconnect self).ctxs ctx = s.ctxs ctx ∨
    (s.mbRtuClientDisconnect self).attachedTo ctx = none := by
  cases attached : s.attachedTo self with
  | none =>
      rw [disconnect_detached attached]
      exact .inl rfl
  | some i =>
      rw [disconnect_attached attached]
      apply (settle_context s _ self _ ctx).imp_right
      intro set
      rw [attachedTo, set.2]
      rfl

theorem Reach.configured {allowed : PortCall Ctx → Prop} {keep : SerialClients Ctx → Prop}
    {config : Ctx → MbRtuClientConfig}
    (fixed : ∀ self cfg opening, allowed (.connect self cfg opening) → cfg = config self)
    (reached : Reach allowed keep s) :
    ∀ ctx, s.attachedTo ctx ≠ none → (s.ctxs ctx).cfg = config ctx := by
  induction reached with
  | init => exact fun ctx attached => absurd rfl attached
  | @step s call before permitted legal kept ih =>
      intro ctx attached
      have unchanged : (s.step call).ctxs ctx = s.ctxs ctx →
          ((s.step call).ctxs ctx).cfg = config ctx := by
        intro same
        rw [attachedTo, same] at attached
        rw [same]
        exact ih ctx attached
      cases call with
      | connect self cfg opening =>
          rcases connect_context s self cfg opening ctx with same | ⟨here, written⟩
          · exact unchanged same
          · rw [here, ← fixed self cfg opening permitted]
            exact here ▸ written
      | disconnect self =>
          rcases disconnect_context s self ctx with same | detached
          · exact unchanged same
          · exact absurd detached attached

/-- Some record has the descriptor open. -/
def Opened (s : SerialClients Ctx) (fd : Int) : Prop :=
  ∃ i, s.shared.openFd i = some fd

structure Guarantee (s : SerialClients Ctx) : Prop where
  oneRecord : ∀ i j, (s.bus i).inUse = true → (s.bus j).inUse = true →
    (s.bus i).path = (s.bus j).path → i = j
  refcnt : ∀ i, (s.members i).Finite ∧ (s.bus i).refcnt.toNat = (s.members i).ncard
  port : ∀ i, (s.bus i).inUse = true → (0 ≤ (s.bus i).fd ↔ 0 < (s.bus i).refcnt)
  attached : ∀ ctx i, s.attachedTo ctx = some i → s.Agrees ctx i
  ledger : Proper s.log
  closedOnce : ∀ fd, (s.Opened fd → s.log.count (.acquire fd) = s.log.count (.release fd) + 1) ∧
    (¬ s.Opened fd → s.log.count (.acquire fd) = s.log.count (.release fd))
  lastDetach : ∀ ctx i, s.attachedTo ctx = some i → s.members i = {ctx} →
    (s.mbRtuClientDisconnect ctx).log = .release (s.bus i).fd :: s.log ∧
      ((s.mbRtuClientDisconnect ctx).bus i).fd = -1
  otherDetach : ∀ ctx, (∀ i, s.attachedTo ctx = some i → s.members i ≠ {ctx}) →
    (s.mbRtuClientDisconnect ctx).log = s.log ∧
      ∀ i, ((s.mbRtuClientDisconnect ctx).bus i).fd = (s.bus i).fd
  connected : ∀ ctx cfg opening, (s.mbRtuClientConnect ctx cfg opening).2 = 0 →
    (s.mbRtuClientConnect ctx cfg opening).1.log = s.log ∨
      (s.mbRtuClientConnect ctx cfg opening).1.log = .acquire opening.fd :: s.log
  failed : ∀ ctx cfg opening, s.Legal (.connect ctx cfg opening) → cfg.Short →
    (s.mbRtuClientConnect ctx cfg opening).2 = -1 →
      (∀ i, (s.bus i).inUse = true →
        ((s.mbRtuClientConnect ctx cfg opening).1.bus i).refcnt = (s.bus i).refcnt ∧
          ((s.mbRtuClientConnect ctx cfg opening).1.bus i).fd = (s.bus i).fd) ∧
      ((s.mbRtuClientConnect ctx cfg opening).1.log = s.log ∨
        (s.mbRtuClientConnect ctx cfg opening).1.log =
          .release opening.fd :: .acquire opening.fd :: s.log) ∧
      ¬ (s.mbRtuClientConnect ctx cfg opening).1.Opened opening.fd

theorem connect_succeeds (success : (s.mbRtuClientConnect self cfg opening).2 = 0) :
    (s.mbRtuClientConnect self cfg opening).1.log = s.log ∨
      (s.mbRtuClientConnect self cfg opening).1.log = .acquire opening.fd :: s.log := by
  have connects := connect_connects s self cfg opening
  generalize s.mbRtuClientConnect self cfg opening = result at connects success ⊢
  cases connects with
  | nowhere unnamed => cases success
  | full => cases success
  | failed named acquired attaches => cases success
  | connected named acquired attaches =>
      have same := acquired.log
      cases attaches with
      | opened closed valid => exact .inr (congrArg (_ :: ·) same)
      | joined isOpen agreed => exact .inl same

omit [DecidableEq Ctx] in
theorem Inv.unopened (inv : s.Inv) (fresh : fd ∉ held s.log) : ¬ s.Opened fd := by
  intro isOpen
  exact fresh ((inv.wellFormed.tracks.held fd).mpr isOpen)

theorem Inv.connect_fails (inv : s.Inv) (fresh : opening.fd ∉ held s.log) (short : cfg.Short)
    (failure : (s.mbRtuClientConnect self cfg opening).2 = -1) :
    (∀ i, (s.bus i).inUse = true →
      (s.mbRtuClientConnect self cfg opening).1.bus i = s.bus i) ∧
    ((s.mbRtuClientConnect self cfg opening).1.log = s.log ∨
      (s.mbRtuClientConnect self cfg opening).1.log =
        .release opening.fd :: .acquire opening.fd :: s.log) ∧
    ¬ (s.mbRtuClientConnect self cfg opening).1.Opened opening.fd := by
  have connects := connect_connects s self cfg opening
  generalize s.mbRtuClientConnect self cfg opening = result at connects failure ⊢
  cases connects with
  | nowhere unnamed => exact ⟨fun _ _ => rfl, .inl rfl, inv.unopened fresh⟩
  | full => exact ⟨fun _ _ => rfl, .inl rfl, inv.unopened fresh⟩
  | failed named acquired attaches =>
      have same := acquired.log
      have unopened := (inv.found acquired (short _ named)).unopened
        ((congrArg held same).symm ▸ fresh)
      cases attaches with
      | refused => exact ⟨fun _ inUse => acquired.kept inUse, .inl same, unopened⟩
      | returned closed valid =>
          exact ⟨fun _ inUse => acquired.kept inUse, .inr (congrArg (_ :: _ :: ·) same), unopened⟩
  | connected named acquired attaches => cases failure

theorem Inv.lastDetach (inv : s.Inv) (attached : s.attachedTo ctx = some i)
    (last : s.members i = {ctx}) :
    (s.mbRtuClientDisconnect ctx).log = .release (s.bus i).fd :: s.log ∧
      ((s.mbRtuClientDisconnect ctx).bus i).fd = -1 := by
  rw [inv.disconnect_last attached last, settle_bus, SharedBuses.setBus_self]
  exact ⟨rfl, rfl⟩

theorem Inv.otherDetach (inv : s.Inv)
    (other : ∀ i, s.attachedTo ctx = some i → s.members i ≠ {ctx}) :
    (s.mbRtuClientDisconnect ctx).log = s.log ∧
      ∀ i, ((s.mbRtuClientDisconnect ctx).bus i).fd = (s.bus i).fd := by
  cases attached : s.attachedTo ctx with
  | none =>
      rw [disconnect_detached attached]
      exact ⟨rfl, fun _ => rfl⟩
  | some i =>
      rw [(inv.disconnect_shared attached (other i attached)).2]
      refine ⟨rfl, ?_⟩
      intro j
      rcases eq_or_ne j i with rfl | apart
      · rw [settle_bus, SharedBuses.setBus_self]
        rfl
      · rw [settle_bus, SharedBuses.setBus_other apart]
        rfl

omit [DecidableEq Ctx] in
theorem Inv.closedOnce (inv : s.Inv) (fd : Int) :
    (s.Opened fd → s.log.count (.acquire fd) = s.log.count (.release fd) + 1) ∧
      (¬ s.Opened fd → s.log.count (.acquire fd) = s.log.count (.release fd)) := by
  have balance := inv.wellFormed.tracks.proper.balance fd
  have tracked := inv.wellFormed.tracks.held fd
  constructor
  · intro isOpen
    rw [if_pos (tracked.mpr isOpen)] at balance
    exact balance
  · intro unopened
    rw [if_neg (mt tracked.mp unopened)] at balance
    exact balance

theorem ports_shared (reached : Reach PortCall.Short Countable s) : Guarantee s := by
  have inv := reached.inv
  constructor
  case oneRecord => exact inv.wellFormed.unique
  case refcnt => exact fun i => ⟨inv.finite i, inv.counted i⟩
  case port => exact inv.port
  case attached => exact inv.attached
  case ledger => exact inv.wellFormed.tracks.proper
  case closedOnce => exact inv.closedOnce
  case lastDetach => exact fun ctx i attached last => inv.lastDetach attached last
  case otherDetach => exact fun ctx other => inv.otherDetach other
  case connected => exact fun ctx cfg opening success => connect_succeeds success
  case failed =>
    intro ctx cfg opening legal short failure
    have outcome := inv.connect_fails legal.2 short failure
    refine ⟨?_, outcome.2⟩
    intro i inUse
    rw [outcome.1 i inUse]
    exact ⟨rfl, rfl⟩

def firstBus : Fin mbRtuMaxSharedBuses := ⟨0, by decide⟩

def goodOpening : PortOpening where
  fd := 3
  tcgetattr := 0
  tcsetattr := 0

def firstShared (path : CStr) (baudRate : UInt32) : SharedBuses :=
  (((sharedBusesInit.setBus firstBus (freshBus path)).logs (.acquire goodOpening.fd)).programs path
    (mapBaudRate baudRate)).setBus firstBus
      ((freshBus path).opened goodOpening.fd baudRate).retained

theorem connect_first (self : Ctx) (named : cfg.serialPath = some path)
    (short : path.length < mbRtuPathSize) :
    (serialClientsInit : SerialClients Ctx).mbRtuClientConnect self cfg goodOpening =
      (serialClientsInit.settle (firstShared path cfg.baudRate) self
        { fd := goodOpening.fd, sharedBus := some firstBus, cfg := cfg }, 0) := by
  have whole : path.take (mbRtuPathSize - 1) = path :=
    List.take_of_length_le (Nat.le_pred_of_lt short)
  have unknown : (List.finRange mbRtuMaxSharedBuses).find? (fun i =>
      (sharedBusesInit.bus i).inUse && decide ((sharedBusesInit.bus i).path = path)) = none :=
    List.find?_eq_none.mpr (by simp [sharedBusesInit])
  have free : (List.finRange mbRtuMaxSharedBuses).find? (fun i =>
      !(sharedBusesInit.bus i).inUse) = some firstBus := by decide
  have acquired : sharedBusesInit.acquireSharedBus path =
      some (firstBus, sharedBusesInit.setBus firstBus (freshBus path)) := by
    rw [SharedBuses.acquireSharedBus, unknown, free]
    rfl
  have attached : (sharedBusesInit.setBus firstBus (freshBus path)).sharedBusAttachPort firstBus
      cfg.baudRate goodOpening = (firstShared path cfg.baudRate, some goodOpening.fd) := by
    simp [SharedBuses.sharedBusAttachPort, freshBus, goodOpening, configureSerialPort, whole,
      firstShared]
  simp only [mbRtuClientConnect, named, serialClientsInit, acquired, attached]

section Crowd

def crowdCfg : MbRtuClientConfig where
  serialPath := some ttyS1
  baudRate := 9600

def crowdRecord (n : Nat) : SharedBus where
  path := ttyS1
  inUse := true
  fd := 3
  refcnt := UInt32.ofNat n
  baudRate := 9600
  hasLastTransaction := false

def crowdFirst : PortCall Nat :=
  .connect 0 crowdCfg goodOpening

def crowdNext (n : Nat) : PortCall Nat :=
  .connect n crowdCfg { fd := -1, tcgetattr := 0, tcsetattr := 0 }

theorem crowdCfg_short : crowdCfg.Short := by
  intro path named
  cases named
  decide

theorem crowdFirst_short : crowdFirst.Short := crowdCfg_short

theorem crowdNext_short (n : Nat) : (crowdNext n).Short := crowdCfg_short

theorem crowdFirst_legal : serialClientsInit.Legal crowdFirst := ⟨rfl, by decide⟩

structure Crowded (n : Nat) (s : SerialClients Nat) : Prop where
  record : s.bus firstBus = crowdRecord n
  others : ∀ j, j ≠ firstBus → (s.bus j).inUse = false
  later : ∀ ctx, n ≤ ctx → s.attachedTo ctx = none
  log : s.log = [.acquire 3]

theorem crowded_one : Crowded 1 (serialClientsInit.step crowdFirst) where
  record := by decide
  others := by decide
  later := by
    intro ctx first
    exact settle_attachedTo_other (Nat.pos_iff_ne_zero.mp first)
  log := by decide

theorem Crowded.connect {n : Nat} {s : SerialClients Nat} (crowded : Crowded n s) :
    Crowded (n + 1) (s.step (crowdNext n)) := by
  have inUse : (s.bus firstBus).inUse = true := crowded.record ▸ rfl
  have acquired : s.shared.acquireSharedBus ttyS1 = some (firstBus, s.shared) := by
    apply SharedBuses.acquireSharedBus_known
    case unique =>
      intro i j first second _
      have only : ∀ k, (s.bus k).inUse = true → k = firstBus := by
        intro k used
        by_contra other
        rw [crowded.others k other] at used
        cases used
      rw [only i first, only j second]
    case inUse => exact inUse
    case named => exact (congrArg SharedBus.path crowded.record)
  have isOpen : 0 ≤ (s.bus firstBus).fd := by
    rw [crowded.record]
    exact (by decide : (0 : Int) ≤ 3)
  have same : (s.bus firstBus).baudRate = crowdCfg.baudRate := by
    rw [crowded.record]
    rfl
  rw [crowdNext, step, connect_joined rfl acquired isOpen same]
  constructor
  case record =>
    rw [settle_bus, SharedBuses.setBus_self, crowded.record]
    exact congrArg (fun refcnt => { crowdRecord n with refcnt := refcnt })
      (UInt32.ofNat_add n 1).symm
  case others =>
    intro j other
    rw [settle_bus, SharedBuses.setBus_other other]
    exact crowded.others j other
  case later =>
    intro ctx later
    rw [settle_attachedTo_other (by omega)]
    exact crowded.later ctx (by omega)
  case log => exact crowded.log

theorem Crowded.legal {n : Nat} {s : SerialClients Nat} (crowded : Crowded n s) :
    s.Legal (crowdNext n) := by
  refine ⟨crowded.later n le_rfl, ?_⟩
  rw [crowded.log]
  decide

theorem Crowded.countable {n : Nat} {s : SerialClients Nat} (crowded : Crowded n s)
    (few : n < 2 ^ 32) : s.Countable := by
  intro i
  have within : s.members i ⊆ Finset.range n := by
    intro ctx member
    rw [Finset.coe_range, Set.mem_Iio]
    by_contra later
    rw [mem_members, crowded.later ctx (not_lt.mp later)] at member
    cases member
  calc
    (s.members i).ncard ≤ (Finset.range n : Set Nat).ncard :=
      Set.ncard_le_ncard within (Finset.range n).finite_toSet
    _ = n := by rw [Set.ncard_coe_finset, Finset.card_range]
    _ < 2 ^ 32 := few

theorem reach_crowded {keep : SerialClients Nat → Prop} (n : Nat)
    (kept : ∀ m, m ≤ n + 1 → ∀ s, Crowded m s → keep s) :
    ∃ s, Reach PortCall.Short keep s ∧ Crowded (n + 1) s := by
  induction n with
  | zero =>
      have first := kept 1 le_rfl _ crowded_one
      exact ⟨_, Reach.step Reach.init crowdFirst_short crowdFirst_legal first, crowded_one⟩
  | succ n ih =>
      rcases ih fun m bound => kept m (Nat.le_succ_of_le bound) with ⟨s, reached, crowded⟩
      have next := kept (n + 2) le_rfl _ crowded.connect
      exact ⟨_, Reach.step reached (crowdNext_short _) crowded.legal next, crowded.connect⟩

end Crowd

theorem ports_shared_two : ∃ s : SerialClients Nat,
    (s.bus firstBus).refcnt = 2 ∧ Guarantee s := by
  rcases reach_crowded 1 fun m bound s crowded => crowded.countable (by omega) with
    ⟨s, reached, crowded⟩
  refine ⟨s, ?_, ports_shared reached⟩
  rw [crowded.record]
  rfl

/-- After 2 ^ 32 connects the count reads zero while the port is open. -/
theorem ports_count_wraps :
    ¬ ∀ s : SerialClients Nat, Reach PortCall.Short (fun _ => True) s → Guarantee s := by
  intro always
  have built : ∃ s, Reach PortCall.Short (fun _ => True) s ∧ Crowded (2 ^ 32 - 1 + 1) s :=
    reach_crowded (2 ^ 32 - 1) fun _ _ _ _ => trivial
  rcases built with ⟨s, reached, crowded⟩
  have port := (always s reached).port firstBus
  rw [crowded.record] at port
  have positive := (port rfl).mp (by decide : (0 : Int) ≤ 3)
  have zero : UInt32.ofNat (2 ^ 32 - 1 + 1) = 0 := by decide
  rw [crowdRecord, zero] at positive
  exact absurd positive (by decide)

end SerialClients

end Rs485Gateway
