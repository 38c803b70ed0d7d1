import Rs485Gateway.Bus.Exclusion
import Rs485Gateway.Daemon.BusProtocol

namespace Rs485Gateway

open Interaction

section Perform

variable {t : ThreadId} {choice : Choice} {s s' : Shared} {operation : DaemonOp}

variable {paths : Finset CStr} {path : CStr}

theorem busAcquire_cases (wf : s.bus.WellFormed paths) (fits : BusPaths paths)
    (member : path ∈ paths)
    (parked : ∀ i, s.bus.waiting t = some i → (s.bus.buses i).path = path) :
    (s.busAcquire t (some path)).1 = some () ∧
        BusCoord.Grants paths s.bus (s.busAcquire t (some path)).2.bus t path ∨
      (s.busAcquire t (some path)).1 = none ∧
        BusCoord.Parks paths s.bus (s.busAcquire t (some path)).2.bus t path := by
  unfold Shared.busAcquire
  cases waiting : s.bus.waiting t with
  | none =>
      rcases BusCoord.acquire_cases (t := t) wf fits member with
        ⟨b', result, grants⟩ | ⟨b', result, parks⟩
      · exact .inl ⟨by simp [result], by simpa [result] using grants⟩
      · exact .inr ⟨by simp [result], by simpa [result] using parks⟩
  | some i =>
      have outcome := BusCoord.takeOrWait_cases (t := t) wf (wf.waits t i waiting)
      rw [parked i waiting] at outcome
      rcases outcome with ⟨b', result, grants⟩ | ⟨b', result, parks⟩
      · exact .inl ⟨by simp [result], by simpa [result] using grants⟩
      · exact .inr ⟨by simp [result], by simpa [result] using parks⟩

theorem busAcquire_skips (awake : s.bus.waiting t = none) :
    (s.busAcquire t none).1 = some () ∧ (s.busAcquire t none).2.bus = s.bus := by
  simp [Shared.busAcquire, awake, BusCoord.acquire]

end Perform

namespace Daemon

variable (daemon : Daemon)

/-- The serial line a thread's frames go over. -/
def line : ThreadId → Option CStr
  | .unit id => (daemon.unit? id).bind busPath
  | _ => none

def busGhost (t : ThreadId) (history : History) : BusGhost :=
  (busSpec (daemon.line t)).ghost .outside t history

def Exclusive (history : History) : Prop :=
  ∀ t u path, daemon.line t = some path → daemon.line u = some path →
    0 < (daemon.busGhost t history).depth → 0 < (daemon.busGhost u history).depth → t = u

/-- Every event was allowed when it happened, and every moment was exclusive. -/
def Lawful : History → Prop
  | [] => True
  | (t, event) :: older =>
      (daemon.busGhost t older).Allows (daemon.line t) event.1 ∧
        (∀ u, (daemon.busGhost u older).Sound) ∧ daemon.Exclusive older ∧ Lawful older

structure BusInv (paths : Finset CStr) (c : DaemonConfig) : Prop where
  wellFormed : c.shared.bus.WellFormed paths
  safe : ∀ t, SafeThread (busSpec (daemon.line t)) .outside (fun _ g => g = .outside) t c
  sound : ∀ t, (daemon.busGhost t c.history).Sound
  held : ∀ t path, c.shared.bus.heldDepth t path =
    if daemon.line t = some path then (daemon.busGhost t c.history).depth else 0
  waits : ∀ t i, c.shared.bus.waiting t = some i → ∃ path next,
    c.control t = .op (.busAcquire (some path)) next ∧ (c.shared.bus.buses i).path = path
  lawful : daemon.Lawful c.history

variable {daemon} {paths : Finset CStr} {c c' : DaemonConfig} {t u : ThreadId} {path : CStr}

theorem BusInv.exclusive (inv : daemon.BusInv paths c) : daemon.Exclusive c.history := by
  intro t u path first second heldFirst heldSecond
  apply BusCoord.held_unique (b := c.shared.bus)
  · rw [inv.held t path, if_pos first]
    exact heldFirst
  · rw [inv.held u path, if_pos second]
    exact heldSecond

@[simp] theorem busGhost_self (operation : DaemonOp) (answer : operation.Res)
    (older : History) :
    daemon.busGhost t ((t, ⟨operation, answer⟩) :: older) =
      (daemon.busGhost t older).after operation :=
  Protocol.ghost_self _ _ _ _ _ _

@[simp] theorem busGhost_other (event : DaemonEvent) (older : History) (other : u ≠ t) :
    daemon.busGhost t ((u, event) :: older) = daemon.busGhost t older :=
  Protocol.ghost_other _ _ _ _ other

theorem aside_safe {α : Type} {line : Option CStr} {g : BusGhost} {prog : DaemonProg α}
    {allowed : DaemonOp → Prop} (uses : Uses allowed (fun _ => False) prog)
    (away : ∀ operation, allowed operation → aside operation) :
    Safe (busSpec line) (fun _ g' => g' = g) g prog := by
  refine (uses.mono away).safe ?_ ?_ (fun _ => False.elim) fun _ _ _ never => never.elim
  · intro operation apart
    cases operation <;> first | trivial | exact (apart.elim id id).elim
  · intro operation _ apart
    cases operation <;> first | rfl | exact (apart.elim id id).elim

theorem resume_safe {choice : Choice} {home : Home} {prog : DaemonProg Home}
    (resumed : daemon.resume t choice home = some prog) :
    Safe (busSpec (daemon.line t)) (fun _ g => g = .outside) .outside prog := by
  cases resume_cases resumed with
  | @unit id unit phase st prog present starts =>
      have line : daemon.line (.unit id) = busPath unit := by
        simp [Daemon.line, present]
      have safe := BusProtocol.keeps_callbacks id.kind unit st connectionDisconnected
      rw [line]
      cases starts with
      | init => exact safe.1.bind fun _ => rfl
      | process => exact safe.2.1.bind fun _ => rfl
      | error => exact safe.2.2.bind fun _ => rfl
      | stop => exact BusProtocol.ask_bind trivial fun _ => rfl
  | message kind =>
      cases kind with
      | inverter =>
          exact ⟨trivial, fun command _ =>
            aside_safe ((inverterDispatch_handles command).bind fun _ => trivial) fun _ => .inl⟩
      | ups =>
          exact ⟨trivial, fun command _ =>
            aside_safe ((upsDispatch_handles command).bind fun _ => trivial) fun _ => .inl⟩
  | pass states =>
      exact aside_safe ((alarmPass_watches states).bind fun _ => trivial) fun _ => .inr

def LinesWithin (daemon : Daemon) (paths : Finset CStr) : Prop :=
  ∀ t path, daemon.line t = some path → path ∈ paths

theorem SafeThread_of_step (inv : daemon.BusInv paths c) {choice : Choice}
    (moved : daemon.system.Step c u choice c') :
    SafeThread (busSpec (daemon.line t)) .outside (fun _ g => g = .outside) t c' := by
  have verified : (busSpec (daemon.line t)).Verifies daemon.system.code :=
    BusProtocol.busSpec_verifies
  refine SafeThread.step verified ?_ ?_ (inv.safe t) moved
  · rintro choice home prog resumed g rfl
    exact resume_safe resumed
  · intro operation answer _
    trivial

theorem BusInv.record (inv : daemon.BusInv paths c) (operation : DaemonOp)
    {next : operation.Res → DaemonProg Home} (answer : operation.Res)
    (atOp : c.control t = .op operation next) :
    (daemon.busGhost t c.history).Allows (daemon.line t) operation ∧
      (∀ u, (daemon.busGhost u ((t, ⟨operation, answer⟩) :: c.history)).Sound) ∧
      daemon.Lawful ((t, ⟨operation, answer⟩) :: c.history) := by
  have allowed : (daemon.busGhost t c.history).Allows (daemon.line t) operation :=
    (inv.safe t).allows atOp
  refine ⟨allowed, ?_, allowed, inv.sound, inv.exclusive, inv.lawful⟩
  intro u
  rcases eq_or_ne u t with rfl | other
  · rw [busGhost_self]
    exact (inv.sound u).after allowed
  · rw [busGhost_other _ _ other.symm]
    exact inv.sound u

theorem BusInv.frame (inv : daemon.BusInv paths c) {operation : DaemonOp}
    {next : operation.Res → DaemonProg Home} {answer : operation.Res} {shared : Shared}
    (atOp : c.control t = .op operation next) (same : shared.bus = c.shared.bus)
    (flat : daemon.line t = none ∨ ((daemon.busGhost t c.history).after operation).depth =
      (daemon.busGhost t c.history).depth)
    (awake : c.shared.bus.waiting t = none)
    (safe : ∀ u, SafeThread (busSpec (daemon.line u)) .outside (fun _ g => g = .outside) u
      { shared := shared, control := assign c.control t (next answer),
        history := (t, ⟨operation, answer⟩) :: c.history }) :
    daemon.BusInv paths
      { shared := shared, control := assign c.control t (next answer),
        history := (t, ⟨operation, answer⟩) :: c.history } := by
  obtain ⟨_, sound, lawful⟩ := inv.record operation answer atOp
  constructor
  case wellFormed => exact same ▸ inv.wellFormed
  case safe => exact safe
  case sound => exact sound
  case held =>
    intro u path
    have before := inv.held u path
    simp only [same]
    rcases eq_or_ne u t with rfl | other
    · rcases flat with noLine | flat
      · simpa [noLine] using before
      · rw [before, busGhost_self, flat]
    · rw [before, busGhost_other _ _ other.symm]
  case waits =>
    intro u i waiting
    simp only [same] at waiting ⊢
    rcases eq_or_ne u t with rfl | other
    · rw [awake] at waiting
      cases waiting
    · rw [assign_other _ _ other]
      exact inv.waits u i waiting
  case lawful => exact lawful

theorem BusInv.awake (inv : daemon.BusInv paths c)
    (busy : ∀ path next, c.control t ≠ .op (.busAcquire (some path)) next) :
    c.shared.bus.waiting t = none := by
  cases waiting : c.shared.bus.waiting t with
  | none => rfl
  | some i =>
      obtain ⟨path, next, atOp, _⟩ := inv.waits t i waiting
      exact absurd atOp (busy path next)

theorem BusInv.parkedOn (inv : daemon.BusInv paths c) {next : Unit → DaemonProg Home}
    (atOp : c.control t = .op (.busAcquire (some path)) next) {i : Fin busCoordMaxBuses}
    (waiting : c.shared.bus.waiting t = some i) : (c.shared.bus.buses i).path = path := by
  obtain ⟨asked, _, atOp', named⟩ := inv.waits t i waiting
  rw [atOp] at atOp'
  cases atOp'
  exact named

theorem BusInv.recontrol (inv : daemon.BusInv paths c) {prog : DaemonProg Home}
    (awake : c.shared.bus.waiting t = none)
    (safe : ∀ u, SafeThread (busSpec (daemon.line u)) .outside (fun _ g => g = .outside) u
      { c with control := assign c.control t prog }) :
    daemon.BusInv paths { c with control := assign c.control t prog } := by
  refine ⟨inv.wellFormed, safe, inv.sound, inv.held, ?_, inv.lawful⟩
  intro u i waiting
  rcases eq_or_ne u t with rfl | other
  · rw [awake] at waiting
    cases waiting
  · simp only [assign_other _ _ other]
    exact inv.waits u i waiting

theorem BusInv.waits_extend (inv : daemon.BusInv paths c) {bus : BusCoord ThreadId}
    (keeps : c.shared.bus.Extends bus) {i : Fin busCoordMaxBuses}
    (waiting : c.shared.bus.waiting u = some i) : ∃ path next,
      c.control u = .op (.busAcquire (some path)) next ∧ (bus.buses i).path = path := by
  obtain ⟨path, next, atOp, named⟩ := inv.waits u i waiting
  exact ⟨path, next, atOp, (keeps i (inv.wellFormed.waits u i waiting)).2.trans named⟩

theorem BusInv.park (inv : daemon.BusInv paths c) {next : Unit → DaemonProg Home}
    {shared : Shared} (atOp : c.control t = .op (.busAcquire (some path)) next)
    (parks : BusCoord.Parks paths c.shared.bus shared.bus t path)
    (safe : ∀ u, SafeThread (busSpec (daemon.line u)) .outside (fun _ g => g = .outside) u
      { c with shared := shared }) :
    daemon.BusInv paths { c with shared := shared } := by
  refine ⟨parks.wellFormed, safe, inv.sound, ?_, ?_, inv.lawful⟩
  · intro u q
    rw [parks.frame u q]
    exact inv.held u q
  · intro u i waiting
    obtain ⟨slot, named, marked⟩ := parks.waiting
    simp only [marked] at waiting
    rcases eq_or_ne u t with rfl | other
    · rw [assign_self] at waiting
      cases waiting
      exact ⟨path, next, atOp, named⟩
    · rw [assign_other _ _ other] at waiting
      exact inv.waits_extend parks.keeps waiting

/-- An operation that moves one depth on one path moves the ghost depth with it. -/
theorem BusInv.held_moves (inv : daemon.BusInv paths c) {bus : BusCoord ThreadId}
    {operation : DaemonOp} (answer : operation.Res) (line : daemon.line t = some path)
    (frame : ∀ u q, u ≠ t ∨ q ≠ path → bus.heldDepth u q = c.shared.bus.heldDepth u q)
    (moves : bus.heldDepth t path = ((daemon.busGhost t c.history).after operation).depth)
    (u : ThreadId) (q : CStr) : bus.heldDepth u q =
      if daemon.line u = some q then
        (daemon.busGhost u ((t, ⟨operation, answer⟩) :: c.history)).depth else 0 := by
  have before := inv.held u q
  rcases eq_or_ne u t with rfl | other
  · rw [busGhost_self]
    rcases eq_or_ne q path with rfl | apart
    · rw [if_pos line, moves]
    · have notLine : daemon.line u ≠ some q := by
        rw [line]
        exact fun same => apart (Option.some.inj same).symm
      rw [if_neg notLine] at before
      rw [frame u q (.inr apart), before, if_neg notLine]
  · rw [busGhost_other _ _ other.symm, frame u q (.inl other), before]

theorem BusInv.grant (inv : daemon.BusInv paths c) {next : Unit → DaemonProg Home}
    {shared : Shared} (atOp : c.control t = .op (.busAcquire (some path)) next)
    (grants : BusCoord.Grants paths c.shared.bus shared.bus t path)
    (safe : ∀ u, SafeThread (busSpec (daemon.line u)) .outside (fun _ g => g = .outside) u
      { shared := shared, control := assign c.control t (next ()),
        history := (t, ⟨.busAcquire (some path), ()⟩) :: c.history }) :
    daemon.BusInv paths
      { shared := shared, control := assign c.control t (next ()),
        history := (t, ⟨.busAcquire (some path), ()⟩) :: c.history } := by
  obtain ⟨allowed, sound, lawful⟩ := inv.record (.busAcquire (some path)) () atOp
  have line : daemon.line t = some path := allowed.1.symm
  have shallow : (daemon.busGhost t c.history).depth ≤ 1 := allowed.2
  refine ⟨grants.wellFormed, safe, sound, inv.held_moves () line grants.frame ?_, ?_, lawful⟩
  · have before := inv.held t path
    rw [if_pos line] at before
    rw [grants.deeper, before]
    simp only [BusGhost.after]
    omega
  · intro u i waiting
    simp only [grants.waiting] at waiting
    rcases eq_or_ne u t with rfl | other
    · rw [assign_self] at waiting
      cases waiting
    · rw [assign_other _ _ other] at waiting
      simp only [assign_other _ _ other]
      exact inv.waits_extend grants.keeps waiting

theorem BusInv.drop (inv : daemon.BusInv paths c) {next : Unit → DaemonProg Home}
    {shared : Shared} (atOp : c.control t = .op (.busRelease (some path)) next)
    (drops : BusCoord.Drops paths c.shared.bus shared.bus t path)
    (safe : ∀ u, SafeThread (busSpec (daemon.line u)) .outside (fun _ g => g = .outside) u
      { shared := shared, control := assign c.control t (next ()),
        history := (t, ⟨.busRelease (some path), ()⟩) :: c.history }) :
    daemon.BusInv paths
      { shared := shared, control := assign c.control t (next ()),
        history := (t, ⟨.busRelease (some path), ()⟩) :: c.history } := by
  obtain ⟨allowed, sound, lawful⟩ := inv.record (.busRelease (some path)) () atOp
  have line : daemon.line t = some path := allowed.1.symm
  have awake : c.shared.bus.waiting t = none := inv.awake (by simp [atOp])
  refine ⟨drops.wellFormed, safe, sound, inv.held_moves () line drops.frame ?_, ?_, lawful⟩
  · have before := inv.held t path
    have shallower := drops.shallower
    rw [if_pos line] at before
    simp only [BusGhost.after]
    omega
  · intro u i waiting
    simp only [drops.waiting] at waiting
    rcases eq_or_ne u t with rfl | other
    · rw [awake] at waiting
      cases waiting
    · simp only [assign_other _ _ other]
      exact inv.waits_extend drops.keeps waiting

theorem BusInv.acquired (inv : daemon.BusInv paths c) (fits : BusPaths paths)
    (known : daemon.LinesWithin paths) (choice : Choice) {path : Option CStr}
    {next : Unit → DaemonProg Home} {shared : Shared}
    (atOp : c.control t = .op (.busAcquire path) next)
    (performed : perform t choice c.shared (.busAcquire path) = some (some (), shared))
    (safe : ∀ u, SafeThread (busSpec (daemon.line u)) .outside (fun _ g => g = .outside) u
      { shared := shared, control := assign c.control t (next ()),
        history := (t, ⟨.busAcquire path, ()⟩) :: c.history }) :
    daemon.BusInv paths
      { shared := shared, control := assign c.control t (next ()),
        history := (t, ⟨.busAcquire path, ()⟩) :: c.history } := by
  have allowed := (inv.safe t).allows atOp
  obtain ⟨owned, rfl⟩ := Prod.ext_iff.mp (Option.some.inj performed)
  cases path with
  | none =>
      have awake := inv.awake (t := t) (by simp [atOp])
      exact inv.frame atOp (busAcquire_skips awake).2 (.inl allowed.1.symm) awake safe
  | some path =>
      have member := known t path allowed.1.symm
      rcases busAcquire_cases (t := t) inv.wellFormed fits member
        (fun i waiting => inv.parkedOn atOp waiting) with ⟨_, grants⟩ | ⟨blocked, _⟩
      · exact inv.grant atOp grants safe
      · exact absurd (blocked.symm.trans owned) (by simp)

theorem BusInv.released (inv : daemon.BusInv paths c) (fits : BusPaths paths)
    (known : daemon.LinesWithin paths) (choice : Choice) {path : Option CStr}
    {next : Unit → DaemonProg Home} {shared : Shared}
    (atOp : c.control t = .op (.busRelease path) next)
    (performed : perform t choice c.shared (.busRelease path) = some (some (), shared))
    (safe : ∀ u, SafeThread (busSpec (daemon.line u)) .outside (fun _ g => g = .outside) u
      { shared := shared, control := assign c.control t (next ()),
        history := (t, ⟨.busRelease path, ()⟩) :: c.history }) :
    daemon.BusInv paths
      { shared := shared, control := assign c.control t (next ()),
        history := (t, ⟨.busRelease path, ()⟩) :: c.history } := by
  have allowed := (inv.safe t).allows atOp
  have awake : c.shared.bus.waiting t = none := inv.awake (by simp [atOp])
  cases performed
  cases path with
  | none => exact inv.frame atOp rfl (.inl allowed.1.symm) awake safe
  | some path =>
      have line := allowed.1.symm
      have held : 0 < c.shared.bus.heldDepth t path := by
        rw [inv.held, if_pos line]
        exact allowed.2.1
      obtain ⟨b', result, drops⟩ := BusCoord.release_drops inv.wellFormed
        (fits.nonempty path (known t path line)) held
      exact inv.drop atOp (by simpa [result] using drops) safe

theorem BusInv.step (inv : daemon.BusInv paths c) (fits : BusPaths paths)
    (known : daemon.LinesWithin paths) {choice : Choice}
    (moved : daemon.system.Step c t choice c') : daemon.BusInv paths c' := by
  have safe : ∀ u, SafeThread (busSpec (daemon.line u)) .outside (fun _ g => g = .outside) u c' :=
    fun u => SafeThread_of_step inv moved
  cases moved with
  | resume atHome resumed => exact inv.recontrol (inv.awake (by simp [atHome])) safe
  | enter atCall => exact inv.recontrol (inv.awake (by simp [atCall])) safe
  | @block operation next shared atOp performed =>
      have allowed := (inv.safe t).allows atOp
      by_cases acquires : ∃ path, operation = .busAcquire path
      · obtain ⟨path, rfl⟩ := acquires
        cases path with
        | none =>
            have free := (busAcquire_skips (inv.awake (t := t) (by simp [atOp]))).1
            simp [system, perform, Prod.ext_iff, free] at performed
        | some path =>
            have member := known t path allowed.1.symm
            obtain ⟨blocked, rfl⟩ := Prod.ext_iff.mp (Option.some.inj performed)
            rcases busAcquire_cases (t := t) inv.wellFormed fits member
              (fun i waiting => inv.parkedOn atOp waiting) with ⟨owned, _⟩ | ⟨_, parks⟩
            · exact absurd (owned.symm.trans blocked) (by simp)
            · exact inv.park atOp parks safe
      · by_cases releases : ∃ path, operation = .busRelease path
        · obtain ⟨path, rfl⟩ := releases
          simp [system, perform] at performed
        · obtain ⟨⟨answer, some_eq⟩, _⟩ := perform_bus performed
            (fun path same => acquires ⟨path, same⟩) (fun path same => releases ⟨path, same⟩)
          cases some_eq
  | @complete operation next answer shared atOp performed =>
      by_cases acquires : ∃ path, operation = .busAcquire path
      · obtain ⟨path, rfl⟩ := acquires
        exact inv.acquired fits known choice atOp performed safe
      by_cases releases : ∃ path, operation = .busRelease path
      · obtain ⟨path, rfl⟩ := releases
        exact inv.released fits known choice atOp performed safe
      have awake : c.shared.bus.waiting t = none := by
        refine inv.awake fun path next' same => acquires ⟨some path, ?_⟩
        rw [atOp] at same
        cases same
        rfl
      have apart := perform_bus performed
        (fun path same => acquires ⟨path, same⟩) (fun path same => releases ⟨path, same⟩)
      refine inv.frame atOp apart.2 (.inr ?_) awake safe
      cases operation with
      | busAcquire path => exact absurd ⟨path, rfl⟩ acquires
      | busRelease path => exact absurd ⟨path, rfl⟩ releases
      | mark mark => cases mark <;> rfl
      | _ => rfl

theorem Lawful.tail {newer older : History} (lawful : daemon.Lawful (newer ++ older)) :
    daemon.Lawful older := by
  induction newer with
  | nil => exact lawful
  | cons event rest ih => exact ih lawful.2.2.2

theorem after_inside {g : BusGhost} {operation : DaemonOp} (quiet : isMark operation = false) :
    (g.after operation).inside = g.inside := by
  cases operation <;> first | rfl | simp [isMark] at quiet

theorem inside_append {mid older : History}
    (quiet : ∀ event, (t, event) ∈ mid → isMark event.1 = false) :
    (daemon.busGhost t (mid ++ older)).inside = (daemon.busGhost t older).inside := by
  induction mid with
  | nil => rfl
  | cons head rest ih =>
      have rest_quiet := ih fun event member => quiet event (List.mem_cons_of_mem _ member)
      obtain ⟨v, operation, answer⟩ := head
      rw [List.cons_append]
      rcases eq_or_ne v t with rfl | other
      · have here := quiet ⟨operation, answer⟩ List.mem_cons_self
        rw [busGhost_self, after_inside here, rest_quiet]
      · rw [busGhost_other _ _ other, rest_quiet]

/-- The lock is held from one frame of a section to the section's end. -/
theorem Lawful.undisturbed {mid older : History} {first event : DaemonEvent}
    (lawful : daemon.Lawful (mid ++ (t, first) :: older))
    (frame : first.1.transactionOn path = true)
    (opened : (daemon.busGhost t older).inside ≠ none)
    (quiet : ∀ event, (t, event) ∈ mid → isMark event.1 = false) (member : (u, event) ∈ mid)
    (foreign : event.1.transactionOn path = true) : u = t := by
  have first_quiet : isMark first.1 = false := by
    obtain ⟨operation, answer⟩ := first
    cases operation <;> first | rfl | simp [DaemonOp.transactionOn] at frame
  obtain ⟨later, earlier, rfl⟩ := List.append_of_mem member
  rw [List.append_assoc] at lawful
  have now := lawful.tail
  have began : daemon.Lawful ((t, first) :: older) := now.2.2.2.tail
  have lineSelf := (BusGhost.Allows.holds began.1 frame).1
  have lineOther := BusGhost.Allows.holds now.1 foreign
  have still : (daemon.busGhost t (earlier ++ (t, first) :: older)).inside ≠ none := by
    rw [inside_append fun event member =>
      quiet event (List.mem_append_right _ (List.mem_cons_of_mem _ member))]
    obtain ⟨operation, answer⟩ := first
    rw [busGhost_self, after_inside first_quiet]
    exact opened
  exact now.2.2.1 u t path lineOther.1 lineSelf lineOther.2 (now.2.1 t still)

end Daemon

end Rs485Gateway
