import Rs485Gateway.Interaction.Interleaving

/-! One thread in any interleaving: as long as the answers it got are the ones its
protocol relies on, every operation it completed was allowed. -/

namespace Rs485Gateway.Interaction

variable {S : Sig} {Thread Shared Choice Home G : Type} [DecidableEq Thread]

namespace Protocol

variable (spec : Protocol S G) (start : G) (t : Thread)

def Trusted : List (Thread × Event S) → Prop
  | [] => True
  | (u, ⟨operation, answer⟩) :: older =>
      (u = t → spec.rely (spec.ghost start t older) operation answer) ∧ Trusted older

/-- The operations a thread completed were allowed when they happened. -/
def Kept : List (Thread × Event S) → Prop
  | [] => True
  | (u, ⟨operation, _⟩) :: older =>
      (u = t → spec.allow (spec.ghost start t older) operation) ∧ Kept older

variable {spec start t} {newer older : List (Thread × Event S)}

theorem Trusted.of_forall (trusts : ∀ g operation answer, spec.rely g operation answer)
    (history : List (Thread × Event S)) : spec.Trusted start t history := by
  induction history with
  | nil => trivial
  | cons event older ih => exact ⟨fun _ => trusts _ _ _, ih⟩

theorem Kept.tail (kept : spec.Kept start t (newer ++ older)) : spec.Kept start t older := by
  induction newer with
  | nil => exact kept
  | cons event newer ih => exact ih kept.2

theorem Kept.allowed {operation : S.Op} {answer : S.Res operation}
    (kept : spec.Kept start t (newer ++ (t, ⟨operation, answer⟩) :: older)) :
    spec.allow (spec.ghost start t older) operation :=
  kept.tail.1 rfl

end Protocol

section

variable {sys : System S Thread Shared Choice Home} {spec : Protocol S G} {start : G}
  {atHome : Home → G → Prop} {t : Thread} {c c' : Config S Thread Shared Home}

/-- The step lemma: a completed operation of the thread was allowed. -/
theorem Protocol.Kept.step {u : Thread} {choice : Choice} (moved : sys.Step c u choice c')
    (safe : SafeThread spec start atHome t c) (kept : spec.Kept start t c.history) :
    spec.Kept start t c'.history := by
  cases moved with
  | complete atOp performed =>
      refine ⟨?_, kept⟩
      rintro rfl
      exact safe.allows atOp
  | _ => exact kept

theorem System.Reaches.guarantee (verified : spec.Verifies sys.code)
    (resumes : ∀ choice home prog, sys.resume t choice home = some prog →
      ∀ g, atHome home g → Safe spec atHome g prog)
    {init : Config S Thread Shared Home} (empty : init.history = [])
    (starts : SafeThread spec start atHome t init) (reached : sys.Reaches init c)
    (trusted : spec.Trusted start t c.history) :
    SafeThread spec start atHome t c ∧ spec.Kept start t c.history := by
  induction reached with
  | refl => exact ⟨starts, empty ▸ trivial⟩
  | @step c c' u choice before moved ih =>
      have step := System.step_cases moved
      have earlier : spec.Trusted start t c.history := by
        cases step with
        | complete => exact trusted.2
        | _ => exact trusted
      obtain ⟨safe, kept⟩ := ih earlier
      refine ⟨safe.step verified resumes ?_ step, kept.step step safe⟩
      intro operation answer extended
      rw [extended] at trusted
      exact trusted.1 rfl

def usesSpec (allowed : S.Op → Prop) : Protocol S Unit where
  allow := fun _ => allowed
  rely := fun _ _ _ => True
  next := fun _ _ _ => ()
  enter := fun _ _ => True
  leave := fun _ _ _ _ => True

theorem usesSpec_safe {allowed : S.Op → Prop} {α : Type} {prog : Prog S α}
    (uses : Uses allowed (fun _ => True) prog) :
    Safe (usesSpec allowed) (fun _ _ => True) () prog :=
  uses.safe_any (fun _ _ here => here) fun _ _ _ => trivial

theorem System.Reaches.uses {allowed : S.Op → Prop}
    (bodies : ∀ loop, Uses allowed (fun _ => True) (sys.code loop))
    (resumes : ∀ choice home prog, sys.resume t choice home = some prog →
      Uses allowed (fun _ => True) prog)
    {init : Config S Thread Shared Home} (empty : init.history = [])
    {home : Home} (starts : init.control t = .ret home) (reached : sys.Reaches init c)
    {newer older : List (Thread × Event S)} {operation : S.Op} {answer : S.Res operation}
    (split : c.history = newer ++ (t, ⟨operation, answer⟩) :: older) : allowed operation := by
  have verified : (usesSpec allowed).Verifies sys.code :=
    fun loop _ _ => usesSpec_safe (bodies loop)
  have atHome : SafeThread (usesSpec allowed) () (fun _ _ => True) t init := by
    rw [SafeThread, starts]
    trivial
  have trusts : (usesSpec allowed).Trusted () t c.history :=
    Protocol.Trusted.of_forall (fun _ _ _ => trivial) c.history
  have kept := (reached.guarantee verified
    (fun choice home prog resumed _ _ => usesSpec_safe (resumes choice home prog resumed)) empty
    atHome trusts).2
  rw [split] at kept
  exact kept.allowed

end

end Rs485Gateway.Interaction
