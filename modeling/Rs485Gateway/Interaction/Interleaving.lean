import Rs485Gateway.Interaction.Safety

/-! Threads that run programs over one shared state.

A thread between two programs is at home. Every step is one atomic operation of
one thread; an operation may also block, which changes the shared state but
leaves the thread where it is. The history keeps all completed operations,
newest first. -/

namespace Rs485Gateway.Interaction

open Prog

structure System (S : Sig) (Thread Shared Choice Home : Type) where
  code : Code S
  /-- `none`: not possible under this choice; `some (none, _)`: blocked. -/
  perform : Thread → (operation : S.Op) → Choice → Shared →
    Option (Option (S.Res operation) × Shared)
  resume : Thread → Choice → Home → Option (Prog S Home)

structure Config (S : Sig) (Thread Shared Home : Type) where
  shared : Shared
  control : Thread → Prog S Home
  history : List (Thread × Event S)

variable {S : Sig} {Thread Shared Choice Home G : Type} [DecidableEq Thread]

def assign {α : Type} (f : Thread → α) (t : Thread) (value : α) : Thread → α :=
  fun u => if u = t then value else f u

@[simp] theorem assign_self {α : Type} (f : Thread → α) (t : Thread) (value : α) :
    assign f t value t = value := by simp [assign]

@[simp] theorem assign_other {α : Type} (f : Thread → α) {t u : Thread} (value : α)
    (other : u ≠ t) : assign f t value u = f u := by simp [assign, other]

namespace System

variable (sys : System S Thread Shared Choice Home)

def step (c : Config S Thread Shared Home) (t : Thread) (choice : Choice) :
    Option (Config S Thread Shared Home) :=
  match c.control t with
  | .ret home => (sys.resume t choice home).map fun prog =>
      { c with control := assign c.control t prog }
  | .op operation next =>
      match sys.perform t operation choice c.shared with
      | none => none
      | some (none, shared) => some { c with shared := shared }
      | some (some answer, shared) =>
          some { shared := shared, control := assign c.control t (next answer),
                 history := (t, ⟨operation, answer⟩) :: c.history }
  | .call loop next =>
      some { c with control := assign c.control t ((sys.code loop).bind next) }

def run (c : Config S Thread Shared Home) :
    List (Thread × Choice) → Option (Config S Thread Shared Home)
  | [] => some c
  | (t, choice) :: rest => (sys.step c t choice).bind fun c' => run c' rest

inductive Reaches (start : Config S Thread Shared Home) : Config S Thread Shared Home → Prop
  | refl : Reaches start start
  | step {c c' : Config S Thread Shared Home} {t : Thread} {choice : Choice}
      (before : Reaches start c) (moved : sys.step c t choice = some c') : Reaches start c'

/-- What one step can do: a thread leaves home, blocks, completes an operation,
or enters a loop. -/
inductive Step (c : Config S Thread Shared Home) (t : Thread) (choice : Choice) :
    Config S Thread Shared Home → Prop
  | resume {home : Home} {prog : Prog S Home} (atHome : c.control t = .ret home)
      (resumed : sys.resume t choice home = some prog) :
      Step c t choice { c with control := assign c.control t prog }
  | block {operation : S.Op} {next : S.Res operation → Prog S Home} {shared : Shared}
      (atOp : c.control t = .op operation next)
      (performed : sys.perform t operation choice c.shared = some (none, shared)) :
      Step c t choice { c with shared := shared }
  | complete {operation : S.Op} {next : S.Res operation → Prog S Home}
      {answer : S.Res operation} {shared : Shared} (atOp : c.control t = .op operation next)
      (performed : sys.perform t operation choice c.shared = some (some answer, shared)) :
      Step c t choice { shared := shared, control := assign c.control t (next answer),
                        history := (t, ⟨operation, answer⟩) :: c.history }
  | enter {loop : S.Loop} {next : S.Out loop → Prog S Home}
      (atCall : c.control t = .call loop next) :
      Step c t choice { c with control := assign c.control t ((sys.code loop).bind next) }

variable {sys}

theorem step_cases {c c' : Config S Thread Shared Home} {t : Thread} {choice : Choice}
    (moved : sys.step c t choice = some c') : sys.Step c t choice c' := by
  unfold step at moved
  split at moved
  case h_1 home atHome =>
    obtain ⟨prog, resumed, rfl⟩ := Option.map_eq_some_iff.mp moved
    exact .resume atHome resumed
  case h_2 operation next atOp =>
    split at moved
    case h_1 => cases moved
    case h_2 shared performed =>
      cases moved
      exact .block atOp performed
    case h_3 answer shared performed =>
      cases moved
      exact .complete atOp performed
  case h_3 loop next atCall =>
    cases moved
    exact .enter atCall

theorem step_history {c c' : Config S Thread Shared Home} {t : Thread} {choice : Choice}
    (moved : sys.step c t choice = some c') : c.history <:+ c'.history := by
  cases step_cases moved with
  | complete => exact List.suffix_cons _ _
  | _ => exact List.suffix_rfl

theorem Reaches.trans {a b c : Config S Thread Shared Home} (first : sys.Reaches a b)
    (second : sys.Reaches b c) : sys.Reaches a c := by
  induction second with
  | refl => exact first
  | step before moved ih => exact ih.step moved

theorem reaches_of_run {start final : Config S Thread Shared Home}
    {schedule : List (Thread × Choice)} (ran : sys.run start schedule = some final) :
    sys.Reaches start final := by
  induction schedule generalizing start with
  | nil => cases ran; exact .refl
  | cons head rest ih =>
      obtain ⟨c, moved, ran⟩ := Option.bind_eq_some_iff.mp ran
      exact (Reaches.refl.step moved).trans (ih ran)

/-- A schedule that runs to a state passing a test. -/
theorem reaches_of_check (sys : System S Thread Shared Choice Home)
    (start : Config S Thread Shared Home) (schedule : List (Thread × Choice))
    (check : Config S Thread Shared Home → Bool)
    (passed : (sys.run start schedule).any check = true) :
    ∃ c, sys.Reaches start c ∧ check c = true := by
  cases ran : sys.run start schedule with
  | none => simp [ran] at passed
  | some c => exact ⟨c, reaches_of_run ran, by simpa [ran] using passed⟩

theorem Reaches.induct {start : Config S Thread Shared Home}
    {inv : Config S Thread Shared Home → Prop} (base : inv start)
    (keeps : ∀ c t choice c', sys.Reaches start c → inv c → sys.Step c t choice c' → inv c')
    {c : Config S Thread Shared Home} (reached : sys.Reaches start c) : inv c := by
  induction reached with
  | refl => exact base
  | step before moved ih => exact keeps _ _ _ _ before ih (step_cases moved)

end System

namespace Protocol

variable (spec : Protocol S G)

def ghost (start : G) (t : Thread) : List (Thread × Event S) → G
  | [] => start
  | (u, ⟨operation, answer⟩) :: older =>
      if u = t then spec.next (ghost start t older) operation answer else ghost start t older

@[simp] theorem ghost_nil (start : G) (t : Thread) : spec.ghost start t [] = start := rfl

@[simp] theorem ghost_self (start : G) (t : Thread) (operation : S.Op)
    (answer : S.Res operation) (older : List (Thread × Event S)) :
    spec.ghost start t ((t, ⟨operation, answer⟩) :: older) =
      spec.next (spec.ghost start t older) operation answer := by
  simp [ghost]

@[simp] theorem ghost_other (start : G) {t u : Thread} (event : Event S)
    (older : List (Thread × Event S)) (other : u ≠ t) :
    spec.ghost start t ((u, event) :: older) = spec.ghost start t older := by
  simp [ghost, other]

end Protocol

/-- A thread keeps the protocol from here on, given where its own events left it. -/
def SafeThread (spec : Protocol S G) (start : G) (atHome : Home → G → Prop) (t : Thread)
    (c : Config S Thread Shared Home) : Prop :=
  Safe spec atHome (spec.ghost start t c.history) (c.control t)

namespace SafeThread

variable {sys : System S Thread Shared Choice Home} {spec : Protocol S G} {start : G}
  {atHome : Home → G → Prop} {t u : Thread} {choice : Choice}
  {c c' : Config S Thread Shared Home}

/-- One step keeps a thread safe: its own step by the program logic, every other
thread's step because the ghost state only reads the thread's own events. -/
theorem step (verified : spec.Verifies sys.code)
    (resumes : ∀ choice home prog, sys.resume t choice home = some prog →
      ∀ g, atHome home g → Safe spec atHome g prog)
    (relies : ∀ operation answer, c'.history = (t, ⟨operation, answer⟩) :: c.history →
      spec.rely (spec.ghost start t c.history) operation answer)
    (safe : SafeThread spec start atHome t c) (moved : sys.Step c u choice c') :
    SafeThread spec start atHome t c' := by
  by_cases same : u = t
  · subst u
    cases moved with
    | resume home resumed =>
        unfold SafeThread at safe ⊢
        rw [home] at safe
        simpa using resumes _ _ _ resumed _ safe
    | block atOp performed => exact safe
    | complete atOp performed =>
        unfold SafeThread at safe ⊢
        rw [atOp] at safe
        simpa using safe.2 _ (relies _ _ rfl)
    | enter atCall =>
        unfold SafeThread at safe ⊢
        rw [atCall] at safe
        simpa using safe.unfold_call verified
  · have other : t ≠ u := Ne.symm same
    cases moved with
    | resume home resumed => simpa [SafeThread, other] using safe
    | block atOp performed => exact safe
    | complete atOp performed => simpa [SafeThread, other, same] using safe
    | enter atCall => simpa [SafeThread, other] using safe

theorem allows {operation : S.Op} {next : S.Res operation → Prog S Home}
    (safe : SafeThread spec start atHome t c) (atOp : c.control t = .op operation next) :
    spec.allow (spec.ghost start t c.history) operation := by
  unfold SafeThread at safe
  rw [atOp] at safe
  exact safe.1

theorem returned {home : Home} (safe : SafeThread spec start atHome t c)
    (home_eq : c.control t = .ret home) : atHome home (spec.ghost start t c.history) := by
  unfold SafeThread at safe
  rw [home_eq] at safe
  exact safe

end SafeThread

end Rs485Gateway.Interaction
