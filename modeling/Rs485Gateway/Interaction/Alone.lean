import Rs485Gateway.Interaction.Interleaving

namespace Rs485Gateway.Interaction.System

open Prog

variable {S : Sig} {Thread Shared Choice Home α β : Type}

/-- The state it leaves, its events, oldest first, and what it returns; `none` where an
operation is not possible or blocks, and at a loop. -/
def alone (sys : System S Thread Shared Choice Home) (t : Thread) (choice : Choice) :
    Prog S α → Shared → Option (Shared × List (Event S) × α)
  | ret value, s => some (s, [], value)
  | op operation next, s =>
      match sys.perform t operation choice s with
      | some (some answer, after) =>
          (alone sys t choice (next answer) after).map fun out =>
            (out.1, ⟨operation, answer⟩ :: out.2.1, out.2.2)
      | _ => none
  | call _ _, _ => none

variable {sys : System S Thread Shared Choice Home} {t : Thread} {choice : Choice}

@[simp] theorem alone_ret (value : α) (s : Shared) :
    sys.alone t choice (ret value) s = some (s, [], value) := rfl

theorem alone_op {operation : S.Op} {answer : S.Res operation} {s after : Shared}
    (performed : sys.perform t operation choice s = some (some answer, after))
    (next : S.Res operation → Prog S α) :
    sys.alone t choice (op operation next) s =
      (sys.alone t choice (next answer) after).map fun out =>
        (out.1, ⟨operation, answer⟩ :: out.2.1, out.2.2) := by
  rw [alone, performed]

theorem alone_bind {prog : Prog S α} {f : α → Prog S β} {s middle : Shared}
    {events : List (Event S)} {value : α}
    (first : sys.alone t choice prog s = some (middle, events, value)) :
    sys.alone t choice (prog.bind f) s =
      (sys.alone t choice (f value) middle).map fun out =>
        (out.1, events ++ out.2.1, out.2.2) := by
  induction prog generalizing s events with
  | ret value =>
      cases first
      simp
  | call loop next => cases first
  | op operation next ih =>
      rw [alone] at first
      split at first
      · rename_i answer after performed
        obtain ⟨⟨ends, later, result⟩, rest, same⟩ := Option.map_eq_some_iff.mp first
        cases same
        rw [op_bind, alone_op performed, ih answer rest, Option.map_map]
        rfl
      · cases first

/-- It is one of the schedules of the system. -/
theorem alone_reaches [DecidableEq Thread] {prog : Prog S Home}
    {c : Config S Thread Shared Home} {after : Shared} {events : List (Event S)} {home : Home}
    (here : c.control t = prog)
    (ran : sys.alone t choice prog c.shared = some (after, events, home)) :
    ∃ c', sys.Reaches c c' ∧ c'.shared = after ∧ c'.control = assign c.control t (ret home) := by
  induction prog generalizing c events with
  | ret value =>
      cases ran
      refine ⟨c, .refl, rfl, ?_⟩
      funext u
      by_cases same : u = t
      · rw [same, assign_self, here]
      · rw [assign_other _ _ same]
  | call loop next => cases ran
  | op operation next ih =>
      rw [alone] at ran
      split at ran
      · rename_i answer middle performed
        obtain ⟨⟨ends, later, result⟩, rest, same⟩ := Option.map_eq_some_iff.mp ran
        cases same
        have moved : sys.step c t choice = some
            { shared := middle, control := assign c.control t (next answer),
              history := (t, ⟨operation, answer⟩) :: c.history } := by
          rw [step, here]
          simp only [performed]
        obtain ⟨c', reached, shared, control⟩ := ih answer
          (c := { shared := middle, control := assign c.control t (next answer),
                  history := (t, ⟨operation, answer⟩) :: c.history }) (assign_self _ _ _) rest
        refine ⟨c', (Reaches.refl.step moved).trans reached, shared, ?_⟩
        rw [control]
        funext u
        by_cases same : u = t
        · rw [same, assign_self, assign_self]
        · rw [assign_other _ _ same, assign_other _ _ same]
          exact assign_other _ _ same
      · cases ran

end Rs485Gateway.Interaction.System
