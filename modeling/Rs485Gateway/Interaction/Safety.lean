import Rs485Gateway.Interaction.Program

/-! A protocol for programs: which operation is allowed in which ghost state,
and how its answer moves the ghost state. `Safe` is the weakest precondition of
a program under a protocol, so one verified body serves every run and every
interleaving that contains it. -/

namespace Rs485Gateway.Interaction

open Prog

structure Protocol (S : Sig) (G : Type) where
  /-- What the program must guarantee before it performs the operation. -/
  allow : G → S.Op → Prop
  /-- What the program may rely on about the answer. -/
  rely : G → (operation : S.Op) → S.Res operation → Prop
  next : G → (operation : S.Op) → S.Res operation → G
  enter : (loop : S.Loop) → G → Prop
  leave : (loop : S.Loop) → G → S.Out loop → G → Prop

variable {S : Sig} {G α β : Type}

def Safe (spec : Protocol S G) (post : α → G → Prop) : G → Prog S α → Prop
  | g, ret value => post value g
  | g, op operation next => spec.allow g operation ∧
      ∀ answer, spec.rely g operation answer →
        Safe spec post (spec.next g operation answer) (next answer)
  | g, call loop next => spec.enter loop g ∧
      ∀ out g', spec.leave loop g out g' → Safe spec post g' (next out)

/-- Every loop body keeps the contract that `enter` and `leave` promise for it. -/
def Protocol.Verifies (spec : Protocol S G) (code : Code S) : Prop :=
  ∀ loop g, spec.enter loop g → Safe spec (spec.leave loop g) g (code loop)

namespace Safe

variable {spec : Protocol S G}

@[simp] theorem ret_iff {post : α → G → Prop} {g : G} {value : α} :
    Safe spec post g (ret value) ↔ post value g := Iff.rfl

@[simp] theorem op_iff {post : α → G → Prop} {g : G} {operation : S.Op}
    {next : S.Res operation → Prog S α} :
    Safe spec post g (op operation next) ↔ spec.allow g operation ∧
      ∀ answer, spec.rely g operation answer →
        Safe spec post (spec.next g operation answer) (next answer) := Iff.rfl

@[simp] theorem call_iff {post : α → G → Prop} {g : G} {loop : S.Loop}
    {next : S.Out loop → Prog S α} :
    Safe spec post g (call loop next) ↔ spec.enter loop g ∧
      ∀ out g', spec.leave loop g out g' → Safe spec post g' (next out) := Iff.rfl

theorem mono {first second : α → G → Prop} {prog : Prog S α} {g : G}
    (safe : Safe spec first g prog) (implies : ∀ value g', first value g' → second value g') :
    Safe spec second g prog := by
  induction prog generalizing g with
  | ret value => exact implies value g safe
  | op operation next ih =>
      exact ⟨safe.1, fun answer trusted => ih answer (safe.2 answer trusted)⟩
  | call loop next ih =>
      exact ⟨safe.1, fun out g' left => ih out (safe.2 out g' left)⟩

theorem bind_iff {post : β → G → Prop} {prog : Prog S α} {f : α → Prog S β} {g : G} :
    Safe spec post g (prog.bind f) ↔
      Safe spec (fun value g' => Safe spec post g' (f value)) g prog := by
  induction prog generalizing g with
  | ret value => exact Iff.rfl
  | op operation next ih => simp only [op_bind, op_iff, ih]
  | call loop next ih => simp only [call_bind, call_iff, ih]

theorem bind {post : β → G → Prop} {middle : α → G → Prop} {prog : Prog S α}
    {f : α → Prog S β} {g : G} (head : Safe spec middle g prog)
    (tail : ∀ value g', middle value g' → Safe spec post g' (f value)) :
    Safe spec post g (prog.bind f) :=
  bind_iff.mpr (head.mono tail)

theorem unfold_call {post : α → G → Prop} {code : Code S} (verified : spec.Verifies code)
    {loop : S.Loop} {next : S.Out loop → Prog S α} {g : G}
    (safe : Safe spec post g (call loop next)) :
    Safe spec post g ((code loop).bind next) :=
  bind (verified loop g safe.1) safe.2

end Safe

/-- A program that performs only allowed operations and enters only the given loops. -/
def Uses (allowed : S.Op → Prop) (loops : S.Loop → Prop) : Prog S α → Prop
  | ret _ => True
  | op operation next => allowed operation ∧ ∀ answer, Uses allowed loops (next answer)
  | call loop next => loops loop ∧ ∀ out, Uses allowed loops (next out)

namespace Uses

variable {allowed : S.Op → Prop} {loops : S.Loop → Prop} {code : Code S}

theorem bind {prog : Prog S α} {f : α → Prog S β} (head : Uses allowed loops prog)
    (tail : ∀ value, Uses allowed loops (f value)) : Uses allowed loops (prog.bind f) := by
  induction prog with
  | ret value => exact tail value
  | op operation next ih => exact ⟨head.1, fun answer => ih answer (head.2 answer)⟩
  | call loop next ih => exact ⟨head.1, fun out => ih out (head.2 out)⟩

theorem mono {wider : S.Op → Prop} {prog : Prog S α} (uses : Uses allowed loops prog)
    (implies : ∀ operation, allowed operation → wider operation) : Uses wider loops prog := by
  induction prog with
  | ret value => trivial
  | op operation next ih =>
      exact ⟨implies operation uses.1, fun answer => ih answer (uses.2 answer)⟩
  | call loop next ih => exact ⟨uses.1, fun out => ih out (uses.2 out)⟩

theorem anywhere {prog : Prog S α} (uses : Uses allowed loops prog) :
    Uses allowed (fun _ => True) prog := by
  induction prog with
  | ret value => trivial
  | op operation next ih => exact ⟨uses.1, fun answer => ih answer (uses.2 answer)⟩
  | call loop next ih => exact ⟨trivial, fun out => ih out (uses.2 out)⟩

theorem safe {spec : Protocol S G} {g : G} {prog : Prog S α} (uses : Uses allowed loops prog)
    (allows : ∀ operation, allowed operation → spec.allow g operation)
    (neutral : ∀ operation answer, allowed operation → spec.next g operation answer = g)
    (enters : ∀ loop, loops loop → spec.enter loop g)
    (leaves : ∀ loop out g', loops loop → spec.leave loop g out g' → g' = g) :
    Safe spec (fun _ g' => g' = g) g prog := by
  induction prog with
  | ret value => rfl
  | op operation next ih =>
      refine ⟨allows operation uses.1, ?_⟩
      intro answer _
      rw [neutral operation answer uses.1]
      exact ih answer (uses.2 answer)
  | call loop next ih =>
      refine ⟨enters loop uses.1, ?_⟩
      intro out g' left
      rw [leaves loop out g' uses.1 left]
      exact ih out (uses.2 out)

theorem safe_any {spec : Protocol S G} {g : G} {prog : Prog S α} (uses : Uses allowed loops prog)
    (allows : ∀ g operation, allowed operation → spec.allow g operation)
    (enters : ∀ g loop, loops loop → spec.enter loop g) :
    Safe spec (fun _ _ => True) g prog := by
  induction prog generalizing g with
  | ret value => trivial
  | op operation next ih =>
      exact ⟨allows g operation uses.1, fun answer _ => ih answer (uses.2 answer)⟩
  | call loop next ih => exact ⟨enters g loop uses.1, fun out _ _ => ih out (uses.2 out)⟩

theorem runs (bodies : ∀ loop, loops loop → Uses allowed loops (code loop)) {prog : Prog S α}
    {events : List (Event S)} {value : α} (uses : Uses allowed loops prog)
    (run : Runs code prog events value) : ∀ event ∈ events, allowed event.1 := by
  induction run with
  | ret value => simp
  | op rest ih =>
      rintro event (_ | ⟨_, later⟩)
      · exact uses.1
      · exact ih (uses.2 _) event later
  | call rest ih => exact ih ((bodies _ uses.1).bind uses.2)

end Uses

end Rs485Gateway.Interaction
