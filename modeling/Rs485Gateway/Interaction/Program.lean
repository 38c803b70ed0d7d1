import Mathlib.Tactic

/-! Programs over a signature of operations.

A program returns, asks its environment to perform one operation, or enters a
named loop. A loop stands for its body, which may enter it again, so that a
loop with no bound of its own is still a finite object. -/

namespace Rs485Gateway.Interaction

structure Sig where
  Op : Type
  Res : Op → Type
  Loop : Type
  Out : Loop → Type

inductive Prog (S : Sig) (α : Type) where
  | ret (value : α)
  | op (operation : S.Op) (next : S.Res operation → Prog S α)
  | call (loop : S.Loop) (next : S.Out loop → Prog S α)

abbrev Code (S : Sig) := (loop : S.Loop) → Prog S (S.Out loop)

abbrev Event (S : Sig) := (operation : S.Op) × S.Res operation

namespace Prog

variable {S : Sig} {α β γ : Type}

protected def bind : Prog S α → (α → Prog S β) → Prog S β
  | ret value, f => f value
  | op operation next, f => op operation fun answer => (next answer).bind f
  | call loop next, f => call loop fun out => (next out).bind f

instance : Monad (Prog S) where
  pure := ret
  bind := Prog.bind

def perform (operation : S.Op) : Prog S (S.Res operation) := op operation ret

def enter (loop : S.Loop) : Prog S (S.Out loop) := call loop ret

@[simp] theorem pure_eq (value : α) : (pure value : Prog S α) = ret value := rfl

@[simp] theorem bind_eq (prog : Prog S α) (f : α → Prog S β) : prog >>= f = prog.bind f := rfl

@[simp] theorem ret_bind (value : α) (f : α → Prog S β) : (ret value).bind f = f value := rfl

@[simp] theorem op_bind (operation : S.Op) (next : S.Res operation → Prog S α)
    (f : α → Prog S β) :
    (op operation next).bind f = op operation fun answer => (next answer).bind f := rfl

@[simp] theorem call_bind (loop : S.Loop) (next : S.Out loop → Prog S α) (f : α → Prog S β) :
    (call loop next).bind f = call loop fun out => (next out).bind f := rfl

@[simp] theorem perform_bind (operation : S.Op) (f : S.Res operation → Prog S β) :
    (perform operation).bind f = op operation f := rfl

@[simp] theorem enter_bind (loop : S.Loop) (f : S.Out loop → Prog S β) :
    (enter loop).bind f = call loop f := rfl

@[simp] theorem bind_ret (prog : Prog S α) : prog.bind ret = prog := by
  induction prog with
  | ret value => rfl
  | op operation next ih => exact congrArg (op operation) (funext ih)
  | call loop next ih => exact congrArg (call loop) (funext ih)

@[simp] theorem bind_assoc (prog : Prog S α) (f : α → Prog S β) (g : β → Prog S γ) :
    (prog.bind f).bind g = prog.bind fun value => (f value).bind g := by
  induction prog with
  | ret value => rfl
  | op operation next ih => exact congrArg (op operation) (funext ih)
  | call loop next ih => exact congrArg (call loop) (funext ih)

end Prog

open Prog

variable {S : Sig} {α β : Type}

/-- `Runs code prog events value`: answered as in `events`, in this order, the
program returns `value`. -/
inductive Runs (code : Code S) : Prog S α → List (Event S) → α → Prop
  | ret (value : α) : Runs code (ret value) [] value
  | op {operation : S.Op} {next : S.Res operation → Prog S α} {answer : S.Res operation}
      {events : List (Event S)} {value : α} (rest : Runs code (next answer) events value) :
      Runs code (op operation next) (⟨operation, answer⟩ :: events) value
  | call {loop : S.Loop} {next : S.Out loop → Prog S α} {events : List (Event S)} {value : α}
      (rest : Runs code ((code loop).bind next) events value) :
      Runs code (call loop next) events value

namespace Runs

variable {code : Code S}

theorem bind {prog : Prog S α} {f : α → Prog S β} {first second : List (Event S)} {middle : α}
    {value : β} (head : Runs code prog first middle) (tail : Runs code (f middle) second value) :
    Runs code (prog.bind f) (first ++ second) value := by
  induction head with
  | ret middle => exact tail
  | op rest ih => exact Runs.op (ih tail)
  | call rest ih =>
      apply Runs.call
      rw [← Prog.bind_assoc]
      exact ih tail

theorem ret_inv {value result : α} {events : List (Event S)}
    (run : Runs code (Prog.ret value) events result) : events = [] ∧ result = value := by
  cases run
  exact ⟨rfl, rfl⟩

theorem op_inv {operation : S.Op} {next : S.Res operation → Prog S α} {events : List (Event S)}
    {value : α} (run : Runs code (Prog.op operation next) events value) :
    ∃ answer rest, events = ⟨operation, answer⟩ :: rest ∧ Runs code (next answer) rest value := by
  cases run with
  | op rest => exact ⟨_, _, rfl, rest⟩

theorem call_inv {loop : S.Loop} {next : S.Out loop → Prog S α} {events : List (Event S)}
    {value : α} (run : Runs code (Prog.call loop next) events value) :
    Runs code ((code loop).bind next) events value := by
  cases run with
  | call rest => exact rest

theorem bind_inv {prog : Prog S α} {f : α → Prog S β} {events : List (Event S)} {value : β}
    (run : Runs code (prog.bind f) events value) :
    ∃ first middle second, events = first ++ second ∧ Runs code prog first middle ∧
      Runs code (f middle) second value := by
  generalize whole : prog.bind f = bound at run
  induction run generalizing prog with
  | ret value =>
      cases prog with
      | ret middle =>
          have tail : Runs code (f middle) [] value := by
            rw [← ret_bind middle f, whole]
            exact .ret value
          exact ⟨[], middle, [], rfl, .ret middle, tail⟩
      | op operation next => simp at whole
      | call loop next => simp at whole
  | @op operation next answer events value rest ih =>
      cases prog with
      | ret middle =>
          have tail : Runs code (f middle) (⟨operation, answer⟩ :: events) value := by
            rw [← ret_bind middle f, whole]
            exact .op rest
          exact ⟨[], middle, _, rfl, .ret middle, tail⟩
      | op operation' next' =>
          simp only [op_bind, Prog.op.injEq] at whole
          obtain ⟨rfl, sameNext⟩ := whole
          have continuation := congrFun (eq_of_heq sameNext) answer
          obtain ⟨first, middle, second, split, head, tail⟩ := ih continuation
          exact ⟨⟨operation', answer⟩ :: first, middle, second, by simp [split], .op head, tail⟩
      | call loop next' => simp at whole
  | @call loop next events value rest ih =>
      cases prog with
      | ret middle =>
          have tail : Runs code (f middle) events value := by
            rw [← ret_bind middle f, whole]
            exact .call rest
          exact ⟨[], middle, _, rfl, .ret middle, tail⟩
      | op operation next' => simp at whole
      | call loop' next' =>
          simp only [call_bind, Prog.call.injEq] at whole
          obtain ⟨rfl, sameNext⟩ := whole
          have continuation : (code loop').bind next = ((code loop').bind next').bind f := by
            rw [Prog.bind_assoc, ← eq_of_heq sameNext]
          obtain ⟨first, middle, second, split, head, tail⟩ := ih continuation.symm
          exact ⟨first, middle, second, split, .call head, tail⟩

end Runs

/-! Running a program against an environment that answers each operation the
same way every time. -/

abbrev Outcome (S : Sig) (α : Type) := Option (List (Event S) × α)

def walk (oracle : (operation : S.Op) → S.Res operation)
    (enter : (loop : S.Loop) → (S.Out loop → Prog S α) → Outcome S α) : Prog S α → Outcome S α
  | ret value => some ([], value)
  | op operation next => (walk oracle enter (next (oracle operation))).map fun result =>
      (⟨operation, oracle operation⟩ :: result.1, result.2)
  | call loop next => enter loop next

def simulate (code : Code S) (oracle : (operation : S.Op) → S.Res operation) :
    Nat → Prog S α → Outcome S α
  | 0 => walk oracle fun _ _ => none
  | fuel + 1 => walk oracle fun loop next => simulate code oracle fuel ((code loop).bind next)

theorem runs_of_walk {code : Code S} {oracle : (operation : S.Op) → S.Res operation}
    {enter : (loop : S.Loop) → (S.Out loop → Prog S α) → Outcome S α}
    (entered : ∀ loop next events value, enter loop next = some (events, value) →
      Runs code (call loop next) events value)
    {prog : Prog S α} {events : List (Event S)} {value : α}
    (walked : walk oracle enter prog = some (events, value)) : Runs code prog events value := by
  induction prog generalizing events with
  | ret result =>
      cases walked
      exact .ret _
  | op operation next ih =>
      obtain ⟨⟨later, result⟩, rest, pair⟩ := Option.map_eq_some_iff.mp walked
      cases pair
      exact .op (ih _ rest)
  | call loop next ih => exact entered loop next events value walked

theorem runs_of_simulate {code : Code S} {oracle : (operation : S.Op) → S.Res operation}
    {fuel : Nat} {prog : Prog S α} {events : List (Event S)} {value : α}
    (simulated : simulate code oracle fuel prog = some (events, value)) :
    Runs code prog events value := by
  induction fuel generalizing prog events value with
  | zero => exact runs_of_walk (by simp) simulated
  | succ fuel ih => exact runs_of_walk (fun _ _ _ _ inner => .call (ih inner)) simulated

/-- A run that passes a test, found by simulation. -/
theorem runs_of_check (code : Code S) (oracle : (operation : S.Op) → S.Res operation)
    (fuel : Nat) (prog : Prog S α) (check : List (Event S) × α → Bool)
    (passed : (simulate code oracle fuel prog).any check = true) :
    ∃ events value, Runs code prog events value ∧ check (events, value) = true := by
  cases simulated : simulate code oracle fuel prog with
  | none => simp [simulated] at passed
  | some result => exact ⟨_, _, runs_of_simulate simulated, by simpa [simulated] using passed⟩

end Rs485Gateway.Interaction
