import Mathlib.Tactic

namespace Rs485Gateway.Lists

variable {α σ : Type}

inductive Interleaves : List α → List α → List α → Prop
  | nil : Interleaves [] [] []
  | left {x : α} {xs ys zs : List α} (rest : Interleaves xs ys zs) :
      Interleaves (x :: xs) ys (x :: zs)
  | right {y : α} {xs ys zs : List α} (rest : Interleaves xs ys zs) :
      Interleaves xs (y :: ys) (y :: zs)

namespace Interleaves

theorem symm {xs ys zs : List α} (merged : Interleaves xs ys zs) : Interleaves ys xs zs := by
  induction merged with
  | nil => exact .nil
  | left _ ih => exact .right ih
  | right _ ih => exact .left ih

theorem append (xs ys : List α) : Interleaves xs ys (xs ++ ys) := by
  induction xs with
  | nil =>
      induction ys with
      | nil => exact .nil
      | cons y ys ih => exact .right ih
  | cons x xs ih => exact .left ih

variable {step : σ → α → σ}

theorem foldl_commutes {x : α} {ys : List α}
    (commutes : ∀ y ∈ ys, ∀ s, step (step s x) y = step (step s y) x) (s : σ) :
    ys.foldl step (step s x) = step (ys.foldl step s) x := by
  induction ys generalizing s with
  | nil => rfl
  | cons y ys ih =>
      have here := commutes y List.mem_cons_self s
      have later := ih (fun z member => commutes z (List.mem_cons_of_mem _ member)) (step s y)
      rw [List.foldl_cons, List.foldl_cons, here, later]

/-- When the steps of one side commute with those of the other, every merge ends
where running the first side and then the second does. -/
theorem foldl_eq {xs ys zs : List α} (merged : Interleaves xs ys zs)
    (commutes : ∀ x ∈ xs, ∀ y ∈ ys, ∀ s, step (step s x) y = step (step s y) x) (s : σ) :
    zs.foldl step s = (xs ++ ys).foldl step s := by
  induction merged generalizing s with
  | nil => rfl
  | @left x xs ys zs rest ih =>
      rw [List.foldl_cons, List.cons_append, List.foldl_cons]
      exact ih (fun z member => commutes z (List.mem_cons_of_mem _ member)) _
  | @right y xs ys zs rest ih =>
      have past : ∀ x ∈ xs, ∀ s, step (step s y) x = step (step s x) y := by
        intro x member s
        exact (commutes x member y List.mem_cons_self s).symm
      calc
        (y :: zs).foldl step s = (xs ++ ys).foldl step (step s y) :=
          ih (fun x first z second => commutes x first z (List.mem_cons_of_mem _ second)) _
        _ = ys.foldl step (xs.foldl step (step s y)) := List.foldl_append
        _ = ys.foldl step (step (xs.foldl step s) y) := by rw [foldl_commutes past]
        _ = (xs ++ y :: ys).foldl step s := by rw [List.foldl_append, List.foldl_cons]

end Interleaves

end Rs485Gateway.Lists
