import Mathlib.Tactic

namespace Rs485Gateway.Lists

variable {α : Type} (joins : α → α → Prop) [DecidableRel joins] (limit : Nat)

/-- The runs of `front ++ last :: rest`, where `front ++ [last]` is the run in hand. -/
def cut : List α → α → List α → List (List α)
  | front, last, [] => [front ++ [last]]
  | front, last, x :: rest =>
      if joins last x ∧ front.length + 1 < limit then cut (front ++ [last]) x rest
      else (front ++ [last]) :: cut [] x rest

variable {joins limit} {front rest : List α} {last : α} {run : List α}

theorem cut_flatten : (cut joins limit front last rest).flatten = front ++ last :: rest := by
  induction rest generalizing front last with
  | nil => simp [cut]
  | cons x rest ih =>
      unfold cut
      split
      · simp [ih]
      · simp [ih]

theorem cut_nonempty (member : run ∈ cut joins limit front last rest) : run ≠ [] := by
  induction rest generalizing front last with
  | nil =>
      simp only [cut, List.mem_singleton] at member
      simp [member]
  | cons x rest ih =>
      unfold cut at member
      split at member
      · exact ih member
      · rcases List.mem_cons.mp member with rfl | later
        · simp
        · exact ih later

theorem cut_length (short : front.length + 1 ≤ max 1 limit)
    (member : run ∈ cut joins limit front last rest) : run.length ≤ max 1 limit := by
  induction rest generalizing front last with
  | nil =>
      simp only [cut, List.mem_singleton] at member
      simpa [member] using short
  | cons x rest ih =>
      unfold cut at member
      split at member
      · rename_i goesOn
        refine ih ?_ member
        simp only [List.length_append, List.length_singleton]
        omega
      · rcases List.mem_cons.mp member with rfl | later
        · simpa using short
        · exact ih (by simp) later

theorem cut_chain (chain : List.IsChain joins (front ++ [last]))
    (member : run ∈ cut joins limit front last rest) : List.IsChain joins run := by
  induction rest generalizing front last with
  | nil =>
      simp only [cut, List.mem_singleton] at member
      exact member ▸ chain
  | cons x rest ih =>
      unfold cut at member
      split at member
      · rename_i goesOn
        refine ih ?_ member
        rw [List.isChain_append]
        refine ⟨chain, by simp, ?_⟩
        intro a inLast b inNext
        simp only [List.getLast?_append_of_ne_nil, ne_eq, List.cons_ne_self, not_false_eq_true,
          List.getLast?_singleton, Option.mem_def, Option.some.injEq, List.head?_cons]
          at inLast inNext
        subst inLast inNext
        exact goesOn.1
      · rcases List.mem_cons.mp member with rfl | later
        · exact chain
        · exact ih (by simp) later

end Rs485Gateway.Lists
