import Mathlib.Tactic

namespace Rs485Gateway.Lists

variable {α : Type} (isEnd : α → Bool)

def extend (x : α) : List (List α) × List α → List (List α) × List α
  | ([], tail) => ([], x :: tail)
  | (block :: blocks, tail) => ((x :: block) :: blocks, tail)

def delimited : List α → List (List α) × List α
  | [] => ([], [])
  | x :: xs =>
      if isEnd x then ([x] :: (delimited xs).1, (delimited xs).2) else extend x (delimited xs)

def blocks (xs : List α) : List (List α) := (delimited isEnd xs).1

def leftOver (xs : List α) : List α := (delimited isEnd xs).2

variable {isEnd} {x : α} {xs ys : List α}

theorem delimited_end (ends : isEnd x = true) :
    delimited isEnd (x :: xs) = ([x] :: blocks isEnd xs, leftOver isEnd xs) := by
  rw [delimited, if_pos ends]
  rfl

theorem delimited_inner (inner : isEnd x = false) :
    delimited isEnd (x :: xs) = extend x (delimited isEnd xs) := by
  rw [delimited, if_neg (by simp [inner])]

theorem delimited_open (inner : ∀ x ∈ xs, isEnd x = false) : delimited isEnd xs = ([], xs) := by
  induction xs with
  | nil => rfl
  | cons x xs ih =>
      have tail := ih fun y member => inner y (List.mem_cons_of_mem _ member)
      rw [delimited_inner (inner x List.mem_cons_self), tail]
      rfl

theorem delimited_block {body : List α} (inner : ∀ x ∈ body, isEnd x = false)
    (ends : isEnd x = true) :
    delimited isEnd (body ++ x :: ys) = ((body ++ [x]) :: blocks isEnd ys, leftOver isEnd ys) := by
  induction body with
  | nil => exact delimited_end ends
  | cons y body ih =>
      have tail := ih fun z member => inner z (List.mem_cons_of_mem _ member)
      rw [List.cons_append, delimited_inner (inner y List.mem_cons_self), tail]
      rfl

/-- Cutting at the first terminator, if there is one. -/
theorem open_or_block (isEnd : α → Bool) (xs : List α) :
    (∀ x ∈ xs, isEnd x = false) ∨
      ∃ body x rest, xs = body ++ x :: rest ∧ (∀ y ∈ body, isEnd y = false) ∧ isEnd x = true := by
  induction xs with
  | nil => exact .inl (by simp)
  | cons y ys ih =>
      cases ends : isEnd y with
      | true => exact .inr ⟨[], y, ys, rfl, by simp, ends⟩
      | false =>
          rcases ih with inner | ⟨body, x, rest, rfl, inner, closed⟩
          · exact .inl (by simpa [ends] using inner)
          · exact .inr ⟨y :: body, x, rest, rfl, by simpa [ends] using inner, closed⟩

@[elab_as_elim] theorem blocks_induction {motive : List α → Prop} (isEnd : α → Bool)
    (opened : ∀ xs, (∀ x ∈ xs, isEnd x = false) → motive xs)
    (block : ∀ body x rest, (∀ y ∈ body, isEnd y = false) → isEnd x = true → motive rest →
      motive (body ++ x :: rest)) (xs : List α) : motive xs := by
  induction size : xs.length using Nat.strong_induction_on generalizing xs with
  | _ n ih =>
      rcases open_or_block isEnd xs with inner | ⟨body, x, rest, rfl, inner, ends⟩
      · exact opened xs inner
      · have shorter : rest.length < n := by
          simp only [List.length_append, List.length_cons] at size
          omega
        exact block body x rest inner ends (ih rest.length shorter rest rfl)

theorem blocks_flatten (xs : List α) : (blocks isEnd xs).flatten ++ leftOver isEnd xs = xs := by
  induction xs using blocks_induction isEnd with
  | opened xs inner => simp [blocks, leftOver, delimited_open inner]
  | block body x rest inner ends ih =>
      simp only [blocks, leftOver, delimited_block inner ends] at ih ⊢
      rw [List.flatten_cons, List.append_assoc, ih]
      simp

theorem blocks_closed (xs : List α) : ∀ block ∈ blocks isEnd xs,
    ∃ body x, block = body ++ [x] ∧ (∀ y ∈ body, isEnd y = false) ∧ isEnd x = true := by
  induction xs using blocks_induction isEnd with
  | opened xs inner =>
      intro block member
      rw [blocks, delimited_open inner] at member
      cases member
  | block body x rest inner ends ih =>
      intro block member
      rw [blocks, delimited_block inner ends] at member
      rcases List.mem_cons.mp member with rfl | later
      · exact ⟨body, x, rfl, inner, ends⟩
      · exact ih block later

theorem leftOver_inner (xs : List α) : ∀ x ∈ leftOver isEnd xs, isEnd x = false := by
  induction xs using blocks_induction isEnd with
  | opened xs inner => simpa [leftOver, delimited_open inner] using inner
  | block body x rest inner ends ih => simpa [leftOver, delimited_block inner ends] using ih

/-- What is left over is all that later elements need to know. -/
theorem delimited_append (xs ys : List α) :
    delimited isEnd (xs ++ ys) =
      (blocks isEnd xs ++ blocks isEnd (leftOver isEnd xs ++ ys),
        leftOver isEnd (leftOver isEnd xs ++ ys)) := by
  induction xs using blocks_induction isEnd with
  | opened xs inner => simp [blocks, leftOver, delimited_open inner]
  | block body x rest inner ends ih =>
      rw [List.append_assoc, List.cons_append]
      simp only [blocks, leftOver, delimited_block inner ends] at ih ⊢
      rw [ih]
      rfl

theorem blocks_append (xs ys : List α) :
    blocks isEnd (xs ++ ys) = blocks isEnd xs ++ blocks isEnd (leftOver isEnd xs ++ ys) := by
  rw [blocks, delimited_append]

theorem leftOver_append (xs ys : List α) :
    leftOver isEnd (xs ++ ys) = leftOver isEnd (leftOver isEnd xs ++ ys) := by
  rw [leftOver, delimited_append]

theorem leftOver_closed (xs : List α) (ends : isEnd x = true) :
    leftOver isEnd (xs ++ [x]) = [] := by
  rw [leftOver_append, leftOver, delimited_block (leftOver_inner xs) ends]
  rfl

theorem delimited_flatten {lists : List (List α)}
    (closed : ∀ list ∈ lists, leftOver isEnd list = []) :
    delimited isEnd lists.flatten = (lists.flatMap (blocks isEnd), []) := by
  induction lists with
  | nil => rfl
  | cons list rest ih =>
      have first := closed list List.mem_cons_self
      have later := ih fun list member => closed list (List.mem_cons_of_mem _ member)
      rw [List.flatten_cons, delimited_append, first, List.nil_append, blocks, leftOver, blocks,
        later]
      rfl

theorem blocks_length_le (xs : List α) : ∀ block ∈ blocks isEnd xs, block.length ≤ xs.length := by
  intro block member
  have inside := (List.sublist_flatten_of_mem member).length_le
  have whole := congrArg List.length (@blocks_flatten _ isEnd xs)
  rw [List.length_append] at whole
  omega

theorem leftOver_length_le {bound : Nat} (xs ys : List α)
    (short : ∀ block ∈ blocks isEnd (xs ++ ys), block.length ≤ bound)
    (rest : (leftOver isEnd (xs ++ ys)).length ≤ bound) : (leftOver isEnd xs).length ≤ bound := by
  rw [blocks_append] at short
  rw [leftOver_append] at rest
  have inner := @leftOver_inner _ isEnd xs
  rcases open_or_block isEnd ys with opened | ⟨body, x, later, rfl, clear, ends⟩
  · have whole : ∀ y ∈ leftOver isEnd xs ++ ys, isEnd y = false := by
      intro y member
      rcases List.mem_append.mp member with old | new
      · exact inner y old
      · exact opened y new
    rw [leftOver, delimited_open whole] at rest
    simp only [List.length_append] at rest
    omega
  · have whole : ∀ y ∈ leftOver isEnd xs ++ body, isEnd y = false := by
      intro y member
      rcases List.mem_append.mp member with old | new
      · exact inner y old
      · exact clear y new
    have member : leftOver isEnd xs ++ body ++ [x] ∈
        blocks isEnd (leftOver isEnd xs ++ (body ++ x :: later)) := by
      rw [← List.append_assoc, blocks, delimited_block whole ends]
      exact List.mem_cons_self
    have first := short _ (List.mem_append_right _ member)
    simp only [List.length_append] at first
    omega

end Rs485Gateway.Lists
