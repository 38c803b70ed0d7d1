import Mathlib.Tactic

namespace Rs485Gateway.Lists

variable {ι α : Type} [DecidableEq ι]

def share (i : ι) (items : List (ι × α)) : List α :=
  items.filterMap fun item => if item.1 = i then some item.2 else none

variable {i : ι} {x : α} {items few all : List (ι × α)}

@[simp] theorem share_nil : share i ([] : List (ι × α)) = [] := rfl

@[simp] theorem share_cons_self : share i ((i, x) :: items) = x :: share i items := by
  simp [share]

@[simp] theorem share_cons_other {j : ι} (other : j ≠ i) :
    share i ((j, x) :: items) = share i items := by
  simp [share, other]

section Counts

variable [DecidableEq α]

theorem count_share (i : ι) (x : α) (items : List (ι × α)) :
    (share i items).count x = items.count (i, x) := by
  induction items with
  | nil => rfl
  | cons item items ih =>
      rcases item with ⟨j, y⟩
      by_cases same : j = i
      · subst same
        simp [List.count_cons, ih]
      · simp [ih, same]

/-- Shares that are a part of other shares, each in its order, make a part of the whole. -/
theorem subperm_of_shares (parts : ∀ i, (share i few).Sublist (share i all)) : few.Subperm all := by
  rw [List.subperm_ext_iff]
  rintro ⟨i, x⟩ _
  rw [← count_share, ← count_share]
  exact (parts i).count_le x

theorem perm_of_shares (same : ∀ i, share i few = share i all) : few.Perm all := by
  rw [List.perm_iff_count]
  rintro ⟨i, x⟩
  rw [← count_share, ← count_share, same]

end Counts

end Rs485Gateway.Lists
