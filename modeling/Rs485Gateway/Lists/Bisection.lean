import Mathlib.Data.Nat.Size
import Mathlib.Tactic

namespace Rs485Gateway.Lists

structure Bisection where
  probed : List Nat
  found : Option Nat

def Bisection.after (mid : Nat) (rest : Bisection) : Bisection where
  probed := mid :: rest.probed
  found := rest.found

def middle (low high : Nat) : Nat := low + (high - low) / 2

/-- `order i` says how the entry at `i` compares with the target. -/
def bisect (order : Nat → Ordering) (low high : Nat) : Bisection :=
  if low < high then
    match order (middle low high) with
    | .eq => ⟨[middle low high], some (middle low high)⟩
    | .lt => (bisect order (middle low high + 1) high).after (middle low high)
    | .gt => (bisect order low (middle low high)).after (middle low high)
  else ⟨[], none⟩
termination_by high - low
decreasing_by all_goals simp only [middle]; omega

section Bisect

variable {order : Nat → Ordering} {low high : Nat}

theorem le_middle (low high : Nat) : low ≤ middle low high := Nat.le_add_right _ _

theorem middle_lt (nonempty : low < high) : middle low high < high := by
  rw [middle]
  omega

theorem bisect_empty (empty : ¬ low < high) : bisect order low high = ⟨[], none⟩ := by
  rw [bisect, if_neg empty]

theorem bisect_eq (nonempty : low < high) (here : order (middle low high) = .eq) :
    bisect order low high = ⟨[middle low high], some (middle low high)⟩ := by
  rw [bisect, if_pos nonempty, here]

theorem bisect_lt (nonempty : low < high) (before : order (middle low high) = .lt) :
    bisect order low high =
      (bisect order (middle low high + 1) high).after (middle low high) := by
  rw [bisect, if_pos nonempty, before]

theorem bisect_gt (nonempty : low < high) (behind : order (middle low high) = .gt) :
    bisect order low high = (bisect order low (middle low high)).after (middle low high) := by
  rw [bisect, if_pos nonempty, behind]

@[elab_as_elim]
theorem bisect_cases (order : Nat → Ordering) {motive : Nat → Nat → Prop}
    (empty : ∀ low high, ¬ low < high → motive low high)
    (hit : ∀ low high, low < high → order (middle low high) = .eq → motive low high)
    (right : ∀ low high, low < high → order (middle low high) = .lt →
      motive (middle low high + 1) high → motive low high)
    (left : ∀ low high, low < high → order (middle low high) = .gt →
      motive low (middle low high) → motive low high) (low high : Nat) : motive low high := by
  induction low, high using bisect.induct order with
  | case1 low high nonempty here => exact hit low high nonempty here
  | case2 low high nonempty before ih => exact right low high nonempty before ih
  | case3 low high nonempty behind ih => exact left low high nonempty behind ih
  | case4 low high none => exact empty low high none

theorem bisect_congr {order other : Nat → Ordering} (low high : Nat)
    (same : ∀ i, low ≤ i → i < high → order i = other i) :
    bisect order low high = bisect other low high := by
  induction low, high using bisect_cases order with
  | empty low high none => rw [bisect_empty none, bisect_empty none]
  | hit low high nonempty here =>
      have there := (same _ (le_middle low high) (middle_lt nonempty)).symm.trans here
      rw [bisect_eq nonempty here, bisect_eq nonempty there]
  | right low high nonempty before ih =>
      have there := (same _ (le_middle low high) (middle_lt nonempty)).symm.trans before
      rw [bisect_lt nonempty before, bisect_lt nonempty there, ih]
      intro i above below
      exact same i ((le_middle low high).trans (Nat.le_of_succ_le above)) below
  | left low high nonempty behind ih =>
      have there := (same _ (le_middle low high) (middle_lt nonempty)).symm.trans behind
      rw [bisect_gt nonempty behind, bisect_gt nonempty there, ih]
      intro i above below
      exact same i above (below.trans (middle_lt nonempty))

theorem bisect_inside (order : Nat → Ordering) (low high : Nat) :
    ∀ i ∈ (bisect order low high).probed, low ≤ i ∧ i < high := by
  induction low, high using bisect_cases order with
  | empty low high none =>
      rw [bisect_empty none]
      exact fun _ member => absurd member List.not_mem_nil
  | hit low high nonempty here =>
      rw [bisect_eq nonempty here]
      intro i member
      rw [List.mem_singleton.mp member]
      exact ⟨le_middle low high, middle_lt nonempty⟩
  | right low high nonempty before ih =>
      rw [bisect_lt nonempty before]
      intro i member
      rcases List.mem_cons.mp member with rfl | later
      · exact ⟨le_middle low high, middle_lt nonempty⟩
      · have bounds := ih i later
        exact ⟨(le_middle low high).trans (Nat.le_of_succ_le bounds.1), bounds.2⟩
  | left low high nonempty behind ih =>
      rw [bisect_gt nonempty behind]
      intro i member
      rcases List.mem_cons.mp member with rfl | later
      · exact ⟨le_middle low high, middle_lt nonempty⟩
      · have bounds := ih i later
        exact ⟨bounds.1, bounds.2.trans (middle_lt nonempty)⟩

theorem size_halved {n k : Nat} (positive : 0 < n) (half : k ≤ (n / 2).size) :
    k + 1 ≤ n.size := by
  rw [Nat.succ_le_iff, Nat.lt_size]
  cases k with
  | zero => exact positive
  | succ k =>
      have power : 2 ^ k ≤ n / 2 := Nat.lt_size.mp half
      calc
        2 ^ (k + 1) = 2 ^ k * 2 := pow_succ 2 k
        _ ≤ n / 2 * 2 := Nat.mul_le_mul_right 2 power
        _ ≤ n := Nat.div_mul_le_self n 2

/-- Each probe halves the range. -/
theorem bisect_length (order : Nat → Ordering) (low high : Nat) :
    (bisect order low high).probed.length ≤ (high - low).size := by
  induction low, high using bisect_cases order with
  | empty low high none =>
      rw [bisect_empty none]
      exact Nat.zero_le _
  | hit low high nonempty here =>
      rw [bisect_eq nonempty here]
      exact Nat.size_pos.mpr (Nat.sub_pos_of_lt nonempty)
  | right low high nonempty before ih =>
      rw [bisect_lt nonempty before]
      have half : high - (middle low high + 1) ≤ (high - low) / 2 := by
        rw [middle]
        omega
      exact size_halved (Nat.sub_pos_of_lt nonempty) (ih.trans (Nat.size_le_size half))
  | left low high nonempty behind ih =>
      rw [bisect_gt nonempty behind]
      have half : middle low high - low ≤ (high - low) / 2 := by
        rw [middle]
        omega
      exact size_halved (Nat.sub_pos_of_lt nonempty) (ih.trans (Nat.size_le_size half))

theorem bisect_found (order : Nat → Ordering) (low high : Nat) :
    ∀ i, (bisect order low high).found = some i →
      i ∈ (bisect order low high).probed ∧ order i = .eq := by
  induction low, high using bisect_cases order with
  | empty low high none =>
      rw [bisect_empty none]
      exact fun _ found => nomatch found
  | hit low high nonempty here =>
      rw [bisect_eq nonempty here]
      rintro _ ⟨⟩
      exact ⟨List.mem_singleton_self _, here⟩
  | right low high nonempty before ih =>
      rw [bisect_lt nonempty before]
      intro i found
      exact (ih i found).imp_left (List.mem_cons_of_mem _)
  | left low high nonempty behind ih =>
      rw [bisect_gt nonempty behind]
      intro i found
      exact (ih i found).imp_left (List.mem_cons_of_mem _)

theorem order_compare {target top i : Nat} (here : order target = .eq)
    (before : ∀ i, i < target → order i = .lt)
    (behind : ∀ i, target < i → i < top → order i = .gt) (inside : i < top) :
    order i = compare i target := by
  rcases lt_trichotomy i target with less | equal | greater
  · rw [before i less, compare_lt_iff_lt.mpr less]
  · rw [equal, here, compare_eq_iff_eq.mpr rfl]
  · rw [behind i greater inside, compare_gt_iff_gt.mpr greater]

/-- A target that everything before and behind it points to is found. -/
theorem bisect_finds {target : Nat} (here : order target = .eq)
    (before : ∀ i, i < target → order i = .lt) {top : Nat}
    (behind : ∀ i, target < i → i < top → order i = .gt) {low high : Nat} (within : high ≤ top)
    (above : low ≤ target) (below : target < high) :
    (bisect order low high).found = some target := by
  induction low, high using bisect_cases order with
  | empty low high none => exact absurd (above.trans_lt below) none
  | hit low high nonempty same =>
      have inside := (middle_lt nonempty).trans_le within
      have points := (order_compare here before behind inside).symm.trans same
      rw [bisect_eq nonempty same, compare_eq_iff_eq.mp points]
  | right low high nonempty less ih =>
      have inside := (middle_lt nonempty).trans_le within
      have points := (order_compare here before behind inside).symm.trans less
      rw [bisect_lt nonempty less]
      exact ih within (compare_lt_iff_lt.mp points) below
  | left low high nonempty greater ih =>
      have inside := (middle_lt nonempty).trans_le within
      have points := (order_compare here before behind inside).symm.trans greater
      rw [bisect_gt nonempty greater]
      exact ih inside.le above (compare_gt_iff_gt.mp points)

end Bisect

end Rs485Gateway.Lists
