import Rs485Gateway.Interaction.Interleaving

namespace Rs485Gateway.Lists

open Interaction

variable {α : Type} {capacity : Nat} [NeZero capacity]

def place (capacity : Nat) [NeZero capacity] (index : Nat) : Fin capacity :=
  Fin.ofNat capacity index

/-- The `count` entries from `head` on, going round at the end. -/
def window (entries : Fin capacity → α) (head count : Nat) : List α :=
  (List.range count).map fun i => entries (place capacity (head + i))

theorem place_inj {first second : Nat} (near : first < second + capacity)
    (close : second < first + capacity) (same : place capacity first = place capacity second) :
    first = second := by
  have mods : first % capacity = second % capacity := congrArg Fin.val same
  rcases Nat.lt_trichotomy first second with before | equal | after
  · have divides : capacity ∣ second - first := (Nat.modEq_iff_dvd' before.le).mp mods
    have := Nat.le_of_dvd (by omega) divides
    omega
  · exact equal
  · have divides : capacity ∣ first - second := (Nat.modEq_iff_dvd' after.le).mp mods.symm
    have := Nat.le_of_dvd (by omega) divides
    omega

theorem place_mod (index offset : Nat) :
    place capacity (index % capacity + offset) = place capacity (index + offset) := by
  apply Fin.ext
  exact Nat.mod_add_mod _ _ _

variable {entries : Fin capacity → α} {head count : Nat} {value : α}

@[simp] theorem length_window : (window entries head count).length = count := by
  simp [window]

theorem window_getElem? {i : Nat} (inside : i < count) :
    (window entries head count)[i]? = some (entries (place capacity (head + i))) := by
  simp [window, inside]

theorem window_mod : window entries (head % capacity) count = window entries head count := by
  simp [window, place_mod]

theorem window_succ : window entries head (count + 1) =
    entries (place capacity head) :: window entries (head + 1) count := by
  simp [window, List.range_succ_eq_map, Nat.add_comm 1, Nat.add_assoc]

theorem window_append (room : count < capacity) :
    window (assign entries (place capacity (head + count)) value) head (count + 1) =
      window entries head count ++ [value] := by
  unfold window
  rw [List.range_succ, List.map_append, List.map_singleton, assign_self]
  congr 1
  apply List.map_congr_left
  intro i inside
  have below := List.mem_range.mp inside
  apply assign_other
  intro same
  have := place_inj (by omega) (by omega) same
  omega

theorem window_set {i : Nat} (full : count ≤ capacity) (inside : i < count) :
    window (assign entries (place capacity (head + i)) value) head count =
      (window entries head count).set i value := by
  apply List.ext_getElem?
  intro j
  rw [List.getElem?_set]
  by_cases below : j < count
  · rw [window_getElem? below, length_window]
    by_cases same : i = j
    · subst same
      simp [inside]
    · rw [if_neg same, window_getElem? below, assign_other]
      intro clash
      have := place_inj (by omega) (by omega) clash
      omega
  · rw [List.getElem?_eq_none (by simpa using below)]
    have : i ≠ j := by omega
    simp [this, Nat.le_of_not_lt below]

end Rs485Gateway.Lists
