import Mathlib.Tactic

namespace Rs485Gateway.Lists

variable {α : Type} {cap : Nat}

def recent (cap : Nat) (entries : List α) : List α := entries.drop (entries.length - cap)

/-- The current round, and what is left of the one before. -/
structure Rotating (cap : Nat) (entries newer older : List α) : Prop where
  kept : older ++ newer = recent cap entries
  filling : entries.length < cap → newer = []
  turning : cap ≤ entries.length → newer.length = entries.length % cap

@[simp] theorem recent_length (entries : List α) :
    (recent cap entries).length = min entries.length cap := by
  rw [recent, List.length_drop]
  omega

theorem recent_all {entries : List α} (few : entries.length ≤ cap) :
    recent cap entries = entries := by
  rw [recent, Nat.sub_eq_zero_of_le few, List.drop_zero]

theorem recent_snoc {entries rest : List α} {oldest : α}
    (full : recent cap entries = oldest :: rest) (many : cap ≤ entries.length) (entry : α) :
    recent cap (entries ++ [entry]) = rest ++ [entry] := by
  have size := congrArg List.length full
  rw [recent_length, List.length_cons, Nat.min_eq_right many] at size
  have inside : entries.length + 1 - cap ≤ entries.length := by omega
  have moved : entries.length + 1 - cap = entries.length - cap + 1 := by omega
  calc
    recent cap (entries ++ [entry]) = entries.drop (entries.length - cap + 1) ++ [entry] := by
      rw [recent, List.length_append, List.length_singleton, List.drop_append_of_le_length inside,
        moved]
    _ = rest ++ [entry] := by rw [← List.tail_drop, ← recent, full, List.tail_cons]

namespace Rotating

variable {entries newer older rest : List α} {oldest : α}

theorem start : Rotating cap ([] : List α) [] [] where
  kept := by simp [recent]
  filling := fun _ => rfl
  turning := fun full => by
    rw [List.length_nil] at full
    simp

theorem perm (rotating : Rotating cap entries newer older) :
    (newer ++ older).Perm (recent cap entries) := by
  rw [← rotating.kept]
  exact List.perm_append_comm

theorem fill (rotating : Rotating cap entries newer older) (room : entries.length < cap)
    (entry : α) : newer = [] ∧ Rotating cap (entries ++ [entry]) [] (older ++ [entry]) := by
  have kept := rotating.kept
  rw [rotating.filling room, List.append_nil, recent_all room.le] at kept
  have size : (entries ++ [entry]).length = entries.length + 1 := by simp
  refine ⟨rotating.filling room, ?_, fun _ => rfl, fun many => ?_⟩
  · rw [List.append_nil, kept, recent_all (by omega)]
  · rw [show (entries ++ [entry]).length = cap by omega, Nat.mod_self, List.length_nil]

theorem older_length (rotating : Rotating cap entries newer older) (many : cap ≤ entries.length) :
    older.length = cap - entries.length % cap := by
  have size := congrArg List.length rotating.kept
  rw [List.length_append, recent_length, rotating.turning many] at size
  omega

/-- A full log has an oldest entry, and it is the one `cap` back. -/
theorem oldest_first (rotating : Rotating cap entries newer older) (pos : 0 < cap)
    (many : cap ≤ entries.length) :
    ∃ oldest rest, older = oldest :: rest ∧ entries[entries.length - cap]? = some oldest := by
  have below := Nat.mod_lt entries.length pos
  have size := rotating.older_length many
  cases older with
  | nil =>
      rw [List.length_nil] at size
      omega
  | cons oldest rest =>
      refine ⟨oldest, rest, rfl, ?_⟩
      have first := congrArg (fun kept => kept[0]?) rotating.kept
      simpa [recent] using first.symm

theorem round_first (rotating : Rotating cap entries newer older) (pos : 0 < cap)
    (many : cap ≤ entries.length) :
    newer = entries.drop (cap * (entries.length / cap)) := by
  have below := Nat.mod_lt entries.length pos
  have size := rotating.older_length many
  have parts := Nat.div_add_mod entries.length cap
  have start : entries.length - cap + older.length = cap * (entries.length / cap) := by omega
  calc
    newer = (older ++ newer).drop older.length := List.drop_left.symm
    _ = entries.drop (cap * (entries.length / cap)) := by
      rw [rotating.kept, recent, List.drop_drop, start]

/-- The oldest entry of a full log gives way to the next one; behind the last of a round the
next round starts. -/
theorem turn (rotating : Rotating cap entries newer (oldest :: rest)) (pos : 0 < cap)
    (many : cap ≤ entries.length) (entry : α) :
    (rest ≠ [] ∧ Rotating cap (entries ++ [entry]) (newer ++ [entry]) rest) ∨
      rest = [] ∧ Rotating cap (entries ++ [entry]) [] (newer ++ [entry]) := by
  have below := Nat.mod_lt entries.length pos
  have size := rotating.older_length many
  have turned := rotating.turning many
  have length : (entries ++ [entry]).length = entries.length + 1 := by simp
  have kept : rest ++ (newer ++ [entry]) = recent cap (entries ++ [entry]) := by
    have full : recent cap entries = oldest :: (rest ++ newer) := rotating.kept.symm
    rw [recent_snoc full many, List.append_assoc]
  rw [List.length_cons] at size
  cases rest with
  | nil =>
      rw [List.length_nil] at size
      rw [List.nil_append, ← List.append_nil (newer ++ [entry])] at kept
      refine .inr ⟨rfl, kept, fun _ => rfl, fun _ => ?_⟩
      have last : entries.length % cap + 1 = cap := by omega
      rw [length, ← Nat.mod_add_mod, last, Nat.mod_self, List.length_nil]
  | cons second others =>
      rw [List.length_cons] at size
      refine .inl ⟨by simp, kept, fun few => by omega, fun _ => ?_⟩
      have inside : entries.length % cap + 1 < cap := by omega
      rw [length, ← Nat.mod_add_mod, Nat.mod_eq_of_lt inside, List.length_append, turned,
        List.length_singleton]

end Rotating

end Rs485Gateway.Lists
