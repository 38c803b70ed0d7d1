import Mathlib.Tactic

namespace Rs485Gateway.Lists

variable {α : Type*}

/-- The items that are left of those accepted: all of them or, where items merge, some of them
in the same order with the newest still there. -/
structure Coalesced (merges : Prop) (accepted kept : List α) : Prop where
  inOrder : kept.Sublist accepted
  newest : kept.getLast? = accepted.getLast?
  whole : ¬ merges → kept = accepted

namespace Coalesced

variable {merges : Prop} {accepted kept : List α}

theorem nil : Coalesced merges ([] : List α) [] := ⟨List.Sublist.refl _, rfl, fun _ => rfl⟩

theorem append (coalesced : Coalesced merges accepted kept) (item : α) :
    Coalesced merges (accepted ++ [item]) (kept ++ [item]) where
  inOrder := coalesced.inOrder.append (List.Sublist.refl _)
  newest := by rw [List.getLast?_concat, List.getLast?_concat]
  whole := fun apart => by rw [coalesced.whole apart]

theorem merge {older : α} (coalesced : Coalesced merges accepted (kept ++ [older]))
    (allowed : merges) (item : α) : Coalesced merges (accepted ++ [item]) (kept ++ [item]) where
  inOrder := by
    have rest := (List.sublist_append_left kept [older]).trans coalesced.inOrder
    exact rest.append (List.Sublist.refl _)
  newest := by rw [List.getLast?_concat, List.getLast?_concat]
  whole := fun apart => absurd allowed apart

end Coalesced

end Rs485Gateway.Lists
