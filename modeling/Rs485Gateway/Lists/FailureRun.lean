import Mathlib.Tactic

namespace Rs485Gateway.Lists

/-- How many failures the list ends with. -/
def trailing (outcomes : List Bool) : Nat :=
  (outcomes.reverse.takeWhile fun ok => !ok).length

def HasRun (limit : Nat) (outcomes : List Bool) : Prop :=
  List.replicate limit false <:+: outcomes

variable {outcomes : List Bool} {limit : Nat}

@[simp] theorem trailing_nil : trailing [] = 0 := rfl

@[simp] theorem trailing_success : trailing (outcomes ++ [true]) = 0 := by
  simp [trailing]

@[simp] theorem trailing_failure : trailing (outcomes ++ [false]) = trailing outcomes + 1 := by
  simp [trailing]

theorem replicate_prefix_iff {xs : List Bool} :
    List.replicate limit false <+: xs ↔ limit ≤ (xs.takeWhile fun ok => !ok).length := by
  induction limit generalizing xs with
  | zero => simp
  | succ limit ih =>
      cases xs with
      | nil => simp [List.replicate_succ]
      | cons ok xs =>
          cases ok with
          | true => simp [List.replicate_succ]
          | false => simp [List.replicate_succ, ih]

theorem replicate_suffix_iff :
    List.replicate limit false <:+ outcomes ↔ limit ≤ trailing outcomes := by
  rw [← List.reverse_prefix, List.reverse_replicate, replicate_prefix_iff, trailing]

theorem hasRun_concat {ok : Bool} :
    HasRun limit (outcomes ++ [ok]) ↔
      limit ≤ trailing (outcomes ++ [ok]) ∨ HasRun limit outcomes := by
  rw [HasRun, List.infix_concat_iff, replicate_suffix_iff, HasRun]

theorem trailing_lt (few : ¬ HasRun limit outcomes) : trailing outcomes < limit := by
  by_contra many
  have suffix := replicate_suffix_iff.mpr (not_lt.mp many)
  exact few suffix.isInfix

theorem not_hasRun_nil (positive : 0 < limit) : ¬ HasRun limit [] := by
  rw [HasRun, List.infix_nil, List.replicate_eq_nil_iff]
  omega

end Rs485Gateway.Lists
