import Mathlib.Tactic

namespace Rs485Gateway.Lists

variable {κ σ ι ω : Type}

def drive (step : σ → ι → σ × Option ω) : σ → List ι → σ × List ω
  | state, [] => (state, [])
  | state, input :: later =>
      let moved := step state input
      let rest := drive step moved.1 later
      (rest.1, moved.2.toList ++ rest.2)

/-- One pass over the machines from number `first` on: their new states, and which of them
put out what. -/
def bankPass (step : κ → σ → ι → σ × Option ω) (inputs : Nat → ι) :
    Nat → List (κ × σ) → List σ × List (Nat × ω)
  | _, [] => ([], [])
  | first, (key, state) :: rest =>
      let moved := step key state (inputs first)
      let later := bankPass step inputs (first + 1) rest
      (moved.1 :: later.1, (moved.2.map fun out => (first, out)).toList ++ later.2)

def bankRun (step : κ → σ → ι → σ × Option ω) (keys : List κ) :
    List σ → List (Nat → ι) → List σ × List (Nat × ω)
  | states, [] => (states, [])
  | states, inputs :: later =>
      let moved := bankPass step inputs 0 (keys.zip states)
      let rest := bankRun step keys moved.1 later
      (rest.1, moved.2 ++ rest.2)

def outputsOf (i : Nat) (outs : List (Nat × ω)) : List ω :=
  outs.filterMap fun out => if out.1 = i then some out.2 else none

theorem drive_append {step : σ → ι → σ × Option ω} {state : σ} (first second : List ι) :
    drive step state (first ++ second) =
      ((drive step (drive step state first).1 second).1,
        (drive step state first).2 ++ (drive step (drive step state first).1 second).2) := by
  induction first generalizing state with
  | nil => rfl
  | cons input later ih =>
      rw [List.cons_append, drive, ih]
      simp only [drive, List.append_assoc]

section Outputs

variable {i : Nat}

@[simp] theorem outputsOf_nil : outputsOf i ([] : List (Nat × ω)) = [] := rfl

@[simp] theorem outputsOf_append (first second : List (Nat × ω)) :
    outputsOf i (first ++ second) = outputsOf i first ++ outputsOf i second :=
  List.filterMap_append

@[simp] theorem outputsOf_self (out : Option ω) :
    outputsOf i (out.map fun out => (i, out)).toList = out.toList := by
  cases out with
  | none => rfl
  | some out => simp [outputsOf]

theorem outputsOf_other {j : Nat} (apart : j ≠ i) (out : Option ω) :
    outputsOf i (out.map fun out => (j, out)).toList = [] := by
  cases out with
  | none => rfl
  | some out => simp [outputsOf, apart]

end Outputs

section Pass

variable {step : κ → σ → ι → σ × Option ω} {inputs : Nat → ι}

theorem bankPass_congr {others : Nat → ι} {first : Nat} (cells : List (κ × σ))
    (same : ∀ i, first ≤ i → inputs i = others i) :
    bankPass step inputs first cells = bankPass step others first cells := by
  induction cells generalizing first with
  | nil => rfl
  | cons cell rest ih =>
      have later := ih fun i above => same i (Nat.le_of_succ_le above)
      rw [bankPass, bankPass, same first le_rfl, later]

theorem bankPass_state (first i : Nat) (cells : List (κ × σ)) :
    (bankPass step inputs first cells).1[i]? =
      cells[i]?.map fun cell => (step cell.1 cell.2 (inputs (first + i))).1 := by
  induction cells generalizing first i with
  | nil => rfl
  | cons cell rest ih =>
      cases i with
      | zero => rfl
      | succ i =>
          have later := ih (first + 1) i
          rw [Nat.add_assoc, Nat.add_comm 1 i] at later
          exact later

theorem bankPass_before {first i : Nat} (before : i < first) (cells : List (κ × σ)) :
    outputsOf i (bankPass step inputs first cells).2 = [] := by
  induction cells generalizing first with
  | nil => rfl
  | cons cell rest ih =>
      rw [bankPass, outputsOf_append, outputsOf_other (by omega), ih (by omega), List.append_nil]

theorem bankPass_outputs (first i : Nat) (cells : List (κ × σ)) :
    outputsOf (first + i) (bankPass step inputs first cells).2 =
      (cells[i]?.bind fun cell => (step cell.1 cell.2 (inputs (first + i))).2).toList := by
  induction cells generalizing first i with
  | nil => rfl
  | cons cell rest ih =>
      rw [bankPass, outputsOf_append]
      cases i with
      | zero =>
          rw [bankPass_before (by omega), List.append_nil]
          exact outputsOf_self _
      | succ i =>
          have later := ih (first + 1) i
          rw [Nat.add_assoc, Nat.add_comm 1 i] at later
          rw [outputsOf_other (by omega), List.nil_append, later]
          rfl

end Pass

section Run

variable {step : κ → σ → ι → σ × Option ω} {keys : List κ} {states : List σ}

/-- Each machine of the row goes its own way. -/
theorem bankRun_own {i : Nat} {key : κ} {state : σ} (keyed : keys[i]? = some key)
    (started : states[i]? = some state) (history : List (Nat → ι)) :
    (bankRun step keys states history).1[i]? =
        some (drive (step key) state (history.map fun inputs => inputs i)).1 ∧
      outputsOf i (bankRun step keys states history).2 =
        (drive (step key) state (history.map fun inputs => inputs i)).2 := by
  induction history generalizing states state with
  | nil => exact ⟨started, rfl⟩
  | cons inputs later ih =>
      have cell : (keys.zip states)[i]? = some (key, state) := by
        rw [List.getElem?_zip_eq_some]
        exact ⟨keyed, started⟩
      have moved := @bankPass_state κ σ ι ω step inputs 0 i (keys.zip states)
      have outputs := @bankPass_outputs κ σ ι ω step inputs 0 i (keys.zip states)
      rw [cell, Nat.zero_add] at moved outputs
      obtain ⟨ends, out⟩ := ih moved
      rw [bankRun, outputsOf_append, outputs, out]
      exact ⟨ends, rfl⟩

end Run

end Rs485Gateway.Lists
