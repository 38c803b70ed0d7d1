import Rs485Gateway.Interaction.Interleaving

/-! A ledger of resources taken, used and given back, newest entry first. In a proper
ledger only a free resource is taken, and only a held one is used or given back. -/

namespace Rs485Gateway.Lists

open Interaction

inductive LedgerEvent (ρ : Type) where
  | acquire (resource : ρ)
  | use (resource : ρ)
  | release (resource : ρ)
  deriving DecidableEq

variable {ρ : Type} [DecidableEq ρ]

def held : List (LedgerEvent ρ) → Finset ρ
  | [] => ∅
  | .acquire r :: older => insert r (held older)
  | .use _ :: older => held older
  | .release r :: older => (held older).erase r

namespace LedgerEvent

def Allowed (held : Finset ρ) : LedgerEvent ρ → Prop
  | acquire r => r ∉ held
  | use r => r ∈ held
  | release r => r ∈ held

instance (held : Finset ρ) (event : LedgerEvent ρ) : Decidable (event.Allowed held) :=
  match event with
  | acquire r => inferInstanceAs (Decidable (r ∉ held))
  | use r => inferInstanceAs (Decidable (r ∈ held))
  | release r => inferInstanceAs (Decidable (r ∈ held))

end LedgerEvent

def Proper : List (LedgerEvent ρ) → Prop
  | [] => True
  | event :: older => event.Allowed (held older) ∧ Proper older

instance decidableProper : (log : List (LedgerEvent ρ)) → Decidable (Proper log)
  | [] => inferInstanceAs (Decidable True)
  | event :: older =>
      have := decidableProper older
      inferInstanceAs (Decidable (event.Allowed (held older) ∧ Proper older))

variable {log : List (LedgerEvent ρ)} {r : ρ}

@[simp] theorem held_nil : held ([] : List (LedgerEvent ρ)) = ∅ := rfl

@[simp] theorem held_acquire : held (.acquire r :: log) = insert r (held log) := rfl

@[simp] theorem held_use : held (.use r :: log) = held log := rfl

@[simp] theorem held_release : held (.release r :: log) = (held log).erase r := rfl

@[simp] theorem proper_nil : Proper ([] : List (LedgerEvent ρ)) := trivial

@[simp] theorem proper_acquire : Proper (.acquire r :: log) ↔ r ∉ held log ∧ Proper log :=
  Iff.rfl

@[simp] theorem proper_use : Proper (.use r :: log) ↔ r ∈ held log ∧ Proper log := Iff.rfl

@[simp] theorem proper_release : Proper (.release r :: log) ↔ r ∈ held log ∧ Proper log :=
  Iff.rfl

/-- Every resource is given back as often as it is taken, but for the one time it may be
held now. -/
theorem Proper.balance (proper : Proper log) (r : ρ) :
    log.count (.acquire r) = log.count (.release r) + if r ∈ held log then 1 else 0 := by
  induction log with
  | nil => simp
  | cons event earlier ih =>
      have before := ih proper.2
      cases event with
      | acquire q =>
          have free : q ∉ held earlier := proper.1
          rw [List.count_cons_of_ne (by simp : LedgerEvent.acquire q ≠ .release r), held_acquire]
          rcases eq_or_ne q r with rfl | other
          · rw [if_neg free] at before
            rw [List.count_cons_self, before, if_pos (Finset.mem_insert_self q _)]
          · rw [List.count_cons_of_ne (by simpa using other), before]
            simp [Ne.symm other]
      | use q =>
          rw [List.count_cons_of_ne (by simp), List.count_cons_of_ne (by simp)]
          exact before
      | release q =>
          have taken : q ∈ held earlier := proper.1
          rw [List.count_cons_of_ne (by simp : LedgerEvent.release q ≠ .acquire r), held_release]
          rcases eq_or_ne q r with rfl | other
          · rw [if_pos taken] at before
            rw [List.count_cons_self, before, if_neg (Finset.notMem_erase q _)]
          · rw [List.count_cons_of_ne (by simpa using other), before]
            simp [Ne.symm other]

/-- A proper ledger of what the holders have, none of them sharing a resource. -/
structure Tracks {ι : Type} (log : List (LedgerEvent ρ)) (holding : ι → Option ρ) : Prop where
  proper : Proper log
  held : ∀ r, r ∈ held log ↔ ∃ i, holding i = some r
  apart : ∀ i j r, holding i = some r → holding j = some r → i = j

namespace Tracks

variable {ι : Type} {holding : ι → Option ρ} {i : ι}

theorem init : Tracks [] (fun _ : ι => (none : Option ρ)) where
  proper := proper_nil
  held := by simp
  apart := by simp

theorem returned (tracks : Tracks log holding) (free : r ∉ Lists.held log) :
    Tracks (.release r :: .acquire r :: log) holding where
  proper := ⟨Finset.mem_insert_self _ _, free, tracks.proper⟩
  held := by
    intro q
    rw [held_release, held_acquire, Finset.erase_insert free, tracks.held]
  apart := tracks.apart

variable [DecidableEq ι]

theorem acquire (tracks : Tracks log holding) (free : r ∉ Lists.held log)
    (empty : holding i = none) :
    Tracks (.acquire r :: log) (assign holding i (some r)) := by
  have unheld : ∀ j, holding j ≠ some r := by
    intro j holds
    exact free ((tracks.held r).mpr ⟨j, holds⟩)
  constructor
  case proper => exact ⟨free, tracks.proper⟩
  case held =>
    intro q
    rw [held_acquire, Finset.mem_insert, tracks.held]
    constructor
    · intro either
      rcases either with rfl | ⟨j, holds⟩
      · exact ⟨i, assign_self holding i _⟩
      · have other : j ≠ i := by
          intro same
          rw [same, empty] at holds
          cases holds
        exact ⟨j, by rw [assign_other holding _ other, holds]⟩
    · intro ⟨j, holds⟩
      rcases eq_or_ne j i with rfl | other
      · rw [assign_self, Option.some.injEq] at holds
        exact .inl holds.symm
      · rw [assign_other holding _ other] at holds
        exact .inr ⟨j, holds⟩
  case apart =>
    intro j k q first second
    by_cases here : j = i
    · by_cases there : k = i
      · rw [here, there]
      · rw [here, assign_self, Option.some.injEq] at first
        rw [assign_other holding _ there, ← first] at second
        exact absurd second (unheld k)
    · rw [assign_other holding _ here] at first
      by_cases there : k = i
      · rw [there, assign_self, Option.some.injEq] at second
        rw [← second] at first
        exact absurd first (unheld j)
      · rw [assign_other holding _ there] at second
        exact tracks.apart j k q first second

theorem release (tracks : Tracks log holding) (holds : holding i = some r) :
    Tracks (.release r :: log) (assign holding i none) := by
  constructor
  case proper => exact ⟨(tracks.held r).mpr ⟨i, holds⟩, tracks.proper⟩
  case held =>
    intro q
    rw [held_release, Finset.mem_erase, tracks.held]
    constructor
    · intro ⟨other, j, holdsQ⟩
      have apart : j ≠ i := by
        intro same
        rw [same, holds, Option.some.injEq] at holdsQ
        exact other holdsQ.symm
      exact ⟨j, by rw [assign_other holding _ apart, holdsQ]⟩
    · intro ⟨j, holdsQ⟩
      rcases eq_or_ne j i with rfl | other
      · rw [assign_self] at holdsQ
        cases holdsQ
      · rw [assign_other holding _ other] at holdsQ
        refine ⟨?_, j, holdsQ⟩
        intro same
        subst same
        exact other (tracks.apart j i _ holdsQ holds)
  case apart =>
    intro j k q first second
    rcases eq_or_ne j i with rfl | jOther
    · rw [assign_self] at first
      cases first
    · rcases eq_or_ne k i with rfl | kOther
      · rw [assign_self] at second
        cases second
      · rw [assign_other holding _ jOther] at first
        rw [assign_other holding _ kOther] at second
        exact tracks.apart j k q first second

end Tracks

end Rs485Gateway.Lists
