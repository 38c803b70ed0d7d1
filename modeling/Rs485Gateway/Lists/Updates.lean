import Rs485Gateway.Interaction.Interleaving

namespace Rs485Gateway.Lists

open Interaction

variable {κ β : Type} [DecidableEq κ]

def writeAll (f : κ → β) (writes : List (κ × β)) : κ → β :=
  writes.foldl (fun f write => assign f write.1 write.2) f

variable {f : κ → β} {writes first second : List (κ × β)} {key : κ} {value : β}

@[simp] theorem writeAll_nil : writeAll f [] = f := rfl

@[simp] theorem writeAll_cons (write : κ × β) :
    writeAll f (write :: writes) = writeAll (assign f write.1 write.2) writes := rfl

@[simp] theorem writeAll_append :
    writeAll f (first ++ second) = writeAll (writeAll f first) second :=
  List.foldl_append

theorem writeAll_other (absent : key ∉ writes.map Prod.fst) : writeAll f writes key = f key := by
  induction writes generalizing f with
  | nil => rfl
  | cons write rest ih =>
      rw [List.map_cons, List.mem_cons, not_or] at absent
      rw [writeAll_cons, ih absent.2, assign_other _ _ absent.1]

theorem writeAll_unique (once : (writes.map Prod.fst).Nodup) (member : (key, value) ∈ writes) :
    writeAll f writes key = value := by
  induction writes generalizing f with
  | nil => cases member
  | cons write rest ih =>
      rw [List.map_cons, List.nodup_cons] at once
      rcases List.mem_cons.mp member with rfl | later
      · rw [writeAll_cons, writeAll_other once.1, assign_self]
      · exact ih once.2 later

theorem writeAll_constant (same : ∀ write ∈ writes, write.1 = key → write.2 = value)
    (member : key ∈ writes.map Prod.fst) : writeAll f writes key = value := by
  induction writes generalizing f with
  | nil => cases member
  | cons write rest ih =>
      have others := fun write member => same write (List.mem_cons_of_mem _ member)
      rw [writeAll_cons]
      by_cases later : key ∈ rest.map Prod.fst
      · exact ih others later
      · have here : key = write.1 := by
          rcases List.mem_cons.mp member with here | there
          · exact here
          · exact absurd there later
        rw [writeAll_other later, here, assign_self]
        exact same write List.mem_cons_self here.symm

/-- The value last written to a key. -/
def latest (writes : List (κ × β)) (key : κ) : Option β :=
  (writes.reverse.find? fun write => write.1 = key).map Prod.snd

theorem writeAll_latest (f : κ → β) (writes : List (κ × β)) (key : κ) :
    writeAll f writes key = (latest writes key).getD (f key) := by
  induction writes using List.reverseRecOn with
  | nil => rfl
  | append_singleton writes write ih =>
      rw [writeAll_append, writeAll_cons, writeAll_nil]
      unfold latest
      rw [List.reverse_append, List.reverse_singleton, List.singleton_append, List.find?_cons]
      by_cases here : write.1 = key
      · rw [← here, assign_self]
        simp
      · rw [assign_other _ _ (Ne.symm here), ih]
        simp [here, latest]

def valuesOf (key : κ) (writes : List (κ × β)) : List β :=
  (writes.filter fun write => write.1 = key).map Prod.snd

@[simp] theorem valuesOf_nil : valuesOf key ([] : List (κ × β)) = [] := rfl

@[simp] theorem valuesOf_append :
    valuesOf key (first ++ second) = valuesOf key first ++ valuesOf key second := by
  rw [valuesOf, List.filter_append, List.map_append, valuesOf, valuesOf]

@[simp] theorem valuesOf_self : valuesOf key [(key, value)] = [value] := by
  simp [valuesOf]

theorem mem_valuesOf : value ∈ valuesOf key writes ↔ (key, value) ∈ writes := by
  simp [valuesOf]

theorem valuesOf_countP (key : κ) (writes : List (κ × β)) :
    (valuesOf key writes).length = writes.countP fun write => write.1 = key := by
  rw [valuesOf, List.length_map, List.countP_eq_length_filter]

theorem valuesOf_other {other : κ} (apart : other ≠ key) : valuesOf key [(other, value)] = [] := by
  simp [valuesOf, apart]

theorem assign_assign (f : κ → β) (key : κ) (old value : β) :
    assign (assign f key old) key value = assign f key value := by
  funext other
  by_cases same : other = key
  · rw [same, assign_self, assign_self]
  · simp only [assign_other _ _ same]

theorem assign_comm {first second : κ} (apart : first ≠ second) (f : κ → β) (x y : β) :
    assign (assign f first x) second y = assign (assign f second y) first x := by
  funext key
  by_cases atFirst : key = first
  · rw [atFirst, assign_other _ _ apart, assign_self, assign_self]
  · by_cases atSecond : key = second
    · rw [atSecond, assign_self, assign_other _ _ apart.symm, assign_self]
    · simp only [assign_other _ _ atFirst, assign_other _ _ atSecond]

theorem writeAll_assign (absent : key ∉ writes.map Prod.fst) :
    writeAll (assign f key value) writes = assign (writeAll f writes) key value := by
  induction writes generalizing f with
  | nil => rfl
  | cons write rest ih =>
      rw [List.map_cons, List.mem_cons, not_or] at absent
      rw [writeAll_cons, writeAll_cons, assign_comm absent.1, ih absent.2]

/-- Replacing the value of an earlier write stands for a later one. -/
theorem writeAll_replace {old : β} (absent : key ∉ writes.map Prod.fst) :
    writeAll f ((key, value) :: writes) = writeAll f ((key, old) :: writes ++ [(key, value)]) := by
  calc
    writeAll f ((key, value) :: writes) = assign (writeAll f writes) key value :=
      writeAll_assign absent
    _ = assign (assign (writeAll f writes) key old) key value := (assign_assign _ _ _ _).symm
    _ = assign (writeAll (assign f key old) writes) key value := by rw [writeAll_assign absent]
    _ = writeAll f ((key, old) :: writes ++ [(key, value)]) := by
      rw [List.cons_append, writeAll_cons, writeAll_append]
      rfl

end Rs485Gateway.Lists
