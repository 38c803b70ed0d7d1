import Rs485Gateway.Daemon.Trace

namespace Rs485Gateway

open Interaction

def poolOf : History → Pool
  | [] => fun _ => 0
  | (_, event) :: older => poolStep (poolOf older) event.1

def ReadsPool : History → Prop
  | [] => True
  | (_, event) :: older =>
      (∀ reader slot answer, event = ⟨.poolRead reader slot, answer⟩ →
        answer = poolReadRegister (poolOf older) slot) ∧ ReadsPool older

theorem ReadsPool.tail {newer older : History} (reads : ReadsPool (newer ++ older)) :
    ReadsPool older := by
  induction newer with
  | nil => exact reads
  | cons event newer ih => exact ih reads.2

/-- The step lemma: blocking leaves the pool alone, completing is a pool step. -/
theorem PoolTracked.step {daemon : Daemon} {c c' : DaemonConfig} {t : ThreadId} {choice : Choice}
    (moved : daemon.system.Step c t choice c')
    (tracked : c.shared.pool = poolOf c.history ∧ ReadsPool c.history) :
    c'.shared.pool = poolOf c'.history ∧ ReadsPool c'.history := by
  obtain ⟨pool, reads⟩ := tracked
  cases moved with
  | resume => exact ⟨pool, reads⟩
  | enter => exact ⟨pool, reads⟩
  | @block operation next shared atOp performed =>
      refine ⟨?_, reads⟩
      have stepped := perform_pool performed
      by_cases acquires : ∃ path, operation = .busAcquire path
      · obtain ⟨path, rfl⟩ := acquires
        exact stepped.trans pool
      · by_cases releases : ∃ path, operation = .busRelease path
        · obtain ⟨path, rfl⟩ := releases
          exact stepped.trans pool
        · obtain ⟨⟨answer, impossible⟩, _⟩ := perform_bus performed
            (fun path same => acquires ⟨path, same⟩) fun path same => releases ⟨path, same⟩
          cases impossible
  | @complete operation next answer shared atOp performed =>
      constructor
      · exact (perform_pool performed).trans (congrArg (poolStep · operation) pool)
      · refine ⟨?_, reads⟩
        intro reader slot found same
        cases same
        simp only [Daemon.system, perform, Option.some.injEq, Prod.mk.injEq] at performed
        rw [← pool]
        exact performed.1.symm

theorem reachable_pool {daemon : Daemon} {c : DaemonConfig} (reached : daemon.Reachable c) :
    c.shared.pool = poolOf c.history ∧ ReadsPool c.history :=
  System.Reaches.induct ⟨rfl, trivial⟩
    (fun _ _ _ _ _ tracked moved => PoolTracked.step moved tracked) reached

namespace DaemonOp

def writes (slot : Reg) : DaemonOp → Bool
  | poolStore poolAddress _ => poolAddress = slot
  | poolWrite poolAddress _ => poolAddress = slot
  | _ => false

end DaemonOp

def lastWrite (slot : Reg) : History → Option DaemonOp
  | [] => none
  | (_, event) :: older => if event.1.writes slot then some event.1 else lastWrite slot older

/-- The slot holds a value some scan stored. -/
def stored (slot : Reg) (history : History) : Bool :=
  match lastWrite slot history with
  | some (.poolStore _ _) => true
  | _ => false

/-- The slot holds what a plain pool write left there. -/
def marked (slot : Reg) (history : History) : Bool :=
  match lastWrite slot history with
  | some (.poolWrite _ _) => true
  | _ => false

section LastWrite

variable {slot : Reg} {history : History}

theorem poolStep_other {operation : DaemonOp} (elsewhere : operation.writes slot = false)
    (pool : Pool) : poolStep pool operation slot = pool slot := by
  cases operation with
  | poolStore address value =>
      have apart : slot ≠ address := by simpa [DaemonOp.writes, eq_comm] using elsewhere
      exact assign_other _ _ apart
  | poolWrite address value =>
      have apart : slot ≠ address := by simpa [DaemonOp.writes, eq_comm] using elsewhere
      exact poolWriteRegister_other apart
  | _ => rfl

theorem poolOf_unwritten (unwritten : lastWrite slot history = none) : poolOf history slot = 0 := by
  induction history with
  | nil => rfl
  | cons head older ih =>
      obtain ⟨t, event⟩ := head
      rw [lastWrite] at unwritten
      split at unwritten
      · cases unwritten
      · rename_i elsewhere
        rw [poolOf, poolStep_other (by simpa using elsewhere)]
        exact ih unwritten

/-- A slot holds the value of the last operation that wrote it. -/
theorem lastWrite_value {operation : DaemonOp} (last : lastWrite slot history = some operation) :
    ∃ newer t answer older, history = newer ++ (t, ⟨operation, answer⟩) :: older ∧
      operation.writes slot = true ∧
      poolOf history slot = poolStep (poolOf older) operation slot := by
  induction history with
  | nil => cases last
  | cons head older ih =>
      obtain ⟨t, event⟩ := head
      by_cases here : event.1.writes slot = true
      · rw [lastWrite, if_pos here] at last
        cases last
        exact ⟨[], t, event.2, older, rfl, here, rfl⟩
      · rw [lastWrite, if_neg here] at last
        obtain ⟨newer, u, answer, rest, split, writes, value⟩ := ih last
        refine ⟨(t, event) :: newer, u, answer, rest, by rw [split]; rfl, writes, ?_⟩
        rw [poolOf, poolStep_other (by simpa using here)]
        exact value

theorem stored_value (holds : stored slot history = true) :
    ∃ newer t older,
      history = newer ++ (t, ⟨.poolStore slot (poolOf history slot), ()⟩) :: older := by
  unfold stored at holds
  split at holds
  · rename_i address value last
    obtain ⟨newer, t, answer, older, split, writes, holding⟩ := lastWrite_value last
    obtain rfl : address = slot := by simpa [DaemonOp.writes] using writes
    have held : poolOf history address = value := by simpa [poolStep] using holding
    exact ⟨newer, t, older, by rw [held]; exact split⟩
  · cases holds

theorem written_value (inside : slot.toNat < internalPoolSize)
    (holds : marked slot history = true) :
    ∃ newer t older,
      history = newer ++ (t, ⟨.poolWrite slot (poolOf history slot), ()⟩) :: older := by
  unfold marked at holds
  split at holds
  · rename_i address value last
    obtain ⟨newer, t, answer, older, split, writes, holding⟩ := lastWrite_value last
    obtain rfl : address = slot := by simpa [DaemonOp.writes] using writes
    have held : poolOf history address = value := by
      rw [holding]
      exact poolWriteRegister_self inside
    exact ⟨newer, t, older, by rw [held]; exact split⟩
  · cases holds

/-- Never written, stored by a scan, or written otherwise. -/
inductive SlotOrigin (slot : Reg) (history : History) : Prop
  | initial (unstored : stored slot history = false) (zero : poolOf history slot = 0)
      (unwritten : lastWrite slot history = none)
  | scanned (holds : stored slot history = true)
  | plain (unstored : stored slot history = false) (holds : marked slot history = true)

theorem slot_origin (slot : Reg) (history : History) : SlotOrigin slot history := by
  cases last : lastWrite slot history with
  | none => exact .initial (by simp [stored, last]) (poolOf_unwritten last) last
  | some operation =>
      obtain ⟨_, _, _, _, _, writes, _⟩ := lastWrite_value last
      cases operation with
      | poolStore address value => exact .scanned (by simp [stored, last])
      | poolWrite address value => exact .plain (by simp [stored, last]) (by simp [marked, last])
      | _ => cases writes

end LastWrite

end Rs485Gateway
