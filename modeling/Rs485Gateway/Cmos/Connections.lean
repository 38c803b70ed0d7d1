import Rs485Gateway.Cmos.HandleLine

namespace Rs485Gateway

open Interaction

def cmMaxPubConn : Nat := 256

structure PubConn where
  sock : Option Nat
  nodeName : CStr
  active : Bool
  subSlot : Option Nat
  peer : CStr
  inbox : List Nat

/-- A message of a publisher handed to the callback of a slot. -/
structure Handed where
  peer : CStr
  message : Nat
  subSlot : Option Nat
  deriving DecidableEq

structure SubCtx where
  pubConns : Fin cmMaxPubConn → PubConn
  pubCount : Int
  published : Nat
  handed : List Handed

def closedConn : PubConn := ⟨none, [], false, none, [], []⟩

namespace SubCtx

def ctxInitConns : SubCtx := ⟨fun _ => closedConn, 0, 0, []⟩

def ctxCloseConn (c : SubCtx) (i : Fin cmMaxPubConn) : SubCtx :=
  { c with
    pubCount := if (c.pubConns i).active then c.pubCount - 1 else c.pubCount
    pubConns := assign c.pubConns i closedConn }

def ctxFindConn (c : SubCtx) (node : CStr) (slot : Nat) : Option (Fin cmMaxPubConn) :=
  (List.finRange cmMaxPubConn).find? fun i =>
    (c.pubConns i).active && decide ((c.pubConns i).subSlot = some slot) &&
      decide ((c.pubConns i).nodeName = node)

def freeConn (c : SubCtx) : Option (Fin cmMaxPubConn) :=
  (List.finRange cmMaxPubConn).find? fun i => !(c.pubConns i).active

def setConn (c : SubCtx) (i : Fin cmMaxPubConn) (conn : PubConn) : SubCtx :=
  { c with pubConns := assign c.pubConns i conn }

/-- `sock` is what `connect_tcp` returns if it comes to that; the answer is whether the
call returned 0. -/
def ctxAddPub (c : SubCtx) (subSlot : Nat) (node : CStr) (sock : Option Nat) : SubCtx × Bool :=
  if (c.ctxFindConn node subSlot).isSome then (c, true)
  else
    match c.freeConn, sock with
    | some i, some sock =>
        ({ c.setConn i ⟨some sock, node.take fieldCap, true, some subSlot, node, []⟩ with
          pubCount := c.pubCount + 1 }, true)
    | _, _ => (c, false)

def ctxActiveCount (c : SubCtx) : Nat :=
  (Finset.univ.filter fun i => (c.pubConns i).active ∧ (c.pubConns i).sock.isSome).card

end SubCtx

structure Pubinfo where
  ip : CStr
  port : CStr
  node : CStr
  deriving DecidableEq

def pubinfoIs : CStr := text ['P', 'U', 'B', 'I', 'N', 'F', 'O', ' ']

def parsePubinfo (line : CStr) : Option Pubinfo :=
  if pubinfoIs.isPrefixOf line then
    let cmd := strtok wordEnds line
    let rtop := strtok wordEnds cmd.2
    let ip := strtok wordEnds rtop.2
    let port := strtok wordEnds ip.2
    let node := strtok wordEnds port.2
    match ip.1, port.1, node.1 with
    | some ip, some port, some node => some ⟨ip, port, node⟩
    | _, _, _ => none
  else none

namespace SubCtx

/-- What `ctx_lookup_slot` does with the lines of one answer, and whether it returned 0;
without the line `END` the connection to the master broke. -/
def ctxLookupSlot (s : Nat) (connectTcp : Nat → CStr → CStr → Option Nat) :
    List CStr → SubCtx → Bool → SubCtx × Bool
  | [], c, _ => (c, false)
  | line :: rest, c, found =>
      if isEndLine line then (c, found)
      else
        match parsePubinfo line with
        | none => ctxLookupSlot s connectTcp rest c found
        | some info =>
            let added := c.ctxAddPub s info.node (connectTcp rest.length info.ip info.port)
            ctxLookupSlot s connectTcp rest added.1 (found || added.2)

def publish (c : SubCtx) (node : CStr) : SubCtx :=
  { c with
    published := c.published + 1
    pubConns := fun i =>
      let conn := c.pubConns i
      if conn.active ∧ conn.peer = node then { conn with inbox := conn.inbox ++ [c.published] }
      else conn }

def handle (c : SubCtx) (i : Fin cmMaxPubConn) : SubCtx :=
  let conn := c.pubConns i
  match conn.inbox with
  | [] => c
  | message :: rest =>
      if conn.active then
        { c.setConn i { conn with inbox := rest } with
          handed := c.handed ++ [⟨conn.peer, message, conn.subSlot⟩] }
      else c

end SubCtx

/-- Lookups, lost connections, publishing and handling in any order; `allowed` narrows
what the master sends. -/
inductive SubRuns (allowed : CStr → Prop) : SubCtx → Prop
  | init : SubRuns allowed .ctxInitConns
  | lookup {c : SubCtx} (before : SubRuns allowed c) (s : Nat)
      (connectTcp : Nat → CStr → CStr → Option Nat) (lines : List CStr)
      (narrowed : ∀ line ∈ lines, allowed line) :
      SubRuns allowed (c.ctxLookupSlot s connectTcp lines false).1
  | lose {c : SubCtx} (before : SubRuns allowed c) (i : Fin cmMaxPubConn) :
      SubRuns allowed (c.ctxCloseConn i)
  | publish {c : SubCtx} (before : SubRuns allowed c) (node : CStr) :
      SubRuns allowed (c.publish node)
  | handle {c : SubCtx} (before : SubRuns allowed c) (i : Fin cmMaxPubConn) :
      SubRuns allowed (c.handle i)

def ShortName (line : CStr) : Prop :=
  ∀ info, parsePubinfo line = some info → info.node.length ≤ fieldCap

namespace SubCtx

def Unique (c : SubCtx) : Prop :=
  ∀ i j, (c.pubConns i).active = true → (c.pubConns j).active = true →
    (c.pubConns i).peer = (c.pubConns j).peer →
      (c.pubConns i).subSlot = (c.pubConns j).subSlot → i = j

structure Counted (c : SubCtx) : Prop where
  opened : ∀ i, (c.pubConns i).active = true ↔ (c.pubConns i).sock.isSome = true
  count : c.pubCount = c.ctxActiveCount

structure Once (c : SubCtx) : Prop where
  unique : c.Unique
  names : ∀ i, (c.pubConns i).active = true → (c.pubConns i).nodeName = (c.pubConns i).peer
  waiting : ∀ i, (c.pubConns i).inbox.Nodup ∧ ∀ message ∈ (c.pubConns i).inbox,
    (c.pubConns i).active = true ∧ message < c.published ∧
      (⟨(c.pubConns i).peer, message, (c.pubConns i).subSlot⟩ : Handed) ∉ c.handed
  past : ∀ handed ∈ c.handed, handed.message < c.published
  once : c.handed.Nodup

section Steps

variable {c : SubCtx} {s : Nat} {node : CStr} {sock : Option Nat}

theorem ctxAddPub_cases (c : SubCtx) (s : Nat) (node : CStr) (sock : Option Nat) :
    (c.ctxAddPub s node sock).1 = c ∨
      ∃ i fd, c.ctxFindConn node s = none ∧ (c.pubConns i).active = false ∧
        (c.ctxAddPub s node sock).1 =
          { c.setConn i ⟨some fd, node.take fieldCap, true, some s, node, []⟩ with
            pubCount := c.pubCount + 1 } := by
  unfold ctxAddPub
  split
  · exact .inl rfl
  · rename_i missing
    split
    · rename_i i fd free
      have closed := List.find?_some free
      exact .inr ⟨i, fd, by simpa using missing, by simpa using closed, rfl⟩
    · exact .inl rfl

theorem ctxFindConn_none (missing : c.ctxFindConn node s = none) (i : Fin cmMaxPubConn)
    (active : (c.pubConns i).active = true) (slot : (c.pubConns i).subSlot = some s) :
    (c.pubConns i).nodeName ≠ node := by
  intro same
  have other := List.find?_eq_none.mp missing i (List.mem_finRange i)
  simp [active, slot, same] at other

theorem ctxLookupSlot_keeps {keeps : SubCtx → Prop} {allowed : CStr → Prop}
    {connectTcp : Nat → CStr → CStr → Option Nat}
    (adds : ∀ c line info sock, allowed line → parsePubinfo line = some info → keeps c →
      keeps (c.ctxAddPub s info.node sock).1)
    {lines : List CStr} (narrowed : ∀ line ∈ lines, allowed line) {found : Bool}
    (before : keeps c) : keeps (c.ctxLookupSlot s connectTcp lines found).1 := by
  induction lines generalizing c found with
  | nil => exact before
  | cons line rest ih =>
      have later := fun line member => narrowed line (List.mem_cons_of_mem _ member)
      rw [ctxLookupSlot]
      split
      · exact before
      · split
        · exact ih later before
        · rename_i info parsed
          exact ih later (adds _ line info _ (narrowed line List.mem_cons_self) parsed before)

def activeConns (c : SubCtx) : Finset (Fin cmMaxPubConn) :=
  Finset.univ.filter fun i => (c.pubConns i).active ∧ (c.pubConns i).sock.isSome

theorem mem_activeConns {i : Fin cmMaxPubConn} :
    i ∈ c.activeConns ↔ (c.pubConns i).active = true ∧ (c.pubConns i).sock.isSome = true := by
  simp [activeConns]

theorem counted_init : ctxInitConns.Counted where
  opened _ := by simp [ctxInitConns, closedConn]
  count := by simp [ctxInitConns, ctxActiveCount, closedConn]

theorem counted_add (before : c.Counted) : (c.ctxAddPub s node sock).1.Counted := by
  rcases ctxAddPub_cases c s node sock with same | ⟨i, fd, -, closed, added⟩
  · rw [same]
    exact before
  · rw [added]
    refine ⟨fun j => ?_, ?_⟩
    · by_cases self : j = i
      · subst self
        simp [setConn]
      · simpa [setConn, self] using before.opened j
    · have absent : i ∉ c.activeConns := by simp [mem_activeConns, closed]
      have grown :
          activeConns { c.setConn i ⟨some fd, node.take fieldCap, true, some s, node, []⟩ with
            pubCount := c.pubCount + 1 } = insert i c.activeConns := by
        ext j
        rw [Finset.mem_insert, mem_activeConns, mem_activeConns]
        by_cases self : j = i
        · subst self
          simp [setConn]
        · simp [setConn, self]
      have size := congrArg Finset.card grown
      rw [Finset.card_insert_of_notMem absent] at size
      have count := before.count
      change c.pubCount + 1 = ((activeConns _).card : Int)
      rw [size, count]
      simp [ctxActiveCount, activeConns]

theorem counted_close (before : c.Counted) (i : Fin cmMaxPubConn) :
    (c.ctxCloseConn i).Counted := by
  refine ⟨fun j => ?_, ?_⟩
  · by_cases self : j = i
    · subst self
      simp [ctxCloseConn, closedConn]
    · simpa [ctxCloseConn, self] using before.opened j
  · have shrunk : (c.ctxCloseConn i).activeConns = c.activeConns.erase i := by
      ext j
      rw [Finset.mem_erase, mem_activeConns, mem_activeConns]
      by_cases self : j = i
      · subst self
        simp [ctxCloseConn, closedConn]
      · simp [ctxCloseConn, self]
    have size := congrArg Finset.card shrunk
    have count := before.count
    change (c.ctxCloseConn i).pubCount = ((c.ctxCloseConn i).activeConns.card : Int)
    change c.pubCount = (c.activeConns.card : Int) at count
    cases active : (c.pubConns i).active with
    | false =>
        have absent : i ∉ c.activeConns := by simp [mem_activeConns, active]
        rw [Finset.erase_eq_of_notMem absent] at size
        rw [size, ← count]
        simp [ctxCloseConn, active]
    | true =>
        have member : i ∈ c.activeConns :=
          mem_activeConns.mpr ⟨active, (before.opened i).mp active⟩
        rw [Finset.card_erase_of_mem member] at size
        have positive := Finset.card_pos.mpr ⟨i, member⟩
        simp only [ctxCloseConn, active, if_true] at size ⊢
        omega

theorem counted_same {c' : SubCtx} (before : c.Counted) (count : c'.pubCount = c.pubCount)
    (same : ∀ i, (c'.pubConns i).active = (c.pubConns i).active ∧
      (c'.pubConns i).sock = (c.pubConns i).sock) : c'.Counted := by
  refine ⟨fun i => ?_, ?_⟩
  · rw [(same i).1, (same i).2]
    exact before.opened i
  · have size : c'.ctxActiveCount = c.ctxActiveCount := by
      simp only [ctxActiveCount, (same _).1, (same _).2]
    rw [count, size, before.count]

end Steps

section Delivery

variable {c : SubCtx} {s : Nat} {node : CStr} {sock : Option Nat}

theorem once_init : ctxInitConns.Once where
  unique i _ active := by cases active
  names i active := by cases active
  waiting _ := ⟨List.nodup_nil, by simp [ctxInitConns, closedConn]⟩
  past _ member := by cases member
  once := List.nodup_nil

theorem once_add (before : c.Once) (short : node.length ≤ fieldCap) :
    (c.ctxAddPub s node sock).1.Once := by
  rcases ctxAddPub_cases c s node sock with same | ⟨i, fd, missing, closed, added⟩
  · rw [same]
    exact before
  · have kept : node.take fieldCap = node := List.take_of_length_le short
    have fresh (j : Fin cmMaxPubConn) (active : (c.pubConns j).active = true)
        (slot : (c.pubConns j).subSlot = some s) : (c.pubConns j).peer ≠ node := by
      rw [← before.names j active]
      exact ctxFindConn_none missing j active slot
    rw [added, kept]
    refine ⟨?_, ?_, ?_, before.past, before.once⟩
    · intro j k active other peers slots
      by_cases left : j = i <;> by_cases right : k = i
      · exact left.trans right.symm
      · simp only [setConn, left, assign_self, assign_other _ _ right] at other peers slots
        exact absurd peers.symm (fresh k other slots.symm)
      · simp only [setConn, right, assign_self, assign_other _ _ left] at active peers slots
        exact absurd peers (fresh j active slots)
      · simp only [setConn, assign_other _ _ left, assign_other _ _ right]
          at active other peers slots
        exact before.unique j k active other peers slots
    · intro j active
      by_cases self : j = i
      · simp [setConn, self]
      · simp only [setConn, assign_other _ _ self] at active ⊢
        exact before.names j active
    · intro j
      by_cases self : j = i
      · simp [setConn, self]
      · simpa [setConn, self] using before.waiting j

theorem once_close (before : c.Once) (i : Fin cmMaxPubConn) : (c.ctxCloseConn i).Once := by
  have open_other (j : Fin cmMaxPubConn) (active : ((c.ctxCloseConn i).pubConns j).active = true) :
      (c.ctxCloseConn i).pubConns j = c.pubConns j := by
    by_cases self : j = i
    · simp [ctxCloseConn, self, closedConn] at active
    · simp [ctxCloseConn, self]
  refine ⟨?_, ?_, ?_, before.past, before.once⟩
  · intro j k active other
    have first := open_other j active
    have second := open_other k other
    rw [first] at active ⊢
    rw [second] at other ⊢
    exact before.unique j k active other
  · intro j active
    have same := open_other j active
    rw [same] at active ⊢
    exact before.names j active
  · intro j
    by_cases self : j = i
    · simp [ctxCloseConn, self, closedConn]
    · simpa [ctxCloseConn, self] using before.waiting j

theorem publish_conn (c : SubCtx) (node : CStr) (i : Fin cmMaxPubConn) :
    ∃ more, (∀ message ∈ more, (c.pubConns i).active = true ∧ message = c.published) ∧ more.Nodup ∧
      (c.publish node).pubConns i =
        { c.pubConns i with inbox := (c.pubConns i).inbox ++ more } := by
  by_cases reached : (c.pubConns i).active = true ∧ (c.pubConns i).peer = node
  · exact ⟨[c.published], by simp [reached], List.nodup_singleton _, if_pos reached⟩
  · refine ⟨[], by simp, List.nodup_nil, ?_⟩
    rw [List.append_nil]
    exact if_neg reached

theorem once_publish (before : c.Once) (node : CStr) : (c.publish node).Once := by
  refine ⟨?_, ?_, ?_, ?_, before.once⟩
  · intro i j
    obtain ⟨_, -, -, first⟩ := publish_conn c node i
    obtain ⟨_, -, -, second⟩ := publish_conn c node j
    rw [first, second]
    exact before.unique i j
  · intro i
    obtain ⟨_, -, -, same⟩ := publish_conn c node i
    rw [same]
    exact before.names i
  · intro i
    obtain ⟨more, news, single, same⟩ := publish_conn c node i
    obtain ⟨nodup, old⟩ := before.waiting i
    rw [same]
    refine ⟨List.nodup_append.mpr ⟨nodup, single, ?_⟩, ?_⟩
    · intro message member other new
      rw [(news other new).2]
      exact (old message member).2.1.ne
    · intro message member
      rcases List.mem_append.mp member with waiting | new
      · obtain ⟨active, below, unhanded⟩ := old message waiting
        exact ⟨active, Nat.lt_succ_of_lt below, unhanded⟩
      · obtain ⟨active, rfl⟩ := news message new
        exact ⟨active, Nat.lt_succ_self _, fun handed => (before.past _ handed).false⟩
  · exact fun handed member => Nat.lt_succ_of_lt (before.past handed member)

theorem inbox_conn (c : SubCtx) (i j : Fin cmMaxPubConn) (rest : List Nat) :
    (c.setConn i { c.pubConns i with inbox := rest }).pubConns j =
      { c.pubConns j with inbox := if j = i then rest else (c.pubConns j).inbox } := by
  by_cases self : j = i
  · subst self
    simp [setConn]
  · simp [setConn, self]

theorem once_handle (before : c.Once) (i : Fin cmMaxPubConn) : (c.handle i).Once := by
  rw [handle]
  split
  · exact before
  · rename_i message rest waits
    split
    · rename_i active
      have waiting := before.waiting i
      rw [waits] at waiting
      obtain ⟨fresh, later⟩ := List.nodup_cons.mp waiting.1
      obtain ⟨-, below, unhanded⟩ := waiting.2 message List.mem_cons_self
      refine ⟨?_, ?_, ?_, ?_, ?_⟩
      · intro j k
        simp only [inbox_conn]
        exact before.unique j k
      · intro j
        simp only [inbox_conn]
        exact before.names j
      · intro j
        simp only [inbox_conn]
        by_cases self : j = i
        · subst self
          rw [if_pos rfl]
          refine ⟨later, fun other member => ?_⟩
          obtain ⟨_, otherBelow, otherUnhanded⟩ := waiting.2 other (List.mem_cons_of_mem _ member)
          refine ⟨active, otherBelow, fun handed => ?_⟩
          rcases List.mem_append.mp handed with old | new
          · exact otherUnhanded old
          · have same : other = message := congrArg Handed.message (List.mem_singleton.mp new)
            exact fresh (same ▸ member)
        · rw [if_neg self]
          refine ⟨(before.waiting j).1, fun other member => ?_⟩
          obtain ⟨otherActive, otherBelow, otherUnhanded⟩ := (before.waiting j).2 other member
          refine ⟨otherActive, otherBelow, fun handed => ?_⟩
          rcases List.mem_append.mp handed with old | new
          · exact otherUnhanded old
          · have same := List.mem_singleton.mp new
            exact self (before.unique j i otherActive active (congrArg Handed.peer same)
              (congrArg Handed.subSlot same))
      · intro handed member
        rcases List.mem_append.mp member with old | new
        · exact before.past handed old
        · rw [List.mem_singleton.mp new]
          exact below
      · refine List.nodup_append.mpr ⟨before.once, List.nodup_singleton _, ?_⟩
        intro handed member other new same
        rw [List.mem_singleton.mp new] at same
        exact unhanded (same ▸ member)
    · exact before

end Delivery

end SubCtx

section Runs

variable {allowed : CStr → Prop} {c : SubCtx}

/-- Whatever the master sends, `pub_count` is the number of active connections. -/
theorem SubRuns.counted (run : SubRuns allowed c) : c.Counted := by
  induction run with
  | init => exact SubCtx.counted_init
  | lookup before s connectTcp lines narrowed ih =>
      exact SubCtx.ctxLookupSlot_keeps (fun c _ _ _ _ _ kept => SubCtx.counted_add kept) narrowed ih
  | lose before i ih => exact SubCtx.counted_close ih i
  | @publish c before node ih =>
      refine SubCtx.counted_same ih rfl fun i => ?_
      obtain ⟨_, -, -, same⟩ := SubCtx.publish_conn c node i
      rw [same]
      exact ⟨rfl, rfl⟩
  | @handle c before i ih =>
      rw [SubCtx.handle]
      split
      · exact ih
      · split
        · refine SubCtx.counted_same ih rfl fun j => ?_
          simp only [SubCtx.inbox_conn, and_self]
        · exact ih

theorem SubRuns.once (run : SubRuns ShortName c) : c.Once := by
  induction run with
  | init => exact SubCtx.once_init
  | lookup before s connectTcp lines narrowed ih =>
      refine SubCtx.ctxLookupSlot_keeps ?_ narrowed ih
      exact fun c line info sock short parsed kept => SubCtx.once_add kept (short info parsed)
  | lose before i ih => exact SubCtx.once_close ih i
  | publish before node ih => exact SubCtx.once_publish ih node
  | handle before i ih => exact SubCtx.once_handle ih i

end Runs

/-- With node names the table holds whole, there is one connection for a publisher and a
slot, and each message reaches the slot once. -/
theorem connections_once (c : SubCtx) (run : SubRuns ShortName c) :
    c.Unique ∧ c.handed.Nodup ∧ c.pubCount = c.ctxActiveCount :=
  ⟨run.once.unique, run.once.once, run.counted.count⟩

def loopback : CStr := text "127.0.0.1".toList
def publisherPort : CStr := text "13000".toList

def pubinfoLine (node : CStr) : CStr :=
  pubinfoIs ++ text "control_output ".toList ++ loopback ++ text [' '] ++ publisherPort ++
    text [' '] ++ node ++ [lf]

def lookupAnswer (node : CStr) : List CStr := [pubinfoLine node, text "END\n".toList]

/-- `connect_tcp` while one publisher listens: any other address is refused. -/
def listening (sock : Nat) (_ : Nat) (ip port : CStr) : Option Nat :=
  if ip = loopback ∧ port = publisherPort then some sock else none

theorem connections_once_repeated : ∃ c, SubRuns ShortName c ∧ c.handed.length = 2 ∧
    c.pubCount = 1 ∧ c.Unique ∧ c.handed.Nodup ∧ c.pubCount = c.ctxActiveCount := by
  have short : ∀ line ∈ lookupAnswer (text ['n']), ShortName line := by
    intro line member info parsed
    rcases List.mem_pair.mp member with rfl | rfl
    · cases parsed
      decide
    · cases parsed
  -- the same line again after a message, then one message more
  have first := SubRuns.init.lookup 0 (listening 7) _ short
  have looked := (first.publish (text ['n'])).lookup 0 (listening 8) _ short
  have second := looked.publish (text ['n'])
  have handled := (second.handle ⟨0, by decide⟩).handle ⟨0, by decide⟩
  exact ⟨_, handled, by decide +kernel, by decide +kernel, connections_once _ handled⟩

/-- A name of 64 bytes is stored without its last byte and never found again. -/
theorem connections_doubled : ¬ ∀ c, SubRuns (fun _ => True) c →
    c.Unique ∧ c.handed.Nodup ∧ c.pubCount = c.ctxActiveCount := by
  intro claim
  have first := (@SubRuns.init fun _ => True).lookup 0 (listening 7)
    (lookupAnswer (List.replicate 64 0x6E)) (fun _ _ => trivial)
  have second := first.lookup 0 (listening 8) (lookupAnswer (List.replicate 64 0x6E))
    (fun _ _ => trivial)
  have handed := ((second.publish (List.replicate 64 0x6E)).handle ⟨0, by decide⟩).handle
    ⟨1, by decide⟩
  have twice := (claim _ handed).2.1
  revert twice
  decide +kernel

end Rs485Gateway
