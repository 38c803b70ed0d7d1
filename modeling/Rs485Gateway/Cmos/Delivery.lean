import Mathlib.Data.List.GetD
import Rs485Gateway.Cmos.Publish

/-! One publisher and one subscriber context on the same topic: every slot has its own
connection, and `cmos_sub_spin_ctx` reads whichever is ready. -/

namespace Rs485Gateway

open Rs485Gateway.Lists

/-- The connection of one slot: the bytes on their way, the receive buffer and the
number of lines handled. -/
structure SlotConn where
  wire : CStr
  rxbuf : CStr
  handled : Nat

structure Call where
  slot : Nat
  line : Nat
  args : CStr × CStr
  deriving DecidableEq

structure Delivery where
  published : List CStr
  conns : Nat → SlotConn
  calls : List Call

namespace Delivery

def start : Delivery where
  published := []
  conns _ := ⟨[], [], 0⟩
  calls := []

def publish (d : Delivery) (line : CStr) : Delivery where
  published := d.published ++ [line]
  conns s := { d.conns s with wire := (d.conns s).wire ++ line }
  calls := d.calls

def callsOn (slots : List SubSlot) (s : Nat) (lines : List (CStr × Nat)) : List Call :=
  lines.filterMap fun line => (ctxHandleLine slots (some s) line.1).map (⟨s, line.2, ·⟩)

/-- One ready connection: `recv` takes `n` bytes and the complete lines are handled. -/
def read (slots : List SubSlot) (d : Delivery) (s n : Nat) : Delivery :=
  let conn := d.conns s
  let got := receive handlesAll conn.rxbuf (conn.wire.take n)
  { published := d.published
    conns := Function.update d.conns s
      ⟨conn.wire.drop n, got.2.1, conn.handled + got.1.length⟩
    calls := d.calls ++ callsOn slots s (got.1.zipIdx conn.handled) }

end Delivery

inductive Delivers (slots : List SubSlot) (topic : CStr) : Delivery → Prop
  | start : Delivers slots topic .start
  | publish {d : Delivery} (before : Delivers slots topic d) (message : Message) (stale : CStr) :
      Delivers slots topic (d.publish (publishLine (keptTopic topic) (message.data stale)))
  | read {d : Delivery} (before : Delivers slots topic d) (s n : Nat) (positive : 0 < n)
      (ready : n ≤ (d.conns s).wire.length) (fits : n ≤ rxRoom (d.conns s).rxbuf) :
      Delivers slots topic (d.read slots s n)

/-- For each line of a stream the number of the message it is part of. -/
def lineOwners (published : List CStr) : List Nat :=
  published.zipIdx.flatMap fun line => (blocks endsLine line.1).map fun _ => line.2

def Call.message (published : List CStr) (call : Call) : Nat :=
  (lineOwners published).getD call.line published.length

def InPublishOrder (published : List CStr) (calls : List Call) : Prop :=
  calls.Pairwise fun first second => first.message published ≤ second.message published

instance (published : List CStr) (calls : List Call) :
    Decidable (InPublishOrder published calls) :=
  inferInstanceAs (Decidable (List.Pairwise _ _))

def Delivery.callsOf (d : Delivery) (s : Nat) : List Call := d.calls.filter (·.slot = s)

/-- The callbacks of a slot when the published messages are handled one after another. -/
def expectedCalls (slots : List SubSlot) (s : Nat) (published : List CStr) : List Call :=
  Delivery.callsOn slots s (published.flatMap (blocks endsLine)).zipIdx

section Lines

structure PublishedLine (line : CStr) : Prop where
  closed : leftOver endsLine line = []
  short : line.length ≤ cmLineBuf - 1

theorem publishedLine (topic : CStr) (message : Message) (stale : CStr) :
    PublishedLine (publishLine (keptTopic topic) (message.data stale)) := by
  constructor
  · rw [publishLine_eq topic _ (message.data_length_le stale)]
    exact leftOver_closed _ rfl
  · exact List.length_take_le _ _

theorem linesFit_published {published : List CStr}
    (lines : ∀ line ∈ published, PublishedLine line) :
    blocks endsLine published.flatten = published.flatMap (blocks endsLine) ∧
      LinesFit published.flatten := by
  have cut := delimited_flatten fun line member => (lines line member).closed
  have whole : blocks endsLine published.flatten = published.flatMap (blocks endsLine) := by
    rw [blocks, cut]
  refine ⟨whole, ?_, ?_⟩
  · intro block member
    rw [whole] at member
    obtain ⟨line, published_line, inside⟩ := List.mem_flatMap.mp member
    exact (blocks_length_le line block inside).trans (lines line published_line).short
  · rw [leftOver, cut]
    exact Nat.zero_le _

end Lines

section Owners

variable {published : List CStr}

theorem lineOwners_ordered : (lineOwners published).Pairwise (· ≤ ·) := by
  have numbered : (published.zipIdx.map Prod.snd).Pairwise (· < ·) := by
    rw [List.zipIdx_map_snd]
    exact List.pairwise_lt_range' 1
  rw [lineOwners, List.pairwise_flatMap]
  constructor
  · intro line _
    rw [List.pairwise_map]
    exact List.pairwise_of_forall fun _ _ => le_rfl
  · refine (List.pairwise_map.mp numbered).imp fun before => ?_
    intro first first_member second second_member
    obtain ⟨_, _, rfl⟩ := List.mem_map.mp first_member
    obtain ⟨_, _, rfl⟩ := List.mem_map.mp second_member
    exact Nat.le_of_lt before

theorem lineOwners_bound : ∀ owner ∈ lineOwners published, owner ≤ published.length := by
  intro owner member
  obtain ⟨line, numbered, inside⟩ := List.mem_flatMap.mp member
  obtain ⟨_, _, rfl⟩ := List.mem_map.mp inside
  have bound := (List.mem_zipIdx numbered).2.1
  omega

theorem owner_mono {i j : Nat} (earlier : i ≤ j) :
    (lineOwners published).getD i published.length ≤
      (lineOwners published).getD j published.length := by
  rcases Nat.lt_or_ge j (lineOwners published).length with inside | outside
  · rw [List.getD_eq_getElem _ _ (earlier.trans_lt inside), List.getD_eq_getElem _ _ inside]
    rcases Nat.eq_or_lt_of_le earlier with rfl | before
    · exact le_rfl
    · exact List.pairwise_iff_getElem.mp lineOwners_ordered i j _ inside before
  · rw [List.getD_eq_default _ _ outside]
    rcases Nat.lt_or_ge i (lineOwners published).length with first | none
    · rw [List.getD_eq_getElem _ _ first]
      exact lineOwners_bound _ (List.getElem_mem first)
    · rw [List.getD_eq_default _ _ none]

theorem callsOn_ordered (slots : List SubSlot) (s : Nat) (lines : List CStr) :
    InPublishOrder published (Delivery.callsOn slots s lines.zipIdx) := by
  have numbered : (lines.zipIdx.map Prod.snd).Pairwise (· < ·) := by
    rw [List.zipIdx_map_snd]
    exact List.pairwise_lt_range' 1
  rw [InPublishOrder, Delivery.callsOn, List.pairwise_filterMap]
  refine (List.pairwise_map.mp numbered).imp fun before => ?_
  intro first first_call second second_call
  obtain ⟨_, _, rfl⟩ := Option.map_eq_some_iff.mp first_call
  obtain ⟨_, _, rfl⟩ := Option.map_eq_some_iff.mp second_call
  exact owner_mono (Nat.le_of_lt before)

end Owners

section Runs

variable {slots : List SubSlot} {topic : CStr} {d : Delivery}

theorem callsOn_append (s : Nat) (front back : List (CStr × Nat)) :
    Delivery.callsOn slots s (front ++ back) =
      Delivery.callsOn slots s front ++ Delivery.callsOn slots s back :=
  List.filterMap_append

theorem callsOn_slot {s : Nat} {lines : List (CStr × Nat)} :
    ∀ call ∈ Delivery.callsOn slots s lines, call.slot = s := by
  intro call member
  obtain ⟨_, _, called⟩ := List.mem_filterMap.mp member
  obtain ⟨_, _, rfl⟩ := Option.map_eq_some_iff.mp called
  rfl

structure ConnAfter (slots : List SubSlot) (d : Delivery) (s : Nat) (received : CStr) : Prop where
  stream : received ++ (d.conns s).wire = d.published.flatten
  spun : SpinReceived received (blocks endsLine received) (d.conns s).rxbuf false
  handled : (d.conns s).handled = (blocks endsLine received).length
  calls : d.callsOf s = Delivery.callsOn slots s (blocks endsLine received).zipIdx

structure Delivery.WellFormed (slots : List SubSlot) (d : Delivery) : Prop where
  lines : ∀ line ∈ d.published, PublishedLine line
  conns : ∀ s, ∃ received, ConnAfter slots d s received

theorem start_wellFormed : Delivery.start.WellFormed slots where
  lines _ member := by cases member
  conns _ := ⟨[], rfl, .start, rfl, rfl⟩

theorem publish_wellFormed (before : d.WellFormed slots) {line : CStr} (ok : PublishedLine line) :
    (d.publish line).WellFormed slots where
  lines := by
    intro other member
    rcases List.mem_append.mp member with old | new
    · exact before.lines other old
    · rw [List.mem_singleton.mp new]
      exact ok
  conns s := by
    obtain ⟨received, stream, spun, handled, calls⟩ := before.conns s
    refine ⟨received, ?_, spun, handled, calls⟩
    change received ++ ((d.conns s).wire ++ line) = (d.published ++ [line]).flatten
    rw [← List.append_assoc, stream, List.flatten_append, List.flatten_singleton]

theorem read_self {s n : Nat} {received : CStr}
    (lines : ∀ line ∈ d.published, PublishedLine line) (after : ConnAfter slots d s received)
    (positive : 0 < n) (ready : n ≤ (d.conns s).wire.length) (fits : n ≤ rxRoom (d.conns s).rxbuf) :
    ConnAfter slots (d.read slots s n) s (received ++ (d.conns s).wire.take n) := by
  obtain ⟨stream, spun, handled, calls⟩ := after
  have length_eq : ((d.conns s).wire.take n).length = n := by
    rw [List.length_take]
    omega
  have nonempty : (d.conns s).wire.take n ≠ [] := by
    intro empty
    rw [empty] at length_eq
    exact absurd length_eq.symm positive.ne'
  have whole : received ++ (d.conns s).wire.take n ++ (d.conns s).wire.drop n =
      d.published.flatten := by rw [List.append_assoc, List.take_append_drop, stream]
  have fit := (linesFit_published lines).2
  rw [← whole] at fit
  have next := Received.recv spun nonempty (length_eq.trans_le fits)
  obtain ⟨more, goesOn, -⟩ := SpinReceived.lines next fit.left
  refine ⟨?_, ?_, ?_, ?_⟩
  · simpa [Delivery.read] using whole
  · rw [← more, ← goesOn]
    simpa [Delivery.read] using next
  · rw [← more]
    simp [Delivery.read, handled]
  · rw [← more, List.zipIdx_append, callsOn_append, ← calls]
    have own := List.filter_eq_self.mpr fun call member =>
      decide_eq_true (@callsOn_slot slots s
        ((receive handlesAll (d.conns s).rxbuf ((d.conns s).wire.take n)).1.zipIdx
          (d.conns s).handled) call member)
    rw [Delivery.callsOf, Delivery.read, List.filter_append, own, handled, Nat.zero_add]
    rfl

theorem read_other {s t n : Nat} {received : CStr} (other : s ≠ t)
    (after : ConnAfter slots d s received) : ConnAfter slots (d.read slots t n) s received := by
  obtain ⟨stream, spun, handled, calls⟩ := after
  have same : (d.read slots t n).conns s = d.conns s := Function.update_of_ne other _ _
  have silent : (Delivery.callsOn slots t
      ((receive handlesAll (d.conns t).rxbuf ((d.conns t).wire.take n)).1.zipIdx
        (d.conns t).handled)).filter (·.slot = s) = [] := by
    refine List.filter_eq_nil_iff.mpr fun call member => ?_
    rw [callsOn_slot call member]
    simp [other.symm]
  refine ⟨?_, ?_, ?_, ?_⟩
  · rw [same]
    exact stream
  · rw [same]
    exact spun
  · rw [same]
    exact handled
  · rw [← calls, Delivery.callsOf, Delivery.read, List.filter_append, silent, List.append_nil]
    rfl

theorem Delivers.wellFormed (run : Delivers slots topic d) : d.WellFormed slots := by
  induction run with
  | start => exact start_wellFormed
  | publish _ message stale ih => exact publish_wellFormed ih (publishedLine topic message stale)
  | read _ t n positive ready fits ih =>
      refine ⟨ih.lines, fun s => ?_⟩
      obtain ⟨received, after⟩ := ih.conns s
      by_cases self : s = t
      · subst self
        exact ⟨_, read_self ih.lines after positive ready fits⟩
      · exact ⟨received, read_other self after⟩

end Runs

/-- For each slot the callbacks that ran are the first of those that handling the
messages one by one calls for, and so in publish order. -/
theorem slot_calls_in_order (slots : List SubSlot) (topic : CStr) (d : Delivery)
    (run : Delivers slots topic d) (s : Nat) :
    d.callsOf s <+: expectedCalls slots s d.published ∧
      InPublishOrder d.published (d.callsOf s) := by
  obtain ⟨lines, conns⟩ := run.wellFormed
  obtain ⟨received, stream, -, -, calls⟩ := conns s
  have whole := (linesFit_published lines).1
  rw [← stream, blocks_append] at whole
  constructor
  · rw [calls, expectedCalls, ← whole, List.zipIdx_append, callsOn_append]
    exact List.prefix_append _ _
  · rw [calls]
    exact callsOn_ordered slots s _

/-- Two commands for a slot and one for the other, read in pieces that end inside a line. -/
theorem slot_calls_in_order_twoSlots :
    let slots := [⟨text ['t'], [], [], text ['d'], true, true⟩,
      ⟨text ['t'], [], [], text ['s'], true, true⟩]
    ∃ d, Delivers slots (text ['t']) d ∧ (d.callsOf 0).length = 1 ∧ (d.callsOf 1).length = 2 ∧
      ∀ s, d.callsOf s <+: expectedCalls slots s d.published ∧
        InPublishOrder d.published (d.callsOf s) := by
  intro slots
  have stop := Delivers.publish (@Delivers.start slots (text ['t']))
    ⟨none, none, some (text ['s']), some (text ['0'])⟩ []
  have duty := stop.publish ⟨none, none, some (text ['d']), some (text ['9'])⟩ []
  have first := duty.read 1 30 (by decide) (by decide) (by decide)
  have again := first.publish ⟨none, none, some (text ['s']), some (text ['1'])⟩ []
  have other := again.read 0 45 (by decide) (by decide) (by decide)
  have last := other.read 1 30 (by decide) (by decide) (by decide)
  exact ⟨_, last, by decide +kernel, by decide +kernel, slot_calls_in_order slots _ _ last⟩

/-- Two commands for two slots, and the later command's connection is read first. -/
theorem calls_across_slots : ¬ ∀ (slots : List SubSlot) (topic : CStr) (d : Delivery),
    (∀ slot ∈ slots, slot.topic = topic) → Delivers slots topic d →
      InPublishOrder d.published d.calls := by
  intro claim
  have duty := Delivers.publish (@Delivers.start
    [⟨text ['t'], [], [], text ['d'], true, true⟩, ⟨text ['t'], [], [], text ['s'], true, true⟩]
    (text ['t'])) ⟨none, none, some (text ['d']), some (text ['9'])⟩ []
  have stop := duty.publish ⟨none, none, some (text ['s']), some (text ['0'])⟩ []
  have second := stop.read 1 40 (by decide) (by decide) (by decide)
  have first := second.read 0 40 (by decide) (by decide) (by decide)
  have ordered := claim _ _ _ (by decide) first
  revert ordered
  decide +kernel

end Rs485Gateway
