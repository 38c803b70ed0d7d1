import Rs485Gateway.Cmos.Publish

/-! The publisher's side of the subscriber connections: `cmos_pub_poll` and the send
loop of `cmos_publish` over `sub_socks`. -/

namespace Rs485Gateway

def cmMaxSubClient : Nat := 256

/-- What a `send` on a non-blocking socket comes to: it takes some bytes, it reports
`EAGAIN`, or it fails. -/
inductive SendOutcome where
  | sent (n : Nat)
  | blocked
  | failed
  deriving DecidableEq

def SendOutcome.taken (line : CStr) : SendOutcome → CStr
  | sent n => line.take n
  | _ => []

abbrev Attempt := Nat × SendOutcome

structure Subscribers where
  subSocks : List Nat
  wire : Nat → CStr
  attempts : List Attempt

namespace Subscribers

/-- The `for` loop at index `i`; a round moves on by one or takes one socket out, so
`sub_count` bounds the rounds. -/
def sendLoop (line : CStr) (outcome : Nat → SendOutcome) : Nat → Nat → Subscribers → Subscribers
  | 0, _, subs => subs
  | rounds + 1, i, subs =>
      match subs.subSocks[i]? with
      | none => subs
      | some sock =>
          let n := outcome rounds
          let subs := { subs with
            wire := Function.update subs.wire sock (subs.wire sock ++ n.taken line)
            attempts := subs.attempts ++ [(sock, n)] }
          match n with
          | .sent _ => sendLoop line outcome rounds (i + 1) subs
          | .blocked => sendLoop line outcome rounds (i + 1) subs
          | .failed =>
              sendLoop line outcome rounds i { subs with subSocks := subs.subSocks.eraseIdx i }

end Subscribers

structure Round where
  line : CStr
  connected : List Nat
  attempts : List Attempt

structure Publisher where
  subSocks : List Nat
  accepted : Nat
  wire : Nat → CStr
  rounds : List Round

namespace Publisher

def start : Publisher := ⟨[], 0, fun _ => [], []⟩

def cmosPubPoll (p : Publisher) : Publisher :=
  if p.subSocks.length < cmMaxSubClient then
    { p with subSocks := p.subSocks ++ [p.accepted], accepted := p.accepted + 1 }
  else p

def cmosPublish (p : Publisher) (line : CStr) (outcome : Nat → SendOutcome) : Publisher :=
  let subs := Subscribers.sendLoop line outcome p.subSocks.length 0 ⟨p.subSocks, p.wire, []⟩
  { subSocks := subs.subSocks
    accepted := p.accepted
    wire := subs.wire
    rounds := p.rounds ++ [⟨line, p.subSocks, subs.attempts⟩] }

end Publisher

def SendOutcome.Possible (line : CStr) : SendOutcome → Prop
  | sent n => 0 < n ∧ n ≤ line.length
  | _ => True

/-- Connections and publishing in any order; `allowed` narrows what a send may do. -/
inductive Broadcasts (topic : CStr) (allowed : CStr → SendOutcome → Prop) : Publisher → Prop
  | start : Broadcasts topic allowed .start
  | poll {p : Publisher} (before : Broadcasts topic allowed p) :
      Broadcasts topic allowed p.cmosPubPoll
  | publish {p : Publisher} (before : Broadcasts topic allowed p) (message : Message)
      (stale : CStr) (outcome : Nat → SendOutcome)
      (possible : ∀ k, (outcome k).Possible (publishLine (keptTopic topic) (message.data stale)))
      (narrowed : ∀ k, allowed (publishLine (keptTopic topic) (message.data stale)) (outcome k)) :
      Broadcasts topic allowed
        (p.cmosPublish (publishLine (keptTopic topic) (message.data stale)) outcome)

def SendsWhole (line : CStr) (outcome : SendOutcome) : Prop :=
  ∀ n, outcome = .sent n → n = line.length

def Round.delivers (round : Round) (sock : Nat) : Bool :=
  round.attempts.contains (sock, .sent round.line.length)

structure StreamsWhole (topic : CStr) (p : Publisher) : Prop where
  lines : ∀ round ∈ p.rounds, ∃ data, round.line =
    text ['M', 'S', 'G', ' '] ++ keptTopic topic ++ [space] ++ data ++ [lf]
  wire : ∀ sock, p.wire sock =
    ((p.rounds.filter fun round => round.delivers sock).map Round.line).flatten
  attempts : ∀ round ∈ p.rounds, round.attempts.map Prod.fst = round.connected
  once : ∀ round ∈ p.rounds, round.connected.Nodup
  reasons : ∀ round ∈ p.rounds, ∀ sock ∈ round.connected, round.delivers sock = true ∨
    (sock, .blocked) ∈ round.attempts ∨ (sock, .failed) ∈ round.attempts ∧ sock ∉ p.subSocks
  removed : ∀ sock < p.accepted, sock ∈ p.subSocks ∨
    ∃ round ∈ p.rounds, (sock, .failed) ∈ round.attempts

section Loop

variable {line : CStr} {outcome : Nat → SendOutcome}

def tries (outcome : Nat → SendOutcome) : List Nat → List Attempt
  | [] => []
  | sock :: rest => (sock, outcome rest.length) :: tries outcome rest

def survivors (attempts : List Attempt) : List Nat :=
  (attempts.filter fun attempt => attempt.2 ≠ .failed).map Prod.fst

def written (line : CStr) (wire : Nat → CStr) (attempts : List Attempt) : Nat → CStr :=
  attempts.foldl (fun wire attempt =>
    Function.update wire attempt.1 (wire attempt.1 ++ attempt.2.taken line)) wire

theorem sendLoop_tries (rest kept : List Nat) (wire : Nat → CStr) (log : List Attempt) :
    Subscribers.sendLoop line outcome rest.length kept.length ⟨kept ++ rest, wire, log⟩ =
      ⟨kept ++ survivors (tries outcome rest), written line wire (tries outcome rest),
        log ++ tries outcome rest⟩ := by
  induction rest generalizing kept wire log with
  | nil => simp [Subscribers.sendLoop, tries, survivors, written]
  | cons sock rest ih =>
      have here : (kept ++ sock :: rest)[kept.length]? = some sock := by simp
      have gone : (kept ++ sock :: rest).eraseIdx kept.length = kept ++ rest := by
        rw [List.eraseIdx_append_of_length_le le_rfl, Nat.sub_self, List.eraseIdx_cons_zero]
      have next := ih (kept ++ [sock])
      simp only [List.length_append, List.length_singleton, List.append_assoc,
        List.singleton_append] at next
      rw [List.length_cons, Subscribers.sendLoop]
      simp only [here]
      cases tried : outcome rest.length with
      | sent n => simp [next, tries, tried, survivors, written]
      | blocked => simp [next, tries, tried, survivors, written]
      | failed => simp [gone, ih, tries, tried, survivors, written]

theorem tries_sockets (socks : List Nat) : (tries outcome socks).map Prod.fst = socks := by
  induction socks with
  | nil => rfl
  | cons sock rest ih => rw [tries, List.map_cons, ih]

theorem mem_tries {socks : List Nat} {attempt : Attempt} (member : attempt ∈ tries outcome socks) :
    ∃ k, attempt.2 = outcome k := by
  induction socks with
  | nil => cases member
  | cons sock rest ih =>
      rcases List.mem_cons.mp member with rfl | later
      · exact ⟨_, rfl⟩
      · exact ih later

theorem written_eq (wire : Nat → CStr) (attempts : List Attempt) (sock : Nat) :
    written line wire attempts sock =
      wire sock ++ (attempts.filter (·.1 = sock)).flatMap (·.2.taken line) := by
  induction attempts generalizing wire with
  | nil => simp [written]
  | cons attempt rest ih =>
      have later := ih (Function.update wire attempt.1 (wire attempt.1 ++ attempt.2.taken line))
      rw [written, List.foldl_cons]
      refine later.trans ?_
      by_cases own : attempt.1 = sock
      · subst own
        simp
      · simp [own, Function.update_of_ne (Ne.symm own)]

theorem survivors_sublist (socks : List Nat) :
    (survivors (tries outcome socks)).Sublist socks := by
  have whole := (List.filter_sublist (l := tries outcome socks)
    (p := fun attempt => attempt.2 ≠ .failed)).map Prod.fst
  rwa [tries_sockets] at whole

theorem survives_or_failed {socks : List Nat} {sock : Nat} (member : sock ∈ socks) :
    sock ∈ survivors (tries outcome socks) ∨ (sock, .failed) ∈ tries outcome socks := by
  rw [← @tries_sockets outcome socks] at member
  obtain ⟨⟨_, n⟩, tried, rfl⟩ := List.mem_map.mp member
  by_cases failed : n = .failed
  · subst failed
    exact .inr tried
  · exact .inl (List.mem_map.mpr ⟨_, List.mem_filter.mpr ⟨tried, by simpa using failed⟩, rfl⟩)

theorem tries_unique {socks : List Nat} (nodup : socks.Nodup) {sock : Nat} {n m : SendOutcome}
    (first : (sock, n) ∈ tries outcome socks) (second : (sock, m) ∈ tries outcome socks) :
    n = m := by
  have keys : ((tries outcome socks).map Prod.fst).Nodup := by rwa [tries_sockets]
  exact congrArg Prod.snd (List.inj_on_of_nodup_map keys first second rfl)

theorem failed_gone {socks : List Nat} (nodup : socks.Nodup) {sock : Nat}
    (failed : (sock, .failed) ∈ tries outcome socks) :
    sock ∉ survivors (tries outcome socks) := by
  intro survived
  obtain ⟨⟨_, n⟩, kept, rfl⟩ := List.mem_map.mp survived
  obtain ⟨tried, notFailed⟩ := List.mem_filter.mp kept
  rw [tries_unique nodup tried failed] at notFailed
  simp at notFailed

theorem tries_taken {socks : List Nat} (nodup : socks.Nodup)
    (whole : ∀ k, SendsWhole line (outcome k)) (connected : List Nat) (sock : Nat) :
    ((tries outcome socks).filter (·.1 = sock)).flatMap (·.2.taken line) =
      if Round.delivers ⟨line, connected, tries outcome socks⟩ sock then line else [] := by
  induction socks with
  | nil => rfl
  | cons first rest ih =>
      obtain ⟨fresh, later⟩ := List.nodup_cons.mp nodup
      have same := ih later
      by_cases own : first = sock
      · subst own
        have untried : (tries outcome rest).filter (·.1 = first) = [] := by
          refine List.filter_eq_nil_iff.mpr fun attempt member => ?_
          have inside := List.mem_map_of_mem (f := Prod.fst) member
          rw [tries_sockets] at inside
          intro same
          rw [of_decide_eq_true same] at inside
          exact fresh inside
        have absent : (first, SendOutcome.sent line.length) ∉ tries outcome rest := by
          intro member
          have inside := List.mem_map_of_mem (f := Prod.fst) member
          rw [tries_sockets] at inside
          exact fresh inside
        cases tried : outcome rest.length with
        | sent n =>
            obtain rfl := whole _ n tried
            simp [tries, tried, untried, Round.delivers, SendOutcome.taken]
        | blocked => simp [tries, tried, untried, Round.delivers, SendOutcome.taken, absent]
        | failed => simp [tries, tried, untried, Round.delivers, SendOutcome.taken, absent]
      · have other : (sock, SendOutcome.sent line.length) ≠ (first, outcome rest.length) := by
          intro eq
          exact own (congrArg Prod.fst eq).symm
        simp only [Round.delivers, List.contains_eq_mem, decide_eq_true_eq] at same
        simp [tries, own, same, Round.delivers, Ne.symm own]

end Loop

section Runs

variable {topic : CStr} {p : Publisher}

structure Publisher.WellFormed (topic : CStr) (p : Publisher) : Prop where
  nodup : p.subSocks.Nodup
  known : ∀ sock ∈ p.subSocks, sock < p.accepted
  past : ∀ round ∈ p.rounds, ∀ sock ∈ round.connected, sock < p.accepted
  whole : StreamsWhole topic p

theorem publisher_start : Publisher.start.WellFormed topic where
  nodup := List.nodup_nil
  known _ member := by cases member
  past _ member := by cases member
  whole := {
    lines _ member := by cases member
    wire _ := rfl
    attempts _ member := by cases member
    once _ member := by cases member
    reasons _ member := by cases member
    removed _ below := by cases below }

theorem publisher_poll (before : p.WellFormed topic) : p.cmosPubPoll.WellFormed topic := by
  obtain ⟨nodup, known, past, lines, wire, attempts, once, reasons, removed⟩ := before
  rw [Publisher.cmosPubPoll]
  split
  · have fresh : p.accepted ∉ p.subSocks := fun member => (known _ member).false
    refine ⟨?_, ?_, ?_, lines, wire, attempts, once, ?_, ?_⟩
    · exact List.nodup_append.mpr ⟨nodup, List.nodup_singleton _, by
        intro sock member other new
        rw [List.mem_singleton.mp new]
        exact fun same => fresh (same ▸ member)⟩
    · intro sock member
      rcases List.mem_append.mp member with old | new
      · exact Nat.lt_succ_of_lt (known sock old)
      · rw [List.mem_singleton.mp new]
        exact Nat.lt_succ_self _
    · exact fun round member sock inside => Nat.lt_succ_of_lt (past round member sock inside)
    · intro round member sock inside
      rcases reasons round member sock inside with delivered | blocked | ⟨failed, gone⟩
      · exact .inl delivered
      · exact .inr (.inl blocked)
      · refine .inr (.inr ⟨failed, fun back => ?_⟩)
        rcases List.mem_append.mp back with old | new
        · exact gone old
        · exact (past round member sock inside).ne (List.mem_singleton.mp new)
    · intro sock below
      rcases Nat.lt_succ_iff_lt_or_eq.mp below with old | rfl
      · exact (removed sock old).imp_left fun member => List.mem_append_left _ member
      · exact .inl (List.mem_append_right _ List.mem_cons_self)
  · exact ⟨nodup, known, past, lines, wire, attempts, once, reasons, removed⟩

theorem cmosPublish_eq (p : Publisher) (line : CStr) (outcome : Nat → SendOutcome) :
    p.cmosPublish line outcome =
      { subSocks := survivors (tries outcome p.subSocks)
        accepted := p.accepted
        wire := written line p.wire (tries outcome p.subSocks)
        rounds := p.rounds ++ [⟨line, p.subSocks, tries outcome p.subSocks⟩] } := by
  have loop := @sendLoop_tries line outcome p.subSocks [] p.wire []
  simp only [List.length_nil, List.nil_append] at loop
  rw [Publisher.cmosPublish, loop]

theorem new_reasons (nodup : p.subSocks.Nodup) {line : CStr} {outcome : Nat → SendOutcome}
    (whole : ∀ k, SendsWhole line (outcome k)) {sock : Nat} (inside : sock ∈ p.subSocks) :
    Round.delivers ⟨line, p.subSocks, tries outcome p.subSocks⟩ sock = true ∨
      (sock, .blocked) ∈ tries outcome p.subSocks ∨
        (sock, .failed) ∈ tries outcome p.subSocks ∧
          sock ∉ survivors (tries outcome p.subSocks) := by
  rw [← @tries_sockets outcome p.subSocks] at inside
  obtain ⟨⟨sock, n⟩, tried, rfl⟩ := List.mem_map.mp inside
  obtain ⟨k, same⟩ := mem_tries tried
  cases n with
  | sent n =>
      obtain rfl := whole k n same.symm
      exact .inl (List.contains_iff_mem.mpr tried)
  | blocked => exact .inr (.inl tried)
  | failed => exact .inr (.inr ⟨tried, failed_gone nodup tried⟩)

theorem publisher_publish (before : p.WellFormed topic) {line data : CStr}
    {outcome : Nat → SendOutcome} (whole : ∀ k, SendsWhole line (outcome k))
    (line_eq : line = text ['M', 'S', 'G', ' '] ++ keptTopic topic ++ [space] ++ data ++ [lf]) :
    (p.cmosPublish line outcome).WellFormed topic := by
  obtain ⟨nodup, known, past, lines, wire, attempts, once, reasons, removed⟩ := before
  have kept := @survivors_sublist outcome p.subSocks
  rw [cmosPublish_eq]
  refine ⟨kept.nodup nodup, fun sock member => known sock (kept.subset member), ?_, ?_, ?_, ?_, ?_,
    ?_, ?_⟩
  · exact List.forall_mem_append.mpr ⟨past, List.forall_mem_singleton.mpr known⟩
  · exact List.forall_mem_append.mpr ⟨lines, List.forall_mem_singleton.mpr ⟨data, line_eq⟩⟩
  · intro sock
    have taken := tries_taken nodup whole p.subSocks sock
    simp only [written_eq, wire sock, taken, List.filter_append, List.map_append,
      List.flatten_append]
    congr 1
    cases delivered : Round.delivers ⟨line, p.subSocks, tries outcome p.subSocks⟩ sock with
    | false => rw [List.filter_singleton, delivered]; rfl
    | true => rw [List.filter_singleton, delivered]; simp
  · exact List.forall_mem_append.mpr
      ⟨attempts, List.forall_mem_singleton.mpr (tries_sockets p.subSocks)⟩
  · exact List.forall_mem_append.mpr ⟨once, List.forall_mem_singleton.mpr nodup⟩
  · refine List.forall_mem_append.mpr ⟨?_, List.forall_mem_singleton.mpr ?_⟩
    · intro round member sock inside
      rcases reasons round member sock inside with delivered | blocked | ⟨failed, gone⟩
      · exact .inl delivered
      · exact .inr (.inl blocked)
      · exact .inr (.inr ⟨failed, fun back => gone (kept.subset back)⟩)
    · exact fun sock inside => new_reasons nodup whole inside
  · intro sock below
    rcases removed sock below with member | ⟨round, old, failed⟩
    · rcases survives_or_failed member with survived | failed
      · exact .inl survived
      · exact .inr ⟨_, List.mem_append_right _ List.mem_cons_self, failed⟩
    · exact .inr ⟨round, List.mem_append_left _ old, failed⟩

theorem Broadcasts.wellFormed (run : Broadcasts topic SendsWhole p) : p.WellFormed topic := by
  induction run with
  | start => exact publisher_start
  | poll _ ih => exact publisher_poll ih
  | publish _ message stale outcome _ whole ih =>
      exact publisher_publish ih whole (publishLine_eq topic _ (message.data_length_le stale))

end Runs

/-- In every run whose sends take whole lines, every subscriber's stream is whole lines
in publish order, and a line is missed only for a reason. -/
theorem broadcasts_whole (topic : CStr) (p : Publisher) (run : Broadcasts topic SendsWhole p) :
    StreamsWhole topic p :=
  run.wellFormed.whole

def someMessage : Message := ⟨none, none, some (text ['k']), some (text ['1'])⟩

theorem broadcasts_whole_blocked : ∃ p, Broadcasts (text ['t']) SendsWhole p ∧
    p.wire 0 = publishLine (keptTopic (text ['t'])) (someMessage.data []) ∧
      StreamsWhole (text ['t']) p := by
  have joined := (@Broadcasts.start (text ['t']) SendsWhole).poll
  have first := joined.publish someMessage [] (fun _ => .sent 20) (fun _ => ⟨by decide, by decide⟩)
    (by
      intro _ n same
      cases same
      decide)
  have second := first.publish someMessage [] (fun _ => .blocked) (fun _ => trivial)
    (fun _ _ same => by cases same)
  exact ⟨_, second, by decide +kernel, broadcasts_whole _ _ second⟩

def someLine : CStr := publishLine (keptTopic (text ['t'])) (someMessage.data [])

def tornPublisher : Publisher :=
  (Publisher.start.cmosPubPoll.cmosPublish someLine fun _ => .sent 5).cmosPublish someLine
    fun _ => .sent 20

/-- A partial send counts as a success, and the next line goes right behind it. -/
theorem broadcast_torn : ¬ ∀ (topic : CStr) (p : Publisher),
    Broadcasts topic (fun _ _ => True) p →
      ∀ sock, ∃ lines : List CStr,
        lines.Sublist (p.rounds.map Round.line) ∧ p.wire sock = lines.flatten := by
  intro claim
  have joined := (@Broadcasts.start (text ['t']) fun _ _ => True).poll
  have torn := joined.publish someMessage [] (fun _ => .sent 5) (fun _ => ⟨by decide, by decide⟩)
    (fun _ => trivial)
  have next : Broadcasts (text ['t']) (fun _ _ => True) tornPublisher :=
    torn.publish someMessage [] (fun _ => .sent 20) (fun _ => ⟨by decide, by decide⟩)
      (fun _ => trivial)
  obtain ⟨lines, kept, stream⟩ := claim _ _ next 0
  have absent : ∀ lines ∈ (tornPublisher.rounds.map Round.line).sublists,
      tornPublisher.wire 0 ≠ lines.flatten := by decide +kernel
  exact absent lines (List.mem_sublists.mpr kept) stream

end Rs485Gateway
