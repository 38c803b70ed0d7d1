import Rs485Gateway.Modbus.Agreement

namespace Rs485Gateway

def fc03Answer (unitId : UInt8) (tid : UInt16) (values : List UInt16) : Bytes :=
  tcpAdu tid unitId
    ([modbusFuncReadHoldingRegisters, UInt8.ofNat (2 * values.length)] ++ bigEndian values)

/-- One read: its arguments, what `send` returns, the registers the server answers if the
request reaches it, what each `recv` comes to, and what is in the response buffer. -/
structure ReadCall where
  addr : UInt16
  qty : UInt16
  send : Bytes → Int
  answer : Option (List UInt16)
  fits : ∀ values ∈ answer, values.length ≤ modbusMaxReadRegisters
  outcome : Nat → RecvOutcome
  stale : Bytes

structure TcpLink where
  tid : UInt16
  stream : Bytes

def ReadCall.request (unitId : UInt8) (link : TcpLink) (call : ReadCall) : Bytes :=
  buildFc03Request (nextTid link.tid) unitId call.addr call.qty

/-- The server answers what it is asked; a call with a bad quantity asks nothing. -/
def ReadCall.reply (unitId : UInt8) (link : TcpLink) (call : ReadCall) : Bytes :=
  if call.qty = 0 ∨ call.qty.toNat > modbusMaxReadRegisters then []
  else (call.answer.map (fc03Answer unitId (nextTid link.tid))).getD []

def ReadCall.socket (unitId : UInt8) (link : TcpLink) (call : ReadCall) : TcpSocket :=
  ⟨call.send, call.outcome, link.stream ++ call.reply unitId link⟩

def ReadCall.perform (unitId : UInt8) (link : TcpLink) (call : ReadCall) : TcpCall :=
  mbTcpClientReadHoldingRegisters ⟨true, unitId, link.tid⟩ call.addr call.qty
    (call.socket unitId link) call.stale

def TcpCall.link (done : TcpCall) : TcpLink := ⟨done.tid, done.rest⟩

def readCalls (unitId : UInt8) : TcpLink → List ReadCall → List TcpCall
  | _, [] => []
  | link, call :: rest =>
      call.perform unitId link :: readCalls unitId (call.perform unitId link).link rest

/-- What the first `k` receives bring of an ADU of `total` bytes. -/
def receivedBefore (outcome : Nat → RecvOutcome) (total : Nat) : Nat → Nat
  | 0 => 0
  | k + 1 =>
      let received := receivedBefore outcome total k
      match outcome k with
      | .data n =>
          received + min (max 1 n)
            (if received < modbusTcpMbapHeaderLen then modbusTcpMbapHeaderLen - received
            else total - received)
      | _ => received

/-- The first receive that brings nothing falls inside an ADU. -/
def Torn (outcome : Nat → RecvOutcome) (total : Nat) : Prop :=
  ∃ k, (∀ j < k, ∃ n, outcome j = .data n) ∧ (∀ n, outcome k ≠ .data n) ∧
    0 < receivedBefore outcome total k ∧ receivedBefore outcome total k < total

/-- The call gives up on the oldest unread answer when it has received a part of it. -/
structure ReadCall.LosesSync (unitId : UInt8) (link : TcpLink) (call : ReadCall) : Prop where
  accepted : call.qty ≠ 0 ∧ call.qty.toNat ≤ modbusMaxReadRegisters
  sent : call.send (call.request unitId link) = (call.request unitId link).length
  unread : (call.socket unitId link).incoming ≠ []
  torn : Torn call.outcome
    (modbusTcpMbapHeaderLen + mbapRemaining (call.socket unitId link).incoming)

def InSync (unitId : UInt8) : TcpLink → List ReadCall → Prop
  | _, [] => True
  | link, call :: rest =>
      ¬ call.LosesSync unitId link ∧ InSync unitId (call.perform unitId link).link rest

/-- A success has the registers of the server's answer to this very request. -/
def OwnAnswer (call : ReadCall) (done : TcpCall) : Prop :=
  done.result = mbTcpClientOk → ∃ values, call.answer = some values ∧ done.out = some values

section Turns

def turn (tid : UInt16) : Nat := (tid.toNat + 65534) % 65535

theorem turn_next (tid : UInt16) : turn (nextTid tid) = (turn tid + 1) % 65535 := by
  have bound := tid.toNat_lt
  rw [nextTid]
  split
  · rename_i below
    have under : tid.toNat < 65535 := UInt16.lt_iff_toNat_lt.mp below
    simp only [turn, UInt16.toNat_add, UInt16.toNat_one]
    omega
  · rename_i last
    have top : ¬ tid.toNat < 65535 := fun under => last (UInt16.lt_iff_toNat_lt.mpr under)
    simp only [turn, UInt16.toNat_one]
    omega

def Behind (n : Nat) (tid old : UInt16) : Prop :=
  ∃ age < n, (turn old + age) % 65535 = turn tid

variable {n : Nat} {tid old : UInt16}

theorem turn_lt (tid : UInt16) : turn tid < 65535 := Nat.mod_lt _ (by decide)

theorem behind_self (positive : 0 < n) (tid : UInt16) : Behind n tid tid := by
  refine ⟨0, positive, ?_⟩
  rw [Nat.add_zero, Nat.mod_eq_of_lt (turn_lt tid)]

theorem Behind.later (behind : Behind n tid old) : Behind (n + 1) tid old := by
  obtain ⟨age, few, here⟩ := behind
  exact ⟨age, Nat.lt_succ_of_lt few, here⟩

theorem Behind.next (behind : Behind n tid old) : Behind (n + 1) (nextTid tid) old := by
  obtain ⟨age, few, here⟩ := behind
  refine ⟨age + 1, Nat.succ_lt_succ few, ?_⟩
  rw [turn_next]
  omega

/-- Within one cycle no transaction id comes back. -/
theorem Behind.ne_next (behind : Behind n tid old) (few : n < 65535) : old ≠ nextTid tid := by
  obtain ⟨age, young, here⟩ := behind
  intro same
  have there := turn_next tid
  have bound := turn_lt old
  rw [← same] at there
  omega

end Turns

section Receive

variable {outcome : Nat → RecvOutcome} {total : Nat}

theorem receivedBefore_data {k n : Nat} (brings : outcome k = .data n) :
    receivedBefore outcome total (k + 1) = receivedBefore outcome total k +
      min (max 1 n) (if receivedBefore outcome total k < modbusTcpMbapHeaderLen then
        modbusTcpMbapHeaderLen - receivedBefore outcome total k
      else total - receivedBefore outcome total k) := by
  rw [receivedBefore]
  simp only [brings]

theorem recvLoop_stage {limit : Nat} (rounds len k : Nat) (incoming : Bytes)
    (enough : len ≤ rounds) (there : len ≤ incoming.length)
    (due : receivedBefore outcome total k + len = limit)
    (stage : limit = modbusTcpMbapHeaderLen ∨
      limit = total ∧ modbusTcpMbapHeaderLen ≤ receivedBefore outcome total k)
    (before : ∀ j < k, ∃ n, outcome j = .data n) :
    let ended := recvLoop outcome rounds len k incoming
    (ended.rc = 0 ∧ receivedBefore outcome total ended.next = limit ∧
        ∀ j < ended.next, ∃ n, outcome j = .data n) ∨
      ended.rc ≠ 0 ∧ ∃ stop, (∀ j < stop, ∃ n, outcome j = .data n) ∧
        (∀ n, outcome stop ≠ .data n) ∧
          receivedBefore outcome total stop =
            receivedBefore outcome total k + ended.got.length ∧
          ended.got.length < len := by
  induction rounds generalizing len k incoming with
  | zero =>
      obtain rfl : len = 0 := Nat.le_zero.mp enough
      exact .inl ⟨rfl, due, before⟩
  | succ rounds ih =>
      rw [recvLoop]
      split
      · rename_i done
        rw [done, Nat.add_zero] at due
        exact .inl ⟨rfl, due, before⟩
      · rename_i wanted
        split
        · rename_i silent
          refine .inr ⟨by simp, k, before, ?_, rfl, Nat.pos_of_ne_zero wanted⟩
          simp [silent]
        · rename_i broken
          refine .inr ⟨by simp, k, before, ?_, rfl, Nat.pos_of_ne_zero wanted⟩
          simp [broken]
        · rename_i n here
          have nonempty : incoming ≠ [] := by
            intro empty
            rw [empty, List.length_nil] at there
            exact wanted (Nat.le_zero.mp there)
          have size : (incoming.take (min (max 1 n) len)).length = min (max 1 n) len := by
            rw [List.length_take]
            omega
          have grows : receivedBefore outcome total (k + 1) =
              receivedBefore outcome total k + min (max 1 n) len := by
            have asked : (if receivedBefore outcome total k < modbusTcpMbapHeaderLen then
                modbusTcpMbapHeaderLen - receivedBefore outcome total k
                else total - receivedBefore outcome total k) = len := by
              split <;> omega
            rw [receivedBefore_data here, asked]
          simp only [if_neg nonempty, size]
          have later := ih (len - min (max 1 n) len) (k + 1)
            (incoming.drop (min (max 1 n) len)) (by omega)
            (by rw [List.length_drop]; omega) (by omega)
            (stage.imp_right fun body => ⟨body.1, by omega⟩) (by
              intro j first
              rcases Nat.lt_or_ge j k with earlier | last
              · exact before j earlier
              · obtain rfl : j = k := by omega
                exact ⟨n, here⟩)
          refine later.imp_right ?_
          rintro ⟨failed, stop, front, silent, length_eq, short⟩
          refine ⟨failed, stop, front, silent, ?_, ?_⟩
          · rw [length_eq, grows, List.length_append, size, Nat.add_assoc]
          · rw [List.length_append, size]
            omega

variable {socket : TcpSocket} {bufCap : Nat}

theorem recvResponse_untorn
    (fits : mbapRemaining socket.incoming ≤ bufCap - modbusTcpMbapHeaderLen)
    (counted : mbapRemaining socket.incoming ≠ 0)
    (there : modbusTcpMbapHeaderLen + mbapRemaining socket.incoming ≤ socket.incoming.length)
    (untorn : ¬ Torn socket.outcome (modbusTcpMbapHeaderLen + mbapRemaining socket.incoming)) :
    (recvResponse socket bufCap).rc = 0 ∨
      (recvResponse socket bufCap).rc ≠ 0 ∧
        (recvResponse socket bufCap).rest = socket.incoming := by
  have headerSome : 0 < modbusTcpMbapHeaderLen := by decide
  rcases recvLoop_stage modbusTcpMbapHeaderLen modbusTcpMbapHeaderLen 0 socket.incoming le_rfl
    (by omega) (Nat.zero_add _) (.inl rfl) (fun j first => absurd first (Nat.not_lt_zero j)) with
    ⟨ok, received, front⟩ | ⟨failed, stop, front, silent, received, short⟩
  · obtain ⟨-, headerGot, headerRest⟩ := recvExact_ok ok
    have body := recvLoop_stage (mbapRemaining socket.incoming) (mbapRemaining socket.incoming) _
      (socket.incoming.drop modbusTcpMbapHeaderLen) le_rfl
      (by rw [List.length_drop]; omega) (by rw [received]) (.inr ⟨rfl, received.ge⟩) front
    have header : ¬ (recvExact socket.outcome modbusTcpMbapHeaderLen 0 socket.incoming).rc ≠ 0 :=
      not_not.mpr ok
    rw [recvResponse, if_neg header]
    simp only [headerGot, headerRest, mbapRemaining_take]
    rw [if_neg (by omega)]
    rcases body with ⟨whole, -, -⟩ | ⟨failed, stop, stopFront, silent, partly, short⟩
    · exact .inl whole
    · rw [received] at partly
      exact absurd ⟨stop, stopFront, silent, by omega, by omega⟩ untorn
  · rw [receivedBefore, Nat.zero_add] at received
    have nothing :
        (recvExact socket.outcome modbusTcpMbapHeaderLen 0 socket.incoming).got = [] := by
      by_contra counted
      have pos := List.length_pos_iff.mpr counted
      exact untorn ⟨stop, front, silent, received ▸ pos, received ▸ Nat.lt_add_right _ short⟩
    have whole := (@recvLoop_splits socket.outcome modbusTcpMbapHeaderLen
      modbusTcpMbapHeaderLen 0 socket.incoming le_rfl).1
    rw [recvResponse, if_pos (show (recvExact _ _ _ _).rc ≠ 0 from failed)]
    refine .inr ⟨failed, ?_⟩
    rw [recvExact] at nothing
    rwa [nothing, List.nil_append] at whole

theorem recvResponse_nothing (empty : socket.incoming = []) :
    (recvResponse socket bufCap).rc ≠ 0 ∧ (recvResponse socket bufCap).rest = [] := by
  have failed : (recvExact socket.outcome modbusTcpMbapHeaderLen 0 socket.incoming).rc ≠ 0 := by
    intro ok
    have there := (recvExact_ok ok).1
    rw [empty] at there
    exact absurd there (by decide)
  have whole := (@recvLoop_splits socket.outcome modbusTcpMbapHeaderLen
    modbusTcpMbapHeaderLen 0 socket.incoming le_rfl).1
  rw [recvResponse, if_pos failed]
  refine ⟨failed, ?_⟩
  rw [empty] at whole ⊢
  exact (List.append_eq_nil_iff.mp whole).2

end Receive

section Answers

variable {unitId : UInt8} {tid : UInt16} {values : List UInt16}

theorem fc03Answer_pdu_length (few : values.length ≤ modbusMaxReadRegisters) :
    ([modbusFuncReadHoldingRegisters, UInt8.ofNat (2 * values.length)] ++
      bigEndian values).length ≤ 252 := by
  simp only [modbusMaxReadRegisters] at few
  simp only [List.length_append, List.length_cons, List.length_nil, bigEndian_length]
  omega

theorem mbapRemaining_answer (few : values.length ≤ modbusMaxReadRegisters) (rest : Bytes) :
    modbusTcpMbapHeaderLen + mbapRemaining (fc03Answer unitId tid values ++ rest) =
      (fc03Answer unitId tid values).length := by
  have size := fc03Answer_pdu_length few
  rw [fc03Answer, mbapRemaining_adu (size.trans (by decide)), tcpAdu_length]

theorem fc03Answer_tid (stale : Bytes) :
    word ((fc03Answer unitId tid values ++ stale).getD 0 0)
      ((fc03Answer unitId tid values ++ stale).getD 1 0) = tid := by
  simp [fc03Answer, tcpAdu, mbapHeader, word_hi_lo]

theorem fc03Answer_long :
    ¬ (fc03Answer unitId tid values).length < fc03ResponseHeaderLen := by
  rw [fc03Answer, tcpAdu_length]
  simp only [List.length_append, List.length_cons, modbusTcpMbapHeaderLen, fc03ResponseHeaderLen]
  omega

theorem byteCount_iff {qty : UInt16} (few : values.length ≤ modbusMaxReadRegisters)
    (fewAsked : qty.toNat ≤ modbusMaxReadRegisters) :
    UInt8.ofNat (2 * values.length) = (qty * 2).toUInt8 ↔ values.length = qty.toNat := by
  simp only [modbusMaxReadRegisters] at few fewAsked
  rw [← UInt8.toNat_inj]
  simp only [UInt8.toNat_ofNat', UInt16.toNat_toUInt8, UInt16.toNat_mul, UInt16.toNat_ofNat]
  omega

theorem judgeRead_answer {expected qty : UInt16} (few : values.length ≤ modbusMaxReadRegisters)
    (fewAsked : qty.toNat ≤ modbusMaxReadRegisters) (stale : Bytes)
    (ok : (judgeReadResponse expected qty (fc03Answer unitId tid values ++ stale)
      (fc03Answer unitId tid values).length).1 = mbTcpClientOk) :
    tid = expected ∧
      (judgeReadResponse expected qty (fc03Answer unitId tid values ++ stale)
        (fc03Answer unitId tid values).length).2 = some values := by
  have frameCode : mbTcpClientErrFrame ≠ mbTcpClientOk := by decide
  have tidCode : mbTcpClientErrTid ≠ mbTcpClientOk := by decide
  have plain : modbusFuncReadHoldingRegisters &&& modbusExceptionFlag = 0 := by decide
  have fc : (fc03Answer unitId tid values ++ stale).getD 7 0 = modbusFuncReadHoldingRegisters := rfl
  have count : (fc03Answer unitId tid values ++ stale).getD 8 0 =
      UInt8.ofNat (2 * values.length) := rfl
  have own : tid = expected := by
    by_contra other
    rw [judgeReadResponse, fc03Answer_tid, if_pos other] at ok
    exact tidCode ok
  have same : UInt8.ofNat (2 * values.length) = (qty * 2).toUInt8 := by
    by_contra other
    rw [judgeReadResponse, fc03Answer_tid, if_neg (not_not.mpr own)] at ok
    simp only [fc, count, plain, fc03Answer_long, other, ne_eq, not_true_eq_false,
      not_false_eq_true, if_false, if_true] at ok
    exact frameCode ok
  have judged := @judgeRead_normal stale tid 0 qty unitId values
    ((byteCount_iff few fewAsked).mp same)
  simp only [ModbusReply.pdu, ← same] at judged
  subst own
  exact ⟨rfl, congrArg Prod.snd judged⟩

end Answers

section Pending

variable {unitId : UInt8} {n : Nat} {link : TcpLink} {call : ReadCall}
  {answers : List (UInt16 × List UInt16)}

def wire (unitId : UInt8) (answers : List (UInt16 × List UInt16)) : Bytes :=
  answers.flatMap fun answer => fc03Answer unitId answer.1 answer.2

/-- The bytes on their way are whole answers, oldest first, to requests of less than `n`
turns ago. -/
structure Pending (unitId : UInt8) (n : Nat) (link : TcpLink)
    (answers : List (UInt16 × List UInt16)) : Prop where
  stream : link.stream = wire unitId answers
  fits : ∀ answer ∈ answers, answer.2.length ≤ modbusMaxReadRegisters
  behind : ∀ answer ∈ answers, Behind n link.tid answer.1

theorem Pending.later (pending : Pending unitId n link answers) :
    Pending unitId (n + 1) link answers where
  stream := pending.stream
  fits := pending.fits
  behind answer member := (pending.behind answer member).later

theorem Pending.left {stream : Bytes} {later : List (UInt16 × List UInt16)}
    (pending : Pending unitId n link answers) (kept : later <:+ answers)
    (rest : stream = wire unitId later) : Pending unitId n ⟨link.tid, stream⟩ later where
  stream := rest
  fits answer member := pending.fits answer (kept.subset member)
  behind answer member := pending.behind answer (kept.subset member)

def ReadCall.asked (link : TcpLink) (call : ReadCall) : List (UInt16 × List UInt16) :=
  (call.answer.map fun values => (nextTid link.tid, values)).toList

theorem mem_asked {answer : UInt16 × List UInt16} :
    answer ∈ call.asked link ↔ answer.1 = nextTid link.tid ∧ call.answer = some answer.2 := by
  obtain ⟨tid, values⟩ := answer
  cases given : call.answer with
  | none => simp [ReadCall.asked, given]
  | some registers =>
      simp only [ReadCall.asked, given, Option.map_some, Option.toList_some, List.mem_singleton,
        Prod.mk.injEq, Option.some.injEq]
      exact and_congr_right fun _ => eq_comm

theorem Pending.ask (pending : Pending unitId n link answers)
    (accepted : ¬ (call.qty = 0 ∨ call.qty.toNat > modbusMaxReadRegisters)) :
    Pending unitId (n + 1) ⟨nextTid link.tid, (call.socket unitId link).incoming⟩
      (answers ++ call.asked link) where
  stream := by
    have added : call.reply unitId link = wire unitId (call.asked link) := by
      rw [ReadCall.reply, if_neg accepted, ReadCall.asked]
      cases call.answer with
      | none => rfl
      | some values => simp [wire]
    simp only [ReadCall.socket, added, pending.stream, wire, List.flatMap_append]
  fits answer member := by
    rcases List.mem_append.mp member with older | own
    · exact pending.fits answer older
    · exact call.fits answer.2 (mem_asked.mp own).2
  behind answer member := by
    rcases List.mem_append.mp member with older | own
    · exact (pending.behind answer older).next
    · rw [(mem_asked.mp own).1]
      exact behind_self (Nat.succ_pos n) _

theorem Pending.receive {tid qty : UInt16} {req stale : Bytes} {socket : TcpSocket}
    (pending : Pending unitId n ⟨tid, socket.incoming⟩ answers)
    (fewAsked : qty.toNat ≤ modbusMaxReadRegisters)
    (sent : socket.send req = req.length)
    (untorn : socket.incoming ≠ [] →
      ¬ Torn socket.outcome (modbusTcpMbapHeaderLen + mbapRemaining socket.incoming)) :
    let done := tcpTransaction tid req socket stale (judgeReadResponse tid qty)
    (done.result ≠ mbTcpClientOk ∧ done.rest = socket.incoming) ∨
      ∃ first later, answers = first :: later ∧ done.rest = wire unitId later ∧
        (done.result = mbTcpClientOk → first.1 = tid ∧ done.out = some first.2) := by
  intro done
  simp only [done, tcpTransaction, if_neg (not_not.mpr sent)]
  cases answers with
  | nil =>
      obtain ⟨failed, rest⟩ := @recvResponse_nothing socket modbusTcpMaxAduLength pending.stream
      rw [if_pos failed]
      exact .inl ⟨recvErrToClientErr_ne _, rest.trans pending.stream.symm⟩
  | cons first later =>
      have few := pending.fits first (List.mem_cons_self ..)
      have stream : socket.incoming =
          fc03Answer unitId first.1 first.2 ++ wire unitId later := pending.stream
      have total := @mbapRemaining_answer unitId first.1 first.2 few (wire unitId later)
      have bound := fc03Answer_pdu_length few
      have size : (fc03Answer unitId first.1 first.2).length = _ := tcpAdu_length _ _ _
      rw [← stream] at total
      have sized : mbapRemaining socket.incoming ≠ 0 ∧
          mbapRemaining socket.incoming ≤ modbusTcpMaxAduLength - modbusTcpMbapHeaderLen := by
        simp only [modbusTcpMaxAduLength, modbusTcpMbapHeaderLen] at *
        omega
      have nonempty : socket.incoming ≠ [] := by
        rw [stream]
        simp [fc03Answer, tcpAdu, mbapHeader]
      have there : modbusTcpMbapHeaderLen + mbapRemaining socket.incoming ≤
          socket.incoming.length := by
        rw [total, stream, List.length_append]
        exact Nat.le_add_right _ _
      rcases recvResponse_untorn sized.2 sized.1 there (untorn nonempty) with ok | ⟨failed, rest⟩
      · obtain ⟨-, -, -, got, rest⟩ := recvResponse_ok ok
        rw [total, stream, List.take_left] at got
        rw [total, stream, List.drop_left] at rest
        rw [if_neg (not_not.mpr ok)]
        refine .inr ⟨first, later, rfl, rest, ?_⟩
        simp only [got, overwrite]
        exact judgeRead_answer few fewAsked _
      · rw [if_pos failed]
        exact .inl ⟨recvErrToClientErr_ne _, rest⟩

end Pending

section Runs

variable {unitId : UInt8} {n : Nat} {link : TcpLink} {answers : List (UInt16 × List UInt16)}

theorem perform_refused {call : ReadCall}
    (refused : call.qty = 0 ∨ call.qty.toNat > modbusMaxReadRegisters) :
    call.perform unitId link = ⟨mbTcpClientErrArg, none, link.tid, link.stream⟩ := by
  rw [ReadCall.perform, mbTcpClientReadHoldingRegisters, if_pos refused, ReadCall.socket,
    ReadCall.reply, if_pos refused, List.append_nil]

theorem perform_accepted {call : ReadCall}
    (accepted : ¬ (call.qty = 0 ∨ call.qty.toNat > modbusMaxReadRegisters)) :
    call.perform unitId link = tcpTransaction (nextTid link.tid) (call.request unitId link)
      (call.socket unitId link) call.stale (judgeReadResponse (nextTid link.tid) call.qty) := by
  rw [ReadCall.perform, mbTcpClientReadHoldingRegisters, if_neg accepted, if_neg (by simp)]
  rfl

/-- A call in step leaves whole answers behind it, and is not misled by an old one. -/
theorem perform_step (call : ReadCall) (pending : Pending unitId n link answers)
    (few : n < 65535) (synced : ¬ call.LosesSync unitId link) :
    (∃ later, Pending unitId (n + 1) (call.perform unitId link).link later) ∧
      OwnAnswer call (call.perform unitId link) := by
  by_cases refused : call.qty = 0 ∨ call.qty.toNat > modbusMaxReadRegisters
  · have notOk : mbTcpClientErrArg ≠ mbTcpClientOk := by decide
    rw [perform_refused refused]
    exact ⟨⟨answers, pending.later⟩, fun ok => absurd ok notOk⟩
  · have asked := pending.ask refused
    have done := @perform_accepted unitId link call refused
    obtain ⟨counted, fewAsked⟩ := not_or.mp refused
    by_cases sent : call.send (call.request unitId link) = (call.request unitId link).length
    · have untorn (unread : (call.socket unitId link).incoming ≠ []) :
          ¬ Torn call.outcome
            (modbusTcpMbapHeaderLen + mbapRemaining (call.socket unitId link).incoming) :=
        fun torn => synced ⟨⟨counted, Nat.not_lt.mp fewAsked⟩, sent, unread, torn⟩
      have received := @Pending.receive _ _ _ _ _ (call.request unitId link) call.stale
        (call.socket unitId link) asked (Nat.not_lt.mp fewAsked) sent untorn
      have turned : (call.perform unitId link).link =
          ⟨nextTid link.tid, (call.perform unitId link).rest⟩ := by
        rw [TcpCall.link, done, tcpTransaction_tid]
      rw [← done] at received
      rw [turned]
      rcases received with ⟨failed, rest⟩ | ⟨first, later, split, rest, own⟩
      · have left := asked.left (List.suffix_refl _) (rest.trans asked.stream)
        exact ⟨⟨_, left⟩, fun ok => absurd ok failed⟩
      · have left := asked.left (split ▸ List.suffix_cons first later) rest
        refine ⟨⟨later, left⟩, fun ok => ?_⟩
        obtain ⟨tid, out⟩ := own ok
        have member : first ∈ answers ++ call.asked link := split ▸ List.mem_cons_self ..
        rcases List.mem_append.mp member with older | asked
        · exact absurd tid ((pending.behind first older).ne_next few)
        · exact ⟨first.2, (mem_asked.mp asked).2, out⟩
    · have failed : call.perform unitId link = ⟨mbTcpClientErrTransport, none, nextTid link.tid,
          (call.socket unitId link).incoming⟩ := by
        rw [done, tcpTransaction]
        exact if_pos sent
      have notOk : mbTcpClientErrTransport ≠ mbTcpClientOk := by decide
      rw [failed]
      exact ⟨⟨_, asked⟩, fun ok => absurd ok notOk⟩

theorem readCalls_own (calls : List ReadCall) (pending : Pending unitId n link answers)
    (few : n + calls.length ≤ 65535) (synced : InSync unitId link calls) :
    List.Forall₂ OwnAnswer calls (readCalls unitId link calls) := by
  induction calls generalizing n link answers with
  | nil => exact .nil
  | cons call rest ih =>
      obtain ⟨here, after⟩ := synced
      rw [List.length_cons] at few
      obtain ⟨⟨later, left⟩, own⟩ := perform_step call pending (by omega) here
      exact .cons own (ih left (by omega) after)

end Runs

/-- On a fresh connection, every read that reports success reports what the server answered
to it, unless a call gives up on an answer it has received a part of. -/
theorem reads_own_answers (unitId : UInt8) (tid : UInt16) (calls : List ReadCall)
    (few : calls.length < 65535) (synced : InSync unitId ⟨tid, []⟩ calls) :
    List.Forall₂ OwnAnswer calls (readCalls unitId ⟨tid, []⟩ calls) := by
  have idle : Pending unitId 0 ⟨tid, []⟩ [] := ⟨rfl, by simp, by simp⟩
  exact readCalls_own calls idle (by omega) synced

def answeredRead (qty : UInt16) (values : List UInt16)
    (fits : values.length ≤ modbusMaxReadRegisters) (outcome : Nat → RecvOutcome) : ReadCall where
  addr := 0x2000
  qty := qty
  send req := req.length
  answer := some values
  fits := by simpa using fits
  outcome := outcome
  stale := []

/-- After a read that succeeds the answers come one call late, until one request is lost. -/
def lateReads : List ReadCall :=
  [answeredRead 2 [4, 5] (by decide) fun _ => .data 4,
    answeredRead 1 [6] (by decide) fun _ => .timeout,
    answeredRead 1 [7] (by decide) fun _ => .data 4,
    { answeredRead 1 [] (by decide) fun _ => .data 4 with
      answer := none
      fits := by simp },
    answeredRead 3 [8, 9, 10] (by decide) fun _ => .data 1]

theorem reads_own_answers_late :
    (readCalls 1 ⟨0, []⟩ lateReads).map TcpCall.result = [0, -4, -6, -6, 0] ∧
      List.Forall₂ OwnAnswer lateReads (readCalls 1 ⟨0, []⟩ lateReads) := by
  have brings (total n : Nat) : ¬ Torn (fun _ => .data n) total :=
    fun ⟨_, _, silent, _⟩ => silent n rfl
  have silent (total : Nat) : ¬ Torn (fun _ => .timeout) total := by
    rintro ⟨k, front, -, counted, -⟩
    cases k with
    | zero => exact absurd counted (Nat.lt_irrefl 0)
    | succ k =>
        obtain ⟨n, here⟩ := front 0 (Nat.succ_pos k)
        cases here
  have synced : InSync 1 ⟨0, []⟩ lateReads :=
    ⟨fun lost => brings _ 4 lost.torn, fun lost => silent _ lost.torn,
      fun lost => brings _ 4 lost.torn, fun lost => brings _ 4 lost.torn,
      fun lost => brings _ 1 lost.torn, trivial⟩
  exact ⟨by decide +kernel, reads_own_answers 1 0 lateReads (by decide) synced⟩

/-- The time is up after nine bytes of the first answer, and the registers left over pass for
an answer to the second request. -/
def tornReads : List ReadCall :=
  [answeredRead 6 [0x0002, 0x0000, 0x0005, 0x0103, 0x0212, 0x3400] (by decide) fun k =>
      if k = 0 then .data 6 else if k = 1 then .data 3 else .timeout,
    answeredRead 1 [7] (by decide) fun _ => .data 260]

theorem read_foreign_registers :
    ¬ List.Forall₂ OwnAnswer tornReads (readCalls 1 ⟨0, []⟩ tornReads) := by
  intro own
  have second := (List.forall₂_cons.mp (List.forall₂_cons.mp own).2).1
  obtain ⟨values, given, out⟩ := second (by decide +kernel)
  cases given
  revert out
  decide +kernel

end Rs485Gateway
