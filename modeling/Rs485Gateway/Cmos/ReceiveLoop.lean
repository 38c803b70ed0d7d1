import Rs485Gateway.Bus.Coord
import Rs485Gateway.Lists.Delimited

/-! The two receive loops of `cmos_sub.c` that cut a byte stream into lines:
the publisher connections of `cmos_sub_spin_ctx` and the master's answer in
`ctx_lookup_slot`. -/

namespace Rs485Gateway

open Rs485Gateway.Lists

def cmRxBuf : Nat := 2048
def cmLineBuf : Nat := 1024

def text (chars : List Char) : CStr := chars.map Char.toUInt8

def lf : UInt8 := 0x0A

def endsLine (byte : UInt8) : Bool := byte == lf

def rxRoom (rxbuf : CStr) : Nat := cmRxBuf - 1 - rxbuf.length

/-- The scan over the buffer, `todo` bytes before its end: the lines in it, where the
unfinished line starts, and whether a line told it to stop. -/
def lineLoop (stop : CStr → Bool) (rxbuf : CStr) :
    Nat → Nat → Nat → List CStr × Nat × Bool
  | 0, _, start => ([], start, false)
  | todo + 1, k, start =>
      if rxbuf[k]? ≠ some lf then lineLoop stop rxbuf todo (k + 1) start
      else
        let ll := k - start + 1
        let ll := if ll ≥ cmLineBuf then cmLineBuf - 1 else ll
        let line := (rxbuf.drop start).take ll
        if stop line then ([line], start, true)
        else
          let rest := lineLoop stop rxbuf todo (k + 1) (k + 1)
          (line :: rest.1, rest.2)

/-- What one `recv` brings: the lines handled, the buffer afterwards, and whether the
loop returned. -/
def receive (stop : CStr → Bool) (rxbuf chunk : CStr) : List CStr × CStr × Bool :=
  let buf := rxbuf ++ chunk
  let scanned := lineLoop stop buf buf.length 0 0
  let rest := if scanned.2.1 > 0 then buf.drop scanned.2.1 else buf
  (scanned.1, if rest.length ≥ cmRxBuf - 1 then [] else rest, scanned.2.2)

/-- A connection fed by `recv` results that fit: the bytes received, the lines handled,
what is buffered, and whether the loop has returned. -/
inductive Received (stop : CStr → Bool) : CStr → List CStr → CStr → Bool → Prop
  | start : Received stop [] [] [] false
  | recv {bytes chunk : CStr} {lines : List CStr} {rxbuf : CStr}
      (before : Received stop bytes lines rxbuf false) (nonempty : chunk ≠ [])
      (fits : chunk.length ≤ rxRoom rxbuf) :
      Received stop (bytes ++ chunk) (lines ++ (receive stop rxbuf chunk).1)
        (receive stop rxbuf chunk).2.1 (receive stop rxbuf chunk).2.2

/-- `cmos_sub_spin_ctx` handles every line. -/
def handlesAll (_line : CStr) : Bool := false

abbrev SpinReceived := Received handlesAll

/-- `ctx_lookup_slot` returns at the line `END`. -/
def isEndLine (line : CStr) : Bool := line == text ['E', 'N', 'D', '\n']

abbrev LookupReceived := Received isEndLine

def upTo (stop : CStr → Bool) : List CStr → List CStr
  | [] => []
  | line :: rest => if stop line then [line] else line :: upTo stop rest

def LinesFit (stream : CStr) : Prop :=
  (∀ line ∈ blocks endsLine stream, line.length ≤ cmLineBuf - 1) ∧
    (leftOver endsLine stream).length ≤ cmLineBuf - 1

section Loop

variable {stop : CStr → Bool}

/-- The scan with an unfinished line in hand: what it still finds is the rest of the
buffer cut at its line ends. -/
theorem lineLoop_delimited (done part rest : CStr) (inner : ∀ x ∈ part, endsLine x = false)
    (short : ∀ line ∈ blocks endsLine (part ++ rest), line.length ≤ cmLineBuf - 1) :
    let scanned := lineLoop stop (done ++ part ++ rest) rest.length
      (done.length + part.length) done.length
    scanned.1 = upTo stop (blocks endsLine (part ++ rest)) ∧
      scanned.2.2 = (blocks endsLine (part ++ rest)).any stop ∧
      (scanned.2.2 = false → (done ++ part ++ rest).drop scanned.2.1 =
        leftOver endsLine (part ++ rest)) := by
  induction rest generalizing done part with
  | nil =>
      have clear := delimited_open inner
      simp [lineLoop, blocks, leftOver, clear, upTo]
  | cons byte rest ih =>
      have here : (done ++ part ++ byte :: rest)[done.length + part.length]? = some byte := by
        rw [← List.length_append, List.getElem?_append_right le_rfl]
        simp
      by_cases ends : byte = lf
      · have closes : endsLine byte = true := by simp [endsLine, ends]
        have split := @delimited_block _ endsLine byte rest part inner closes
        have blocks_eq : blocks endsLine (part ++ byte :: rest) =
            (part ++ [byte]) :: blocks endsLine rest := by rw [blocks, split]
        have leftOver_eq : leftOver endsLine (part ++ byte :: rest) = leftOver endsLine rest := by
          rw [leftOver, split]
        have bound : part.length + 1 ≤ cmLineBuf - 1 := by
          simpa using short (part ++ [byte]) (by simp [blocks_eq])
        have length_eq : done.length + part.length - done.length + 1 = part.length + 1 := by omega
        have whole : ¬ part.length + 1 ≥ cmLineBuf := by
          simp only [cmLineBuf] at bound ⊢
          omega
        have line : ((done ++ part ++ byte :: rest).drop done.length).take (part.length + 1) =
            part ++ [byte] := by
          rw [List.append_assoc, List.drop_left, List.take_append]
          simp
        have later := ih (done ++ part ++ [byte]) [] (by simp)
          (fun block member => short block (by simpa [blocks_eq] using .inr member))
        simp only [List.append_assoc, List.singleton_append, List.nil_append, List.length_append,
          List.length_nil, List.length_singleton, Nat.add_zero] at later
        rw [List.length_cons, lineLoop, here, ends]
        simp only [ne_eq, not_true_eq_false, if_false, length_eq, if_neg whole]
        rw [← ends, line, blocks_eq, leftOver_eq]
        cases stops : stop (part ++ [byte]) with
        | true => simp [upTo, stops]
        | false =>
            obtain ⟨lines, stopped, dropped⟩ := later
            simp only [upTo, stops, Bool.false_eq_true, if_false, List.any_cons, Bool.false_or,
              List.append_assoc, Nat.add_assoc]
            exact ⟨congrArg ((part ++ [byte]) :: ·) lines, stopped, dropped⟩
      · have goesOn : endsLine byte = false := by simp [endsLine, ends]
        have later := ih done (part ++ [byte])
          (by
            intro x member
            rcases List.mem_append.mp member with old | new
            · exact inner x old
            · rw [List.mem_singleton.mp new]
              exact goesOn)
          (by simpa using short)
        rw [List.length_cons, lineLoop, here]
        simp only [ne_eq, Option.some.injEq, ends, not_false_eq_true, if_true]
        simpa [Nat.add_assoc] using later

theorem lineLoop_buffer (stop : CStr → Bool) {buf : CStr}
    (short : ∀ line ∈ blocks endsLine buf, line.length ≤ cmLineBuf - 1) :
    let scanned := lineLoop stop buf buf.length 0 0
    scanned.1 = upTo stop (blocks endsLine buf) ∧
      scanned.2.2 = (blocks endsLine buf).any stop ∧
      (scanned.2.2 = false → buf.drop scanned.2.1 = leftOver endsLine buf) := by
  have whole := @lineLoop_delimited stop [] [] buf (by simp) short
  simpa using whole

theorem receive_lines {rxbuf chunk : CStr} (fit : LinesFit (rxbuf ++ chunk)) :
    (receive stop rxbuf chunk).1 = upTo stop (blocks endsLine (rxbuf ++ chunk)) ∧
      (receive stop rxbuf chunk).2.2 = (blocks endsLine (rxbuf ++ chunk)).any stop ∧
      ((receive stop rxbuf chunk).2.2 = false →
        (receive stop rxbuf chunk).2.1 = leftOver endsLine (rxbuf ++ chunk)) := by
  obtain ⟨lines, stopped, dropped⟩ := lineLoop_buffer stop fit.1
  refine ⟨lines, stopped, fun goesOn => ?_⟩
  have rest := dropped goesOn
  have moved : (if (lineLoop stop (rxbuf ++ chunk) (rxbuf ++ chunk).length 0 0).2.1 > 0 then
      (rxbuf ++ chunk).drop (lineLoop stop (rxbuf ++ chunk) (rxbuf ++ chunk).length 0 0).2.1
      else rxbuf ++ chunk) = leftOver endsLine (rxbuf ++ chunk) := by
    split
    · exact rest
    · rename_i stays
      rw [Nat.eq_zero_of_not_pos stays, List.drop_zero] at rest
      exact rest
  have short := fit.2
  simp only [receive, moved]
  apply if_neg
  simp only [cmLineBuf, cmRxBuf] at short ⊢
  omega

theorem upTo_append {front back : List CStr} (clear : front.any stop = false) :
    upTo stop (front ++ back) = front ++ upTo stop back := by
  induction front with
  | nil => rfl
  | cons line rest ih =>
      rw [List.any_cons, Bool.or_eq_false_iff] at clear
      rw [List.cons_append, upTo, if_neg (by simp [clear.1]), ih clear.2]
      rfl

theorem upTo_clear {lines : List CStr} (clear : lines.any stop = false) :
    upTo stop lines = lines := by
  have whole := @upTo_append stop lines [] clear
  rwa [List.append_nil, upTo, List.append_nil] at whole

theorem LinesFit.left {front back : CStr} (fit : LinesFit (front ++ back)) : LinesFit front := by
  constructor
  · intro line member
    apply fit.1
    rw [blocks_append]
    exact List.mem_append_left _ member
  · exact leftOver_length_le front back fit.1 fit.2

theorem LinesFit.rest {front back : CStr} (fit : LinesFit (front ++ back)) :
    LinesFit (leftOver endsLine front ++ back) := by
  constructor
  · intro line member
    apply fit.1
    rw [blocks_append]
    exact List.mem_append_right _ member
  · rw [← leftOver_append]
    exact fit.2

theorem Received.lines {bytes rxbuf : CStr} {lines : List CStr} {stopped : Bool}
    (received : Received stop bytes lines rxbuf stopped) (fit : LinesFit bytes) :
    lines = upTo stop (blocks endsLine bytes) ∧ stopped = (blocks endsLine bytes).any stop ∧
      (stopped = false → rxbuf = leftOver endsLine bytes) := by
  induction received with
  | start => exact ⟨rfl, rfl, fun _ => rfl⟩
  | recv before nonempty fits ih =>
      obtain ⟨handled, clear, kept⟩ := ih fit.left
      obtain rfl := kept rfl
      obtain ⟨more, stops, rest⟩ := @receive_lines stop _ _ fit.rest
      have uncut := clear.symm
      refine ⟨?_, ?_, ?_⟩
      · rw [blocks_append, upTo_append uncut, more, handled, upTo_clear uncut]
      · rw [blocks_append, List.any_append, uncut, Bool.false_or]
        exact stops
      · rw [leftOver_append]
        exact rest

end Loop

theorem handlesAll_clear (lines : List CStr) : lines.any handlesAll = false := by
  simp [handlesAll]

theorem endsLine_iff {byte : UInt8} : endsLine byte = true ↔ byte = lf := beq_iff_eq

theorem leftOver_noLf (bytes : CStr) : lf ∉ leftOver endsLine bytes := by
  intro member
  have inner := leftOver_inner bytes lf member
  rw [endsLine_iff.mpr rfl] at inner
  cases inner

theorem block_line {bytes line : CStr} (member : line ∈ blocks endsLine bytes) :
    ∃ body, line = body ++ [lf] ∧ lf ∉ body := by
  obtain ⟨body, last, rfl, inner, ends⟩ := blocks_closed bytes line member
  obtain rfl := endsLine_iff.mp ends
  refine ⟨body, rfl, fun inside => ?_⟩
  rw [inner lf inside] at ends
  cases ends

theorem SpinReceived.lines {bytes rxbuf : CStr} {lines : List CStr} {stopped : Bool}
    (received : SpinReceived bytes lines rxbuf stopped) (fit : LinesFit bytes) :
    lines = blocks endsLine bytes ∧ stopped = false ∧ rxbuf = leftOver endsLine bytes := by
  obtain ⟨handled, stops, kept⟩ := Received.lines received fit
  rw [handlesAll_clear] at stops
  exact ⟨handled.trans (upTo_clear (handlesAll_clear _)), stops, kept stops⟩

theorem LinesFit.room {bytes : CStr} (fit : LinesFit bytes) :
    (leftOver endsLine bytes).length < cmRxBuf - 1 :=
  fit.2.trans_lt (by decide)

/-- Both loops hand on whole lines, once each and in order, and always have room for
the next byte. -/
theorem receive_loops (stream bytes more : CStr) (fit : LinesFit stream)
    (begins : stream = bytes ++ more) (lines : List CStr) (rxbuf : CStr) (stopped : Bool) :
    (SpinReceived bytes lines rxbuf stopped →
      stopped = false ∧ lines = blocks endsLine bytes ∧ rxbuf = leftOver endsLine bytes ∧
        (∀ line ∈ lines, ∃ body, line = body ++ [lf] ∧ lf ∉ body) ∧ lf ∉ rxbuf ∧
        lines.flatten ++ rxbuf = bytes ∧ rxbuf.length < cmRxBuf - 1) ∧
      (LookupReceived bytes lines rxbuf stopped →
        lines = upTo isEndLine (blocks endsLine bytes) ∧
          stopped = (blocks endsLine bytes).any isEndLine ∧
          (stopped = false → rxbuf = leftOver endsLine bytes ∧ rxbuf.length < cmRxBuf - 1)) := by
  subst begins
  have fits := fit.left
  constructor
  · intro received
    obtain ⟨rfl, goesOn, rfl⟩ := SpinReceived.lines received fits
    exact ⟨goesOn, rfl, rfl, fun line => block_line, leftOver_noLf bytes, blocks_flatten bytes,
      fits.room⟩
  · intro received
    obtain ⟨handled, stops, kept⟩ := Received.lines received fits
    refine ⟨handled, stops, fun goesOn => ?_⟩
    rw [kept goesOn]
    exact ⟨rfl, fits.room⟩

/-- Two lines and the beginning of a third, in three pieces. -/
theorem receive_loops_pieces : ∃ bytes lines rxbuf, SpinReceived bytes lines rxbuf false ∧
    lines = [text ['a', '\n'], text ['b', 'b', '\n']] ∧ rxbuf = text ['c'] := by
  have first :=
    @Received.recv handlesAll _ (text ['a', '\n', 'b']) _ _ .start (by decide) (by decide)
  have second := @Received.recv handlesAll _ (text ['b', '\n']) _ _ first (by decide) (by decide)
  have third := @Received.recv handlesAll _ (text ['c']) _ _ second (by decide) (by decide)
  have fit : LinesFit ([] ++ text ['a', '\n', 'b'] ++ text ['b', '\n'] ++ text ['c']) := by
    constructor <;> decide
  obtain ⟨-, whole, rest, -⟩ :=
    (receive_loops _ _ [] fit (List.append_nil _).symm _ _ _).1 third
  exact ⟨_, _, _, third, whole.trans (by decide), rest.trans (by decide)⟩

end Rs485Gateway
