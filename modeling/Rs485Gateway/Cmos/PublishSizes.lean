import Rs485Gateway.Cmos.Delivery
import Rs485Gateway.Cmos.RoundTrip

namespace Rs485Gateway

open Rs485Gateway.Lists

def intMax : Nat := 2147483647

structure PrintCall where
  offset : Int
  size : Nat
  deriving DecidableEq

/-- `data` while it is filled: the calls so far, the known bytes, whether a terminator is known to
follow them, whether C still says what happens, and `pos`. -/
structure PubBuffer where
  calls : List PrintCall
  data : CStr
  terminated : Bool
  defined : Bool
  pos : Int

namespace PubBuffer

def start : PubBuffer := ⟨[], [], false, true, 0⟩

def sizeLeft (pos : Int) : Nat := ((pubDataSize - pos) % 2 ^ 64).toNat

/-- `pos += snprintf(...)` and the clamp. A text that an `int` cannot count makes `snprintf` return
the negative `failure` and leaves open what it wrote. -/
def print (failure : Int) (d : PubBuffer) (piece : CStr) : PubBuffer :=
  let size := sizeLeft d.pos
  let sum := d.pos + if piece.length ≤ intMax then (piece.length : Int) else failure
  { calls := d.calls ++ [⟨d.pos, size⟩]
    data := d.data.take d.pos.toNat ++
      if piece.length ≤ intMax then piece.take (size - 1) else []
    terminated := decide (piece.length ≤ intMax)
    -- outside the buffer, or a signed overflow
    defined := d.defined && decide (0 ≤ d.pos ∧ d.pos ≤ pubDataCap ∧ sum ≤ intMax)
    pos := if sum > pubDataCap then pubDataCap else sum }

def separator (d : PubBuffer) : CStr := if d.pos = 0 then [] else [space]

def field (failure : Int) (d : PubBuffer) (is : CStr) : Option CStr → PubBuffer
  | none => d
  | some content => d.print failure (d.separator ++ is ++ content)

def value (failure : Int) (d : PubBuffer) : Option CStr → PubBuffer
  | none => d
  | some content =>
      if d.pos = 0 then d.print failure content
      else d.print failure ([space] ++ valueIs ++ content)

end PubBuffer

def Message.filled (message : Message) (failure : Int) : PubBuffer :=
  (((PubBuffer.start.field failure stateIs message.state).field failure typeIs message.type).field
    failure keyIs message.key).value failure message.value

def spaced : List CStr → List CStr
  | [] => []
  | word :: rest => word :: rest.map ([space] ++ ·)

def Message.printed (message : Message) : List CStr :=
  spaced (if message.named = [] then message.value.toList else message.words)

/-- An `int` can count each text on top of what is in the buffer before it. -/
def CountsFit : Nat → List CStr → Prop
  | _, [] => True
  | before, piece :: rest =>
      min pubDataCap before + piece.length ≤ intMax ∧ CountsFit (before + piece.length) rest

def Message.Countable (message : Message) : Prop := CountsFit 0 message.printed

/-- Every offset is in the buffer with room behind it, and the line that is sent is short, whole,
closed, and handled whole behind whatever lines came before. -/
structure PubBuffer.Sized (topic : CStr) (d : PubBuffer) : Prop where
  offsets : ∀ call ∈ d.calls, 0 ≤ call.offset ∧ call.offset ≤ 895
  sizes : ∀ call ∈ d.calls, 1 ≤ call.size
  string : d.defined = true ∧ d.terminated = true
  whole : publishLine topic d.data =
    text ['M', 'S', 'G', ' '] ++ topic ++ [space] ++ d.data ++ [lf]
  short : (publishLine topic d.data).length ≤ 964
  handled : ∀ earlier : List CStr, (∀ line ∈ earlier, PublishedLine line) →
    ∀ lines rxbuf stopped,
      SpinReceived (earlier ++ [publishLine topic d.data]).flatten lines rxbuf stopped →
        lines = earlier.flatMap (blocks endsLine) ++ blocks endsLine (publishLine topic d.data) ∧
          (blocks endsLine (publishLine topic d.data)).flatten = publishLine topic d.data ∧
          rxbuf = []

section Spaced

variable {words pieces : List CStr} {word piece : CStr} {before : Nat}

theorem spaced_snoc (words : List CStr) (word : CStr) :
    spaced (words ++ [word]) =
      spaced words ++ [(if words = [] then [] else [space]) ++ word] := by
  cases words with
  | nil => rfl
  | cons first rest => simp [spaced]

theorem spaced_flatten (words : List CStr) : (spaced words).flatten = joined words := by
  induction words using List.reverseRecOn with
  | nil => rfl
  | append_singleton words word ih =>
      rw [spaced_snoc, List.flatten_append, ih, List.flatten_singleton]
      by_cases empty : words = []
      · rw [if_pos empty, empty]
        rfl
      · rw [if_neg empty, joined_snoc empty]

theorem countsFit_snoc : CountsFit before (pieces ++ [piece]) ↔
    CountsFit before pieces ∧
      min pubDataCap (before + pieces.flatten.length) + piece.length ≤ intMax := by
  induction pieces generalizing before with
  | nil => simp [CountsFit]
  | cons first rest ih =>
      rw [List.cons_append, CountsFit, CountsFit, ih, List.flatten_cons, List.length_append,
        Nat.add_assoc, and_assoc]

end Spaced

structure PubTracks (d : PubBuffer) (p : PubData) (pieces : List CStr) : Prop where
  pos : d.pos = p.pos
  data : d.data = p.data
  reached : p.pos = min pubDataCap pieces.flatten.length
  before : p.data.length ≤ p.pos
  defined : d.defined = true
  terminated : pieces ≠ [] → d.terminated = true
  calls : ∀ call ∈ d.calls, 0 ≤ call.offset ∧ call.offset ≤ pubDataCap ∧ 1 ≤ call.size

/-- A failure was not noticed: an offset before the buffer is used, or will be, or what is in the
buffer is not known. -/
def PubLost (d : PubBuffer) : Prop :=
  (∃ call ∈ d.calls, call.offset < 0) ∨ d.defined = false ∨ d.pos < 0 ∧ d.terminated = false

section Print

variable {d : PubBuffer} {p : PubData} {pieces : List CStr} {piece : CStr} {failure : Int}

theorem sizeLeft_inside {pos : Nat} (inside : pos ≤ pubDataCap) :
    PubBuffer.sizeLeft pos = pubDataSize - pos := by
  have cap : pubDataCap = 895 := rfl
  have size : pubDataSize = 896 := rfl
  rw [PubBuffer.sizeLeft]
  omega

theorem PubTracks.inside (tracks : PubTracks d p pieces) : p.pos ≤ pubDataCap :=
  tracks.reached ▸ Nat.min_le_left _ _

theorem print_reached (reached : p.pos = min pubDataCap pieces.flatten.length) :
    (p.print piece).pos = min pubDataCap (pieces ++ [piece]).flatten.length := by
  rw [List.flatten_append, List.flatten_singleton, List.length_append, PubData.print]
  simp only
  split <;> omega

theorem PubTracks.print (tracks : PubTracks d p pieces)
    (fits : min pubDataCap pieces.flatten.length + piece.length ≤ intMax) :
    PubTracks (d.print failure piece) (p.print piece) (pieces ++ [piece]) := by
  have counted : piece.length ≤ intMax := (Nat.le_add_left _ _).trans fits
  have inside := tracks.inside
  have left := sizeLeft_inside inside
  have bound := PubData.print_bound piece ⟨tracks.before, inside⟩
  have size : pubDataSize = 896 := rfl
  have cap : pubDataCap = 895 := rfl
  rw [← tracks.reached] at fits
  constructor
  case pos =>
    simp only [PubBuffer.print, PubData.print, if_pos counted, tracks.pos]
    split <;> split <;> omega
  case data =>
    simp only [PubBuffer.print, PubData.print, if_pos counted, tracks.pos, tracks.data, left,
      Int.toNat_natCast, List.take_of_length_le tracks.before]
  case reached => exact print_reached tracks.reached
  case before => exact bound.1
  case defined =>
    simp only [PubBuffer.print, if_pos counted, tracks.pos, tracks.defined, Bool.true_and,
      decide_eq_true_eq]
    omega
  case terminated => exact fun _ => decide_eq_true counted
  case calls =>
    intro call member
    rcases List.mem_append.mp member with old | new
    · exact tracks.calls call old
    · have room : 1 ≤ pubDataSize - p.pos := by omega
      rw [List.mem_singleton.mp new, tracks.pos, left]
      exact ⟨Int.natCast_nonneg _, Int.ofNat_le.mpr inside, room⟩

/-- A text that cannot be counted is not noticed. -/
theorem PubTracks.lost (tracks : PubTracks d p pieces) (far : failure ≤ -896)
    (long : ¬ min pubDataCap pieces.flatten.length + piece.length ≤ intMax) :
    PubLost (d.print failure piece) := by
  have inside := tracks.inside
  have cap : pubDataCap = 895 := rfl
  rw [← tracks.reached] at long
  apply Or.inr
  by_cases counted : piece.length ≤ intMax
  · apply Or.inl
    simp only [PubBuffer.print, if_pos counted, tracks.pos, tracks.defined, Bool.true_and,
      decide_eq_false_iff_not]
    omega
  · apply Or.inr
    simp only [PubBuffer.print, if_neg counted, tracks.pos]
    constructor
    · split <;> omega
    · exact decide_eq_false counted

theorem PubLost.print (lost : PubLost d) : PubLost (d.print failure piece) := by
  rcases lost with ⟨call, member, negative⟩ | undefined | ⟨negative, _⟩
  · exact .inl ⟨call, List.mem_append_left _ member, negative⟩
  · apply Or.inr
    apply Or.inl
    rw [PubBuffer.print, undefined]
    rfl
  · exact .inl ⟨_, List.mem_append_right _ (List.mem_singleton_self _), negative⟩

def PubRun (failure : Int) (d : PubBuffer) (p : PubData) (pieces : List CStr) : Prop :=
  CountsFit 0 pieces ∧ PubTracks d p pieces ∨
    ¬ CountsFit 0 pieces ∧ (failure ≤ -896 → PubLost d)

theorem start_follows : PubRun failure PubBuffer.start ⟨[], 0⟩ [] := by
  apply Or.inl
  apply And.intro trivial
  constructor
  case pos => rfl
  case data => rfl
  case reached => rfl
  case before => exact le_rfl
  case defined => rfl
  case terminated => exact fun nonempty => absurd rfl nonempty
  case calls => exact fun _ member => absurd member List.not_mem_nil

theorem PubTracks.follows (tracks : PubTracks d p pieces) (fit : CountsFit 0 pieces) (failure : Int)
    (piece : CStr) :
    PubRun failure (d.print failure piece) (p.print piece) (pieces ++ [piece]) := by
  by_cases fits : min pubDataCap pieces.flatten.length + piece.length ≤ intMax
  · have more : CountsFit 0 (pieces ++ [piece]) := countsFit_snoc.mpr ⟨fit, by rwa [Nat.zero_add]⟩
    exact .inl ⟨more, tracks.print fits⟩
  · apply Or.inr
    constructor
    · intro all
      have last := (countsFit_snoc.mp all).2
      rw [Nat.zero_add] at last
      exact fits last
    · exact fun far => tracks.lost far fits

end Print

section Fields

variable {d : PubBuffer} {p : PubData} {words : List CStr} {failure : Int}

theorem joined_pos (words_ok : ∀ word ∈ words, word ≠ []) (tracks : PubTracks d p (spaced words)) :
    p.pos = 0 ↔ words = [] := by
  have cap : pubDataCap = 895 := rfl
  rw [tracks.reached, spaced_flatten, ← joined_eq_nil words_ok, ← List.length_eq_zero_iff]
  omega

theorem separator_eq (words_ok : ∀ word ∈ words, word ≠ [])
    (tracks : PubTracks d p (spaced words)) :
    d.separator = (if words = [] then [] else [space]) ∧ p.separator = d.separator := by
  have started := joined_pos words_ok tracks
  rw [PubBuffer.separator, PubData.separator, tracks.pos]
  by_cases empty : words = []
  · rw [if_pos empty, started.mpr empty]
    exact ⟨rfl, rfl⟩
  · have moved : p.pos ≠ 0 := fun zero => empty (started.mp zero)
    rw [if_neg empty, if_neg moved, if_neg (Int.natCast_ne_zero.mpr moved)]
    exact ⟨rfl, rfl⟩

theorem unfit_snoc (unfit : ¬ CountsFit 0 (spaced words)) (word : CStr) :
    ¬ CountsFit 0 (spaced (words ++ [word])) := by
  rw [spaced_snoc, countsFit_snoc]
  exact fun both => unfit both.1

theorem PubRun.field (follows : PubRun failure d p (spaced words))
    (words_ok : ∀ word ∈ words, word ≠ []) (is : CStr) (content : Option CStr) :
    PubRun failure (d.field failure is content) (p.field is content)
      (spaced (words ++ (content.map (is ++ ·)).toList)) := by
  cases content with
  | none => rwa [Option.map_none, Option.toList_none, List.append_nil]
  | some content =>
      rw [Option.map_some, Option.toList_some]
      rcases follows with ⟨fit, tracks⟩ | ⟨unfit, lost⟩
      · rcases separator_eq words_ok tracks with ⟨here, same⟩
        have printed := tracks.follows fit failure (d.separator ++ is ++ content)
        rw [spaced_snoc, ← here, PubBuffer.field, PubData.field, same, ← List.append_assoc]
        exact printed
      · exact .inr ⟨unfit_snoc unfit _, fun far => (lost far).print⟩

theorem PubRun.value (follows : PubRun failure d p (spaced words))
    (words_ok : ∀ word ∈ words, word ≠ []) (content : Option CStr) :
    PubRun failure (d.value failure content) (p.value content)
      (spaced (if words = [] then content.toList
        else words ++ (content.map (valueIs ++ ·)).toList)) := by
  cases content with
  | none =>
      by_cases empty : words = []
      · rw [if_pos empty, Option.toList_none]
        rwa [empty] at follows
      · rw [if_neg empty, Option.map_none, Option.toList_none, List.append_nil]
        exact follows
  | some content =>
      rw [Option.map_some, Option.toList_some, Option.toList_some]
      rcases follows with ⟨fit, tracks⟩ | ⟨unfit, lost⟩
      · have started := joined_pos words_ok tracks
        rw [PubBuffer.value, PubData.value, tracks.pos]
        by_cases empty : words = []
        · have zero := started.mpr empty
          rw [if_pos empty, if_pos zero, zero, Nat.cast_zero, if_pos rfl]
          have printed := tracks.follows fit failure content
          rw [empty] at printed
          exact printed
        · have moved : p.pos ≠ 0 := fun zero => empty (started.mp zero)
          rw [if_neg empty, if_neg moved, if_neg (Int.natCast_ne_zero.mpr moved), spaced_snoc,
            if_neg empty, ← List.append_assoc]
          exact tracks.follows fit failure _
      · have nonempty : words ≠ [] := by
          rintro rfl
          exact unfit trivial
        rw [if_neg nonempty]
        apply Or.inr
        apply And.intro (unfit_snoc unfit _)
        intro far
        rw [PubBuffer.value]
        split
        · exact (lost far).print
        · exact (lost far).print

theorem mapped_ne_nil {is : CStr} (named : is ≠ []) (content : Option CStr) :
    ∀ word ∈ (content.map (is ++ ·)).toList, word ≠ [] := by
  cases content with
  | none => exact fun _ member => absurd member List.not_mem_nil
  | some content =>
      intro word member
      rw [List.mem_singleton.mp member]
      exact List.append_ne_nil_of_left_ne_nil named content

theorem append_ok {front back : List CStr} (front_ok : ∀ word ∈ front, word ≠ [])
    (back_ok : ∀ word ∈ back, word ≠ []) : ∀ word ∈ front ++ back, word ≠ [] := by
  intro word member
  rcases List.mem_append.mp member with left | right
  · exact front_ok word left
  · exact back_ok word right

end Fields

def Message.filledData (message : Message) : PubData :=
  ((((PubData.mk [] 0).field stateIs message.state).field typeIs message.type).field
    keyIs message.key).value message.value

section Messages

variable {d : PubBuffer} {p : PubData} {pieces : List CStr} {message : Message} {failure : Int}
  {topic : CStr}

theorem filled_follows (message : Message) (failure : Int) :
    PubRun failure (message.filled failure) message.filledData message.printed := by
  have state_ok := mapped_ne_nil (show stateIs ≠ [] by decide) message.state
  have type_ok := append_ok state_ok (mapped_ne_nil (show typeIs ≠ [] by decide) message.type)
  have key_ok := append_ok type_ok (mapped_ne_nil (show keyIs ≠ [] by decide) message.key)
  have none_ok : ∀ word ∈ ([] : List CStr), word ≠ [] :=
    fun _ member => absurd member List.not_mem_nil
  have start : PubRun failure PubBuffer.start ⟨[], 0⟩ (spaced []) := start_follows
  have state := start.field none_ok stateIs message.state
  have type := state.field state_ok typeIs message.type
  have key := type.field type_ok keyIs message.key
  exact key.value key_ok message.value

theorem printed_ne_nil (given : ¬ (message.state = none ∧ message.type = none ∧
    message.key = none ∧ message.value = none)) : message.printed ≠ [] := by
  intro nothing
  apply given
  rcases message with ⟨state, type, key, value⟩
  cases state <;> cases type <;> cases key <;> cases value <;>
    simp_all [Message.printed, Message.named, Message.words, spaced]

theorem PubTracks.sized (tracks : PubTracks d p pieces) (printed : pieces ≠ [])
    (short : topic.length ≤ 63) : d.Sized topic := by
  have kept : keptTopic topic = topic := List.take_of_length_le short
  have fits : d.data.length ≤ pubDataCap := by
    rw [tracks.data]
    exact tracks.before.trans tracks.inside
  have whole := publishLine_eq topic d.data fits
  rw [kept] at whole
  have closed : leftOver endsLine (publishLine topic d.data) = [] := by
    rw [whole]
    exact leftOver_closed _ rfl
  have line : PublishedLine (publishLine topic d.data) := ⟨closed, List.length_take_le _ _⟩
  constructor
  case offsets =>
    intro call member
    have bounds := tracks.calls call member
    exact ⟨bounds.1, bounds.2.1⟩
  case sizes => exact fun call member => (tracks.calls call member).2.2
  case string => exact ⟨tracks.defined, tracks.terminated printed⟩
  case whole => exact whole
  case short =>
    simp only [pubDataCap, pubDataSize] at fits
    simp only [whole, List.length_append, text, List.length_map, List.length_cons, List.length_nil]
    omega
  case handled =>
    intro earlier published lines rxbuf stopped received
    have all : ∀ line ∈ earlier ++ [publishLine topic d.data], PublishedLine line := by
      intro other member
      rcases List.mem_append.mp member with old | new
      · exact published other old
      · rw [List.mem_singleton.mp new]
        exact line
    rcases linesFit_published all with ⟨cut, fit⟩
    rcases SpinReceived.lines received fit with ⟨handled, -, rest⟩
    have closing := delimited_flatten fun line member => (all line member).closed
    have flat := @blocks_flatten _ endsLine (publishLine topic d.data)
    rw [closed, List.append_nil] at flat
    rw [handled, rest, cut, List.flatMap_append, List.flatMap_singleton]
    exact ⟨rfl, flat, congrArg Prod.snd closing⟩

theorem PubLost.not_sized (lost : PubLost d) : ¬ d.Sized topic := by
  intro sized
  rcases lost with ⟨call, member, negative⟩ | undefined | ⟨-, unterminated⟩
  · exact absurd negative (Int.not_lt.mpr (sized.offsets call member).1)
  · rw [sized.string.1] at undefined
    cases undefined
  · rw [sized.string.2] at unterminated
    cases unterminated

/-- Where the texts can be counted, the buffer is that of the numbers. -/
theorem filled_data (countable : message.Countable) (given : ¬ (message.state = none ∧
    message.type = none ∧ message.key = none ∧ message.value = none)) (failure : Int)
    (stale : CStr) : (message.filled failure).data = message.data stale := by
  rw [Message.data, if_neg given]
  rcases filled_follows message failure with ⟨-, tracks⟩ | ⟨unfit, -⟩
  · exact tracks.data
  · exact absurd countable unfit

/-- Whatever `snprintf` returns where it fails, the offsets and sizes stay in the buffer and the
line is whole, if and only if an `int` counts every text on top of what is before it. -/
theorem publish_sized_iff (topic : CStr) (short : topic.length ≤ 63) (message : Message)
    (given : ¬ (message.state = none ∧ message.type = none ∧ message.key = none ∧
      message.value = none)) :
    (∀ failure : Int, failure < 0 → (message.filled failure).Sized topic) ↔
      message.Countable := by
  constructor
  · intro sized
    by_contra unfit
    have always := sized (-896) (by decide)
    rcases filled_follows message (-896) with ⟨fit, -⟩ | ⟨-, lost⟩
    · exact unfit fit
    · exact (lost le_rfl).not_sized always
  · intro countable failure _
    rcases filled_follows message failure with ⟨-, tracks⟩ | ⟨unfit, -⟩
    · exact tracks.sized (printed_ne_nil given) short
    · exact absurd countable unfit

theorem publish_sized_small :
    (Message.filled ⟨some (text ['o', 'k']), some (text ['f', 'a', 'n']), some (text ['r']),
      some (text ['9'])⟩ (-1)).Sized (text ['t']) := by
  have countable : Message.Countable ⟨some (text ['o', 'k']), some (text ['f', 'a', 'n']),
      some (text ['r']), some (text ['9'])⟩ :=
    ⟨by decide, by decide, by decide, by decide, trivial⟩
  exact (publish_sized_iff (text ['t']) (by decide) _ (by simp)).mpr countable (-1) (by decide)

theorem huge_state {state : CStr} (huge : intMax < state.length) (negative : failure < 0)
    (type : CStr) : ¬ (Message.filled ⟨some state, some type, none, none⟩ failure).Sized topic := by
  have longer : state.length ≤ ([] ++ stateIs ++ state).length := by
    rw [List.length_append]
    exact Nat.le_add_left _ _
  have counted : ¬ ([] ++ stateIs ++ state).length ≤ intMax :=
    Nat.not_le.mpr (huge.trans_le longer)
  have first : PubLost (PubBuffer.start.print failure ([] ++ stateIs ++ state)) := by
    apply Or.inr
    apply Or.inr
    simp only [PubBuffer.print, if_neg counted, PubBuffer.start, Int.zero_add]
    constructor
    · rw [if_neg (by omega)]
      exact negative
    · exact decide_eq_false counted
  have second : PubLost ((PubBuffer.start.print failure ([] ++ stateIs ++ state)).field failure
      typeIs (some type)) := first.print
  exact second.not_sized

theorem publish_huge_state : ¬ ∀ failure : Int, failure < 0 →
    (Message.filled ⟨some (List.replicate 2147483648 0x61), some (text ['a']), none, none⟩
      failure).Sized (text ['t']) := by
  intro sized
  have huge : intMax < (List.replicate 2147483648 (0x61 : UInt8)).length := by
    rw [List.length_replicate]
    decide
  exact huge_state huge (by decide) _ (sized (-1) (by decide))

end Messages

end Rs485Gateway
