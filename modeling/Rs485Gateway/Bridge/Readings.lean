import Rs485Gateway.Bridge.CommandRoutes
import Rs485Gateway.Bridge.Publisher

namespace Rs485Gateway

open Interaction Rs485Gateway.Lists Rs485Gateway.Numbers

structure Item where
  key : CStr
  slots : List Reg
  text : Pool → CStr

def pubState (conn : Reg) : CStr := if conn = 1 then alive else disconnect

def Item.message (kind : DeviceKind) (item : Item) (view : Pool) : Message :=
  ⟨some (pubState (view (statusReg kind))), none, some item.key, some (item.text view)⟩

def registerItem (key : CStr) (poolAddress : Reg) : Item :=
  ⟨key, [poolAddress], fun view => decimal (view poolAddress).toNat⟩

def dutyItem (key : CStr) (poolAddress : Reg) : Item :=
  ⟨key, [poolAddress, intFrequencyUpperLimitReg, intFrequencyLowerLimitReg],
    fun view => dutyText (Daemon.frequencyDuty (view poolAddress)
      (view intFrequencyUpperLimitReg) (view intFrequencyLowerLimitReg))⟩

def faultItem : Item :=
  ⟨text "fault_code".toList, [intFaultWarningCodeReg],
    fun view => decimal (view intFaultWarningCodeReg &&& 0xFF).toNat⟩

def warningItem : Item :=
  ⟨text "warning_code".toList, [intFaultWarningCodeReg],
    fun view => decimal (view intFaultWarningCodeReg >>> 8 &&& 0xFF).toNat⟩

def rowItems (kind : DeviceKind) : List Item :=
  (described kind).map fun row => registerItem row.2 row.1.poolAddress

def additionalItems : DeviceKind → List Item
  | .inverter =>
      [dutyItem (text "duty_command".toList) intFrequencyWriteCmdReg] ++
        ([dutyItem (text "output_duty".toList) intOutFrequencyReg] ++
          ([faultItem, warningItem] ++
            [registerItem (text "inverter_node".toList) intInverterInitFlagReg]))
  | .ups => [registerItem (text "ups_node".toList) intUpsInitFlagReg]

def roundItems (kind : DeviceKind) (units : List Bool) : List Item :=
  units.flatMap fun enabled => if enabled then rowItems kind ++ additionalItems kind else []

/-- The pool as the publisher has read it, how many messages it has published, and how many it
had when it read each slot last. -/
structure Progress where
  view : Pool
  sent : Nat
  readAt : Reg → Option Nat

def noProgress : Progress := ⟨fun _ => 0, 0, fun _ => none⟩

def Progress.read (g : Progress) (slot value : Reg) : Progress :=
  { g with view := assign g.view slot value, readAt := assign g.readAt slot (some g.sent) }

def Progress.Fresh (g : Progress) (slot : Reg) : Prop :=
  ∃ sent, g.readAt slot = some sent ∧ g.sent ≤ sent + 1

def progressStep (g : Progress) : Event pubSig → Progress
  | ⟨.poolRead slot, some value⟩ => g.read slot value
  | ⟨.publish _, _⟩ => { g with sent := g.sent + 1 }
  | _ => g

def due (items : List Item) (sent : Nat) : Option Item := items[sent % items.length]?

/-- Each message is the next item, by what was read for it. -/
def pubSpec (kind : DeviceKind) (items : List Item) : Protocol pubSig Progress where
  allow := fun g operation => match operation with
    | .publish message => ∃ item, due items g.sent = some item ∧
        message = item.message kind g.view ∧ ∀ slot ∈ statusReg kind :: item.slots, g.Fresh slot
    | _ => True
  rely := fun _ operation answer => match operation with
    | .poolRead slot => slot.toNat < internalPoolSize → answer ≠ none
    | _ => True
  next := fun g operation answer => progressStep g ⟨operation, answer⟩
  enter := fun _ _ => True
  leave := fun _ _ _ _ => True

def Ahead (items : List Item) (sent : Nat) (part : List Item) : Prop :=
  ∀ i item, part[i]? = some item → due items (sent + i) = some item

def Publishes (kind : DeviceKind) (items part : List Item) (prog : PubProg Unit) : Prop :=
  ∀ g, Ahead items g.sent part →
    Safe (pubSpec kind items) (fun _ after => after.sent = g.sent + part.length) g prog

section Reads

variable {g : Progress} {slot other value : Reg}

@[simp] theorem read_view : (g.read slot value).view slot = value := assign_self ..

@[simp] theorem read_view_other (apart : other ≠ slot) :
    (g.read slot value).view other = g.view other := assign_other _ _ apart

@[simp] theorem read_sent : (g.read slot value).sent = g.sent := rfl

@[simp] theorem read_at : (g.read slot value).readAt slot = some g.sent := assign_self ..

@[simp] theorem read_at_other (apart : other ≠ slot) :
    (g.read slot value).readAt other = g.readAt other := assign_other _ _ apart

theorem read_fresh : (g.read slot value).Fresh slot := ⟨g.sent, read_at, Nat.le_succ _⟩

theorem Progress.Fresh.read (fresh : g.Fresh other) : (g.read slot value).Fresh other := by
  by_cases same : other = slot
  · rw [same]
    exact read_fresh
  · rcases fresh with ⟨sent, at_sent, recent⟩
    exact ⟨sent, (read_at_other same).trans at_sent, recent⟩

end Reads

section Parts

variable {kind : DeviceKind} {items part first second : List Item} {sent : Nat}

theorem Ahead.split (ahead : Ahead items sent (first ++ second)) :
    Ahead items sent first ∧ Ahead items (sent + first.length) second := by
  constructor
  · intro i item here
    have inside := (List.getElem?_eq_some_iff.mp here).1
    apply ahead i item
    rw [List.getElem?_append_left inside]
    exact here
  · intro i item here
    rw [Nat.add_assoc]
    apply ahead
    rw [List.getElem?_append_right (Nat.le_add_right _ _), Nat.add_sub_cancel_left]
    exact here

theorem ahead_round (start : sent % items.length = 0) : Ahead items sent items := by
  intro i item here
  have inside := (List.getElem?_eq_some_iff.mp here).1
  rw [due, Nat.add_mod, start, Nat.zero_add, Nat.mod_mod, Nat.mod_eq_of_lt inside]
  exact here

theorem publishes_nothing : Publishes kind items [] (pure ()) := fun _ _ => rfl

theorem Publishes.bind {one two : PubProg Unit} (head : Publishes kind items first one)
    (tail : Publishes kind items second two) :
    Publishes kind items (first ++ second) (one.bind fun _ => two) := by
  intro g ahead
  rcases ahead.split with ⟨ahead_first, ahead_second⟩
  apply (head g ahead_first).bind
  intro _ after moved
  rw [← moved] at ahead_second
  apply (tail after ahead_second).mono
  intro _ last ends
  rw [ends, moved, List.length_append, Nat.add_assoc]

theorem decimal_valStr (value : Reg) : valStr (decimal value.toNat) = decimal value.toNat := by
  have short := decimal_length_le 4 (value.toNat_lt.trans (by decide))
  exact List.take_of_length_le (short.trans (by decide))

theorem dutyText_valStr (duty : Reg) : valStr (dutyText duty) = dutyText duty := by
  have small := duty.toNat_lt
  have whole := @decimal_length_le (duty.toNat / 100) 2 (by omega)
  apply List.take_of_length_le
  rw [dutyText_hundredths, hundredthsText, List.length_append]
  exact (Nat.add_le_add_right whole 3).trans (by decide)

theorem publishes_poolRegister (key : CStr) {slot : Reg} (inside : slot.toNat < internalPoolSize)
    (apart : statusReg kind ≠ slot) :
    Publishes kind items [registerItem key slot] (publishPoolRegister kind none key slot) := by
  intro g ahead
  have turn : due items g.sent = some (registerItem key slot) := ahead 0 _ rfl
  refine ⟨trivial, fun conn connected => ?_⟩
  rcases Option.ne_none_iff_exists'.mp (connected (by cases kind <;> decide)) with ⟨conn, rfl⟩
  refine ⟨trivial, fun answer read => ?_⟩
  rcases Option.ne_none_iff_exists'.mp (read inside) with ⟨value, rfl⟩
  refine ⟨⟨_, turn, ?_, ?_⟩, fun _ _ => rfl⟩
  · simp only [Item.message, registerItem, pubSpec, progressStep, read_view,
      read_view_other apart, decimal_valStr]
    rfl
  · intro other member
    rcases List.mem_cons.mp member with rfl | own
    · exact read_fresh.read
    · rw [List.mem_singleton.mp own]
      exact read_fresh

theorem publishes_frequencyDuty (key : CStr) {slot : Reg}
    (inside : slot.toNat < internalPoolSize) (apart : slot ≠ statusReg .inverter)
    (below : slot ≠ intFrequencyUpperLimitReg) (above : slot ≠ intFrequencyLowerLimitReg) :
    Publishes .inverter items [dutyItem key slot] (publishFrequencyDuty key slot) := by
  intro g ahead
  have turn : due items g.sent = some (dutyItem key slot) := ahead 0 _ rfl
  refine ⟨trivial, fun frequency first => ⟨trivial, fun upper second => ⟨trivial,
    fun lower third => ⟨trivial, fun conn fourth => ?_⟩⟩⟩⟩
  rcases Option.ne_none_iff_exists'.mp (first inside) with ⟨frequency, rfl⟩
  rcases Option.ne_none_iff_exists'.mp (second (by decide)) with ⟨upper, rfl⟩
  rcases Option.ne_none_iff_exists'.mp (third (by decide)) with ⟨lower, rfl⟩
  rcases Option.ne_none_iff_exists'.mp (fourth (by decide)) with ⟨conn, rfl⟩
  have limits : intFrequencyUpperLimitReg ≠ intFrequencyLowerLimitReg := by decide
  have upper_status : intFrequencyUpperLimitReg ≠ statusReg .inverter := by decide
  have lower_status : intFrequencyLowerLimitReg ≠ statusReg .inverter := by decide
  refine ⟨⟨_, turn, ?_, ?_⟩, fun _ _ => rfl⟩
  · simp only [Item.message, dutyItem, pubSpec, progressStep, read_view, read_view_other apart,
      read_view_other below, read_view_other above, read_view_other limits,
      read_view_other upper_status, read_view_other lower_status, dutyText_valStr]
    rfl
  · intro other member
    simp only [dutyItem, List.mem_cons, List.not_mem_nil, or_false] at member
    rcases member with rfl | rfl | rfl | rfl
    · exact read_fresh
    · exact read_fresh.read.read.read
    · exact read_fresh.read.read
    · exact read_fresh.read

theorem publishes_faultWarningCode :
    Publishes .inverter items [faultItem, warningItem] publishFaultWarningCode := by
  intro g ahead
  have first : due items g.sent = some faultItem := ahead 0 _ rfl
  have second : due items (g.sent + 1) = some warningItem := ahead 1 _ rfl
  refine ⟨trivial, fun raw read => ⟨trivial, fun conn connected => ?_⟩⟩
  rcases Option.ne_none_iff_exists'.mp (read (by decide)) with ⟨raw, rfl⟩
  rcases Option.ne_none_iff_exists'.mp (connected (by decide)) with ⟨conn, rfl⟩
  have apart : intFaultWarningCodeReg ≠ statusReg .inverter := by decide
  refine ⟨⟨_, first, ?_, ?_⟩, fun _ _ => ⟨⟨_, second, ?_, ?_⟩, fun _ _ => rfl⟩⟩
  · simp only [Item.message, faultItem, pubSpec, progressStep, read_view, read_view_other apart,
      decimal_valStr]
    rfl
  · intro other member
    rcases List.mem_cons.mp member with rfl | own
    · exact read_fresh
    · rw [List.mem_singleton.mp own]
      exact read_fresh.read
  · simp only [Item.message, warningItem, pubSpec, progressStep, read_view, read_view_other apart,
      decimal_valStr]
    rfl
  · -- the two codes come from one read
    have before : ∀ slot, slot = statusReg .inverter ∨ slot = intFaultWarningCodeReg →
        ((g.read intFaultWarningCodeReg raw).read (statusReg .inverter) conn).readAt slot =
          some g.sent := by
      rintro slot (rfl | rfl)
      · exact read_at
      · exact (read_at_other apart).trans read_at
    intro other member
    exact ⟨g.sent, before other (by simpa [warningItem] using member), le_rfl⟩

theorem publishes_rows (rows : List (DeviceRegisterMapping × CStr))
    (plain : ∀ row ∈ rows, row.1.poolAddress.toNat < internalPoolSize ∧
      statusReg kind ≠ row.1.poolAddress) :
    Publishes kind items (rows.map fun row => registerItem row.2 row.1.poolAddress)
      (publishRows kind rows) := by
  induction rows with
  | nil => exact publishes_nothing
  | cons row rest ih =>
      have here := plain row List.mem_cons_self
      have later := ih fun next member => plain next (List.mem_cons_of_mem _ member)
      exact (publishes_poolRegister row.2 here.1 here.2).bind later

theorem publishes_allPoolRegister :
    Publishes kind items (rowItems kind) (publishAllPoolRegister kind) := by
  apply publishes_rows
  intro row member
  have inTable := (List.of_mem_zip member).1
  refine ⟨(unitProfile_wellMapped kind).inside _ inTable, fun same => ?_⟩
  exact Daemon.row_unflagged kind _ inTable ⟨kind, .inl same.symm⟩

theorem publishes_additionalItem :
    Publishes kind items (additionalItems kind) (publishAdditionalItem kind) := by
  cases kind with
  | inverter =>
      have command := @publishes_frequencyDuty items (text "duty_command".toList)
        intFrequencyWriteCmdReg (by decide) (by decide) (by decide) (by decide)
      have output := @publishes_frequencyDuty items (text "output_duty".toList)
        intOutFrequencyReg (by decide) (by decide) (by decide) (by decide)
      have node := @publishes_poolRegister .inverter items (text "inverter_node".toList)
        intInverterInitFlagReg (by decide) (by decide)
      exact command.bind (output.bind (publishes_faultWarningCode.bind node))
  | ups => exact publishes_poolRegister _ (by decide) (by decide)

theorem publishes_round (units : List Bool) :
    Publishes kind items (roundItems kind units) (pubRound kind units) := by
  induction units with
  | nil => exact publishes_nothing
  | cons enabled rest ih =>
      rw [roundItems, List.flatMap_cons]
      cases enabled with
      | false => exact ih
      | true =>
          have whole := (@publishes_allPoolRegister kind items).bind publishes_additionalItem
          have next := whole.bind ih
          rw [Prog.bind_assoc] at next
          exact next

end Parts

section Texts

variable {kind : DeviceKind} {item : Item}

structure Visible (room : Nat) (word : CStr) : Prop where
  nonempty : word ≠ []
  short : word.length ≤ room
  printable : ∀ byte ∈ word, 0x20 < byte.toNat

instance (room : Nat) (word : CStr) : Decidable (Visible room word) :=
  decidable_of_iff
    (word ≠ [] ∧ word.length ≤ room ∧ (word.all fun byte => 0x20 < byte.toNat) = true)
    ⟨fun all => ⟨all.1, all.2.1, by simpa using all.2.2⟩,
      fun all => ⟨all.nonempty, all.short, by simpa using all.printable⟩⟩

theorem Visible.word {room : Nat} {word : CStr} (visible : Visible room word) : IsWord word := by
  have apart {byte : UInt8} (control : byte.toNat ≤ 0x20) : byte ∉ word := fun member =>
    absurd (visible.printable byte member) (Nat.not_lt.mpr control)
  exact ⟨visible.nonempty, apart (by decide), apart (by decide), apart (by decide),
    apart (by decide)⟩

structure Item.Sendable (item : Item) : Prop where
  key : Visible 64 item.key
  text : ∀ view, Visible 7 (item.text view)

theorem visible_decimal (value : Reg) : Visible 7 (decimal value.toNat) where
  nonempty := by
    rcases decimal_first value.toNat with ⟨digit, rest, split, -⟩
    simp [split]
  short := (decimal_length_le 4 (value.toNat_lt.trans (by decide))).trans (by decide)
  printable byte member := isDigitOf_visible (decimal_digits _ byte member)

theorem visible_dutyText (duty : Reg) : Visible 7 (dutyText duty) := by
  rw [dutyText_hundredths]
  have small := duty.toNat_lt
  have whole := @decimal_length_le (duty.toNat / 100) 2 (by omega)
  constructor
  · simp [hundredthsText]
  · rw [hundredthsText, List.length_append]
    exact (Nat.add_le_add_right whole 3).trans (by decide)
  · intro byte member
    rcases List.mem_append.mp member with front | back
    · exact isDigitOf_visible (decimal_digits _ byte front)
    · simp only [List.mem_cons, List.not_mem_nil, or_false] at back
      rcases back with rfl | rfl | rfl
      · decide
      · exact isDigitOf_visible (isDigitOf_decimalDigit (Nat.mod_lt _ (by decide)))
      · exact isDigitOf_visible (isDigitOf_decimalDigit (Nat.mod_lt _ (by decide)))

theorem visible_descriptions (kind : DeviceKind) :
    ∀ description ∈ descriptions kind, Visible 64 description := by
  cases kind <;> decide +kernel

theorem additionalItems_sendable (kind : DeviceKind) :
    ∀ item ∈ additionalItems kind, item.Sendable := by
  intro item member
  cases kind with
  | inverter =>
      simp only [additionalItems, List.cons_append, List.nil_append,
        List.mem_cons, List.not_mem_nil, or_false] at member
      rcases member with rfl | rfl | rfl | rfl | rfl
      · exact ⟨by decide, fun _ => visible_dutyText _⟩
      · exact ⟨by decide, fun _ => visible_dutyText _⟩
      · exact ⟨by decide, fun _ => visible_decimal _⟩
      · exact ⟨by decide, fun _ => visible_decimal _⟩
      · exact ⟨by decide, fun _ => visible_decimal _⟩
  | ups =>
      rcases List.mem_singleton.mp member with rfl
      exact ⟨by decide, fun _ => visible_decimal _⟩

theorem roundItems_sendable (units : List Bool) : ∀ item ∈ roundItems kind units,
    item.Sendable := by
  intro item member
  rcases List.mem_flatMap.mp member with ⟨enabled, -, inside⟩
  cases enabled with
  | false => cases inside
  | true =>
      rcases List.mem_append.mp inside with row | additional
      · rcases List.mem_map.mp row with ⟨described, inTable, rfl⟩
        exact ⟨visible_descriptions kind _ (List.of_mem_zip inTable).2, fun _ => visible_decimal _⟩
      · exact additionalItems_sendable kind item additional

theorem visible_pubState (conn : Reg) : Visible 10 (pubState conn) := by
  unfold pubState
  split <;> decide

theorem Item.Sendable.plain (sendable : item.Sendable) (view : Pool) :
    (item.message kind view).Plain where
  words content member := by
    simp only [Item.message, Message.contents, Option.toList_some, Option.toList_none,
      List.append_nil, List.mem_append, List.mem_singleton] at member
    rcases member with (rfl | rfl) | rfl
    · exact (visible_pubState _).word
    · exact sendable.key.word
    · exact (sendable.text view).word
  named := by simp [Item.message, Message.named]
  valued := Option.some_ne_none _
  fits := by
    have state := (visible_pubState (view (statusReg kind))).short
    have key := sendable.key.short
    have value := (sendable.text view).short
    have length : (item.message kind view).encoded.length =
        (pubState (view (statusReg kind))).length + item.key.length +
          (item.text view).length + 18 := by
      simp [Item.message, Message.encoded, Message.words, joined, stateIs, keyIs, valueIs,
        Rs485Gateway.text]
      omega
    rw [length, pubDataCap, pubDataSize]
    omega

end Texts

inductive GatewayThread where
  | daemon
  | publisher (kind : DeviceKind)
  deriving DecidableEq

abbrev Move := ThreadId × Choice

namespace Daemon

def gatewayPerform (daemon : Daemon) (t : GatewayThread) (move : Move) (s : DaemonConfig) :
    (operation : PubOp) → Option (Option operation.Res × DaemonConfig)
  | .poolRead slot => some (some (poolReadRegister s.shared.pool slot), s)
  | .publish _ => some (some (), s)
  | .moveDaemon =>
      match t with
      | .daemon => (daemon.system.step s move.1 move.2).map fun s' => (some s'.history, s')
      | _ => none

/-- The daemon and the two publishers on one pool; `units` are the `enabled` fields. -/
def gateway (daemon : Daemon) (units : DeviceKind → List Bool) :
    System pubSig GatewayThread DaemonConfig Move Unit where
  code := fun loop => loop.elim
  perform := fun t operation move s => daemon.gatewayPerform t move s operation
  resume := fun t _ _ => match t with
    | .daemon => some (Prog.op (S := pubSig) .moveDaemon fun _ => .ret ())
    | .publisher kind => some (pubRound kind (units kind))

def gatewayStart (daemon : Daemon) : Config pubSig GatewayThread DaemonConfig Unit where
  shared := daemon.start
  control := fun _ => .ret ()
  history := []

end Daemon

abbrev GatewayHistory := List (GatewayThread × Event pubSig)

def daemonHistory : GatewayHistory → History
  | [] => []
  | (_, ⟨.moveDaemon, moved⟩) :: _ => moved
  | _ :: older => daemonHistory older

def progress (kind : DeviceKind) : GatewayHistory → Progress
  | [] => noProgress
  | (t, event) :: older =>
      if t = .publisher kind then progressStep (progress kind older) event
      else progress kind older

def PoolAnswered : GatewayHistory → Prop
  | [] => True
  | (_, ⟨.poolRead slot, answer⟩) :: older =>
      answer = poolReadRegister (poolOf (daemonHistory older)) slot ∧ PoolAnswered older
  | (_, ⟨.moveDaemon, moved⟩) :: older => daemonHistory older <:+ moved ∧ PoolAnswered older
  | _ :: older => PoolAnswered older

theorem progress_ghost (kind : DeviceKind) (items : List Item) (history : GatewayHistory) :
    (pubSpec kind items).ghost noProgress (.publisher kind) history = progress kind history := by
  induction history with
  | nil => rfl
  | cons entry older ih =>
      rcases entry with ⟨t, operation, answer⟩
      rw [Protocol.ghost, ih]
      rfl

section Runs

variable {daemon : Daemon} {units : DeviceKind → List Bool}
  {c c' : Config pubSig GatewayThread DaemonConfig Unit} {kind : DeviceKind} {items : List Item}

structure Tracks (daemon : Daemon) (c : Config pubSig GatewayThread DaemonConfig Unit) :
    Prop where
  reachable : daemon.Reachable c.shared
  history : c.shared.history = daemonHistory c.history
  answered : PoolAnswered c.history

theorem Tracks.step {t : GatewayThread} {move : Move}
    (moved : (daemon.gateway units).Step c t move c') (tracks : Tracks daemon c) :
    Tracks daemon c' := by
  rcases tracks with ⟨reachable, history, answered⟩
  cases moved with
  | resume => exact ⟨reachable, history, answered⟩
  | enter => exact ⟨reachable, history, answered⟩
  | @block operation next shared atOp performed =>
      cases operation with
      | moveDaemon =>
          cases t with
          | daemon =>
              rcases Option.map_eq_some_iff.mp performed with ⟨_, _, pair⟩
              cases pair
          | publisher => cases performed
      | _ => cases performed
  | @complete operation next answer shared atOp performed =>
      cases operation with
      | poolRead slot =>
          cases performed
          refine ⟨reachable, history, ?_, answered⟩
          rw [(reachable_pool reachable).1, history]
      | publish message =>
          cases performed
          exact ⟨reachable, history, answered⟩
      | moveDaemon =>
          cases t with
          | daemon =>
              rcases Option.map_eq_some_iff.mp performed with ⟨after, stepped, pair⟩
              cases pair
              refine ⟨System.Reaches.step reachable stepped, rfl, ?_, answered⟩
              rw [← history]
              exact System.step_history stepped
          | publisher => cases performed

theorem reachable_tracks (reached : (daemon.gateway units).Reaches daemon.gatewayStart c) :
    Tracks daemon c :=
  System.Reaches.induct ⟨.refl, rfl, trivial⟩ (fun _ _ _ _ _ tracks moved => tracks.step moved)
    reached

theorem PoolAnswered.tail {newer older : GatewayHistory}
    (answered : PoolAnswered (newer ++ older)) : PoolAnswered older := by
  induction newer with
  | nil => exact answered
  | cons entry newer ih =>
      rcases entry with ⟨t, operation, answer⟩
      cases operation with
      | poolRead slot => exact ih answered.2
      | publish message => exact ih answered
      | moveDaemon => exact ih answered.2

theorem poolAnswered_trusted {history : GatewayHistory} (answered : PoolAnswered history) :
    (pubSpec kind items).Trusted noProgress (.publisher kind) history := by
  induction history with
  | nil => trivial
  | cons entry older ih =>
      rcases entry with ⟨t, operation, answer⟩
      cases operation with
      | poolRead slot =>
          refine ⟨fun _ inside => ?_, ih answered.2⟩
          rw [answered.1, poolReadRegister, if_neg (Nat.not_le.mpr inside)]
          exact Option.some_ne_none _
      | publish message => exact ⟨fun _ => trivial, ih answered⟩
      | moveDaemon => exact ⟨fun _ => trivial, ih answered.2⟩

theorem reachable_published (reached : (daemon.gateway units).Reaches daemon.gatewayStart c)
    (kind : DeviceKind) : (pubSpec kind (roundItems kind (units kind))).Kept noProgress
      (.publisher kind) c.history := by
  let items := roundItems kind (units kind)
  let atHome := fun (_ : Unit) (g : Progress) => g.sent % items.length = 0
  have resumes (move : Move) (home : Unit) (prog : PubProg Unit)
      (resumed : (daemon.gateway units).resume (.publisher kind) move home = some prog) :
      ∀ g, atHome home g → Safe (pubSpec kind items) atHome g prog := by
    intro g start
    cases resumed
    apply (publishes_round (units kind) g (ahead_round start)).mono
    intro _ after ends
    change after.sent % items.length = 0
    rw [ends, Nat.add_mod_right]
    exact start
  have starts : SafeThread (pubSpec kind items) noProgress atHome (.publisher kind)
      daemon.gatewayStart := Nat.zero_mod _
  have verified : (pubSpec kind items).Verifies (daemon.gateway units).code :=
    fun loop => loop.elim
  have trusted : (pubSpec kind items).Trusted noProgress (.publisher kind) c.history :=
    poolAnswered_trusted (reachable_tracks reached).answered
  exact (System.Reaches.guarantee verified resumes rfl starts reached trusted).2

end Runs

def publishedBy (kind : DeviceKind) : GatewayHistory → List Message
  | [] => []
  | (t, ⟨.publish message, _⟩) :: older =>
      publishedBy kind older ++ if t = .publisher kind then [message] else []
  | _ :: older => publishedBy kind older

/-- The publisher read the value with this history behind it, after its last message but one,
and the pool held it then. -/
def ReadAfter (kind : DeviceKind) (earlier history : GatewayHistory) (slot value : Reg) : Prop :=
  (∃ newer, history = newer ++ (.publisher kind, ⟨.poolRead slot, some value⟩) :: earlier) ∧
    poolOf (daemonHistory earlier) slot = value ∧
    (publishedBy kind history).length ≤ (publishedBy kind earlier).length + 1

/-- By the last write of the row's slot: none yet, the mark of a lost device, or the store of
what a device of the kind had returned for the row. -/
def RowValue (kind : DeviceKind) (history : History) (row : DeviceRegisterMapping)
    (value : Reg) : Prop :=
  (lastWrite row.poolAddress history = none ∧ value = 0) ∨
    (marked row.poolAddress history = true ∧ value = commLossMarker) ∨
    (stored row.poolAddress history = true ∧
      ∃ (index : Nat) (line : Option CStr) (read : DeviceRead),
        (.unit ⟨kind, index⟩, ⟨.readHolding line read.start read.count, read.answer⟩) ∈ history ∧
          read.value? row.deviceAddress = some value)

section Provenance

variable {daemon : Daemon} {kind : DeviceKind} {history newer older : GatewayHistory}
  {slot value : Reg}

theorem progress_sent (kind : DeviceKind) (history : GatewayHistory) :
    (progress kind history).sent = (publishedBy kind history).length := by
  induction history with
  | nil => rfl
  | cons entry older ih =>
      rcases entry with ⟨t, operation, answer⟩
      rw [progress]
      cases operation with
      | poolRead slot =>
          change _ = (publishedBy kind older).length
          rw [← ih]
          cases answer <;> split <;> rfl
      | publish message =>
          rw [publishedBy, List.length_append, ← ih]
          split <;> rfl
      | moveDaemon =>
          change _ = (publishedBy kind older).length
          rw [← ih]
          split <;> rfl

theorem progress_read {sent : Nat} (known : (progress kind history).readAt slot = some sent) :
    ∃ newer older, history = newer ++ (.publisher kind,
        ⟨.poolRead slot, some ((progress kind history).view slot)⟩) :: older ∧
      (progress kind older).sent = sent := by
  induction history with
  | nil => cases known
  | cons entry rest ih =>
      rcases entry with ⟨t, operation, answer⟩
      have later (unchanged : (progress kind ((t, ⟨operation, answer⟩) :: rest)).view slot =
            (progress kind rest).view slot)
          (known : (progress kind rest).readAt slot = some sent) :
          ∃ newer older, (t, ⟨operation, answer⟩) :: rest = newer ++ (.publisher kind,
              ⟨.poolRead slot, some ((progress kind ((t, ⟨operation, answer⟩) :: rest)).view
                slot)⟩) :: older ∧ (progress kind older).sent = sent := by
        rcases ih known with ⟨newer, older, split, count⟩
        refine ⟨(t, ⟨operation, answer⟩) :: newer, older, ?_, count⟩
        rw [unchanged, List.cons_append, ← split]
      by_cases own : t = .publisher kind
      · subst own
        rw [progress, if_pos rfl] at known
        rw [progress, if_pos rfl] at later ⊢
        cases operation with
        | poolRead read =>
            cases answer with
            | none => exact later rfl known
            | some value =>
                by_cases same : slot = read
                · subst same
                  have count : (progress kind rest).sent = sent :=
                    Option.some.inj (read_at.symm.trans known)
                  exact ⟨[], rest, by rw [progressStep, read_view]; rfl, count⟩
                · exact later (read_view_other same) ((read_at_other same).symm.trans known)
        | publish message => exact later rfl known
        | moveDaemon => exact later rfl known
      · rw [progress, if_neg own] at known
        rw [progress, if_neg own] at later ⊢
        exact later rfl known

theorem daemonHistory_suffix (answered : PoolAnswered (newer ++ older)) :
    daemonHistory older <:+ daemonHistory (newer ++ older) := by
  induction newer with
  | nil => exact List.suffix_rfl
  | cons entry newer ih =>
      rcases entry with ⟨t, operation, answer⟩
      cases operation with
      | poolRead slot => exact ih answered.2
      | publish message => exact ih answered
      | moveDaemon => exact (ih answered.2).trans answered.1

theorem fresh_read (answered : PoolAnswered history) (fresh : (progress kind history).Fresh slot) :
    ∃ earlier, ReadAfter kind earlier history slot ((progress kind history).view slot) := by
  rcases fresh with ⟨sent, known, recent⟩
  rcases progress_read known with ⟨newer, older, split, count⟩
  refine ⟨older, ⟨newer, split⟩, ?_, ?_⟩
  · generalize (progress kind history).view slot = value at split
    rw [split] at answered
    have held := answered.tail.1
    rw [poolReadRegister] at held
    split at held
    · cases held
    · exact (Option.some.inj held).symm
  · rw [← progress_sent, ← progress_sent, count]
    exact recent

theorem ReadAfter.row {c : DaemonConfig} {earlier : GatewayHistory}
    (read : ReadAfter kind earlier history slot value) (answered : PoolAnswered history)
    (standard : daemon.Standard) (reached : daemon.Reachable c)
    (past : daemonHistory history <:+ c.history) {row : DeviceRegisterMapping}
    (inTable : row ∈ (unitProfile kind).table) (own : row.poolAddress = slot) :
    RowValue kind (daemonHistory earlier) row value := by
  rcases read with ⟨⟨newer, split⟩, rfl, -⟩
  subst own
  rw [List.append_cons] at split
  subst split
  rcases (daemonHistory_suffix answered).trans past with ⟨since, daemonSplit⟩
  cases slot_origin row.poolAddress (daemonHistory earlier) with
  | initial _ zero unwritten => exact .inl ⟨unwritten, zero⟩
  | scanned holds =>
      exact .inr (.inr ⟨holds, Daemon.stored_returned standard reached daemonSplit.symm inTable
        holds⟩)
  | plain _ holds =>
      exact .inr (.inl ⟨holds, Daemon.marked_value reached daemonSplit.symm inTable holds⟩)

end Provenance

section Results

variable {daemon : Daemon} {units : DeviceKind → List Bool} {kind : DeviceKind}
  {c : Config pubSig GatewayThread DaemonConfig Unit}

/-- Whatever the daemon and the other publisher do meanwhile: the messages of a publisher are the
items of its rounds in their order, each one sendable and made of values the pool held when they
were read for it; what it tells of a register is what a device had returned by then, unless nothing
had been written to the slot or the device was lost. -/
theorem readings_sound (standard : daemon.Standard)
    (reached : (daemon.gateway units).Reaches daemon.gatewayStart c)
    {newer older : GatewayHistory} {message : Message}
    (split : c.history = newer ++ (.publisher kind, ⟨.publish message, ()⟩) :: older) :
    ∃ item view, due (roundItems kind (units kind)) (publishedBy kind older).length = some item ∧
      message = item.message kind view ∧ message.Plain ∧
      ∀ slot ∈ statusReg kind :: item.slots, ∃ earlier,
        ReadAfter kind earlier older slot (view slot) ∧
        ∀ row ∈ (unitProfile kind).table, row.poolAddress = slot →
          RowValue kind (daemonHistory earlier) row (view slot) := by
  rcases reachable_tracks reached with ⟨reachable, history, answered⟩
  have kept := reachable_published reached kind
  rw [split] at kept answered history
  rcases kept.allowed with ⟨item, turn, rfl, fresh⟩
  rw [progress_ghost] at turn fresh ⊢
  rw [progress_sent] at turn
  have sendable := roundItems_sendable (units kind) item (List.mem_of_getElem? turn)
  have before : PoolAnswered older := by
    have tail := answered.tail
    exact tail
  have past : daemonHistory older <:+ c.shared.history := by
    rw [List.append_cons] at answered history
    rw [history]
    exact daemonHistory_suffix answered
  refine ⟨item, _, turn, rfl, sendable.plain _, ?_⟩
  intro slot member
  rcases fresh_read before (fresh slot member) with ⟨earlier, read⟩
  refine ⟨earlier, read, ?_⟩
  intro row inTable own
  exact read.row before standard reachable past inTable own

def publishedLast : GatewayHistory → Option Message
  | (.publisher .inverter, ⟨.publish message, _⟩) :: _ => some message
  | _ => none

theorem publishedLast_split {history : GatewayHistory} {message : Message}
    (last : publishedLast history = some message) :
    ∃ older, history = [] ++ (.publisher .inverter, ⟨.publish message, ()⟩) :: older := by
  rw [publishedLast.eq_def] at last
  split at last
  · rename_i older
    cases last
    exact ⟨older, rfl⟩
  · cases last

def oneEnabled : DeviceKind → List Bool
  | .inverter => [true]
  | .ups => []

/-- The inverter connects and answers the first two reads of a scan, then its publisher starts a
round: two messages, the second with a register of the second read. -/
def scannedRound : List (GatewayThread × Move) :=
  ((Daemon.inverterSteps [Choice.go, .connected .ok, .go, .go, .go, .go, .go, .go,
      .answer (some [900]), .go, .answer (some [50, 60]), .go, .go]).flatMap fun move =>
        [(GatewayThread.daemon, move), (GatewayThread.daemon, move)]) ++
    (Daemon.inverterSteps (List.replicate 7 Choice.go)).map fun move =>
      (GatewayThread.publisher .inverter, move)

theorem readings_sound_scanned : ∃ (older : GatewayHistory) (message : Message),
    message.state = some alive ∧ message.value = some (text "50".toList) ∧ ∃ item view,
      due (roundItems .inverter [true]) (publishedBy .inverter older).length = some item ∧
      message = item.message .inverter view ∧ message.Plain ∧
      ∀ slot ∈ statusReg .inverter :: item.slots, ∃ earlier,
        ReadAfter .inverter earlier older slot (view slot) ∧
        ∀ row ∈ (unitProfile .inverter).table, row.poolAddress = slot →
          RowValue .inverter (daemonHistory earlier) row (view slot) := by
  rcases System.reaches_of_check (Daemon.loneInverter.gateway oneEnabled)
    Daemon.loneInverter.gatewayStart scannedRound
    (fun c => (publishedLast c.history).any fun message =>
      message.state = some alive ∧ message.value = some (text "50".toList))
    (by decide +kernel) with ⟨c, reached, checked⟩
  rcases (Option.any_eq_true _ _).mp checked with ⟨message, last, told⟩
  rcases publishedLast_split last with ⟨older, split⟩
  rcases of_decide_eq_true told with ⟨connected, value⟩
  exact ⟨older, message, connected, value,
    readings_sound Daemon.loneInverter_standard reached split⟩

end Results

end Rs485Gateway
