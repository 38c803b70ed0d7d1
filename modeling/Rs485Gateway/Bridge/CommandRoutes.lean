import Rs485Gateway.Bridge.DutyText
import Rs485Gateway.Cmos.Delivery
import Rs485Gateway.Cmos.RoundTrip
import Rs485Gateway.Lists.Shares

namespace Rs485Gateway

open Rs485Gateway.Lists

/-- One `cmos_sub_add` of a subscriber thread. The callback's answer is the command it makes of
the value; none where the conversion of the value is undefined. -/
structure Subscription (Cmd : Type) where
  topic : CStr
  type : CStr
  key : CStr
  callback : CStr → Option Cmd

def controlOutput : CStr := text "control_output".toList
def hmiSystemCmd : CStr := text "hmi_system_cmd".toList

def typeCommand : CStr := text "command".toList
def typeCtrl : CStr := text "ctrl".toList
def typeInitial : CStr := text "initial".toList

def keyOperation : CStr := text "inv_operation_commands".toList
def keyFrequencyWrite : CStr := text "inv_frequency_write_commands".toList
def keyFaultControl : CStr := text "inv_fault_Control_commands".toList
def keyMainPump : CStr := text "main_pump".toList
def keyInitStatus : CStr := text "request_init_status".toList
def keyBypass : CStr := text "bypass".toList
def keySystemReboot : CStr := text "system_reboot".toList

/-- What `cmos_sub_thread` of the inverter bridge adds, in its order. -/
def inverterSubscriptions : List (Subscription InverterCommand) :=
  [⟨controlOutput, typeCommand, keyOperation, fun value => some (.operation (strtoul value))⟩,
    ⟨controlOutput, typeCommand, keyFrequencyWrite,
      fun value => some (.frequencyWrite (strtoul value))⟩,
    ⟨controlOutput, typeCommand, keyFaultControl,
      fun value => some (.faultControl (strtoul value))⟩,
    ⟨controlOutput, typeCtrl, keyMainPump, fun value => (dutyVal value).map .mainPump⟩,
    ⟨controlOutput, typeInitial, keyInitStatus,
      fun value => some (.initInverter (strtoul value))⟩,
    ⟨controlOutput, typeCtrl, keyBypass, fun value => some (.bypass (strtoul value))⟩]

def upsSubscriptions : List (Subscription UpsCommand) :=
  [⟨controlOutput, typeInitial, keyInitStatus, fun value => some (.initUps (strtoul value))⟩,
    ⟨hmiSystemCmd, typeCommand, keySystemReboot,
      fun value => some (.rebootUps (strtoul value))⟩]

def subscriptions : (kind : DeviceKind) → List (Subscription (Command kind))
  | .inverter => inverterSubscriptions
  | .ups => upsSubscriptions

section Slots

variable {Cmd : Type}

/-- The slots after the calls; the result of `cmos_sub_add` is not looked at. -/
def subscribed (subs : List (Subscription Cmd)) : List SubSlot :=
  subs.foldl (fun slots sub =>
    (cmosSubAdd slots sub.topic none (some sub.type) (some sub.key)).getD slots) []

def Subscription.slot (sub : Subscription Cmd) : SubSlot where
  topic := sub.topic
  filterState := []
  filterType := sub.type
  filterKey := sub.key
  cb := true
  used := true

structure Subscription.Fits (sub : Subscription Cmd) : Prop where
  topicWord : IsWord sub.topic
  typeGiven : sub.type ≠ []
  keyGiven : sub.key ≠ []
  topicShort : sub.topic.length ≤ fieldCap
  typeShort : sub.type.length ≤ fieldCap
  keyShort : sub.key.length ≤ fieldCap

structure Distinct (subs : List (Subscription Cmd)) : Prop where
  few : subs.length ≤ cmMaxSubSlots
  fits : ∀ sub ∈ subs, sub.Fits
  apart : (subs.map fun sub => (sub.type, sub.key)).Nodup

theorem subscribed_slots {subs : List (Subscription Cmd)} (few : subs.length ≤ cmMaxSubSlots)
    (fits : ∀ sub ∈ subs, sub.Fits) : subscribed subs = subs.map Subscription.slot := by
  induction subs using List.reverseRecOn with
  | nil => rfl
  | append_singleton subs sub ih =>
      rw [List.length_append, List.length_singleton] at few
      have before := ih (by omega) fun other member => fits other (List.mem_append_left _ member)
      have added := fits sub (by simp)
      have room : ¬ (subs.map Subscription.slot).length ≥ cmMaxSubSlots := by
        rw [List.length_map]
        omega
      have folded : subscribed (subs ++ [sub]) =
          (cmosSubAdd (subscribed subs) sub.topic none (some sub.type) (some sub.key)).getD
            (subscribed subs) := List.foldl_concat ..
      rw [folded, before, cmosSubAdd, if_neg room]
      simp only [Option.getD_some, List.map_append, List.map_singleton,
        List.take_of_length_le added.topicShort, List.take_of_length_le added.typeShort,
        List.take_of_length_le added.keyShort, Option.getD_none, List.take_nil]
      rfl

theorem Distinct.index_unique {subs : List (Subscription Cmd)} (table : Distinct subs) {s t : Nat}
    {one two : Subscription Cmd} (here : subs[s]? = some one) (there : subs[t]? = some two)
    (types : one.type = two.type) (keys : one.key = two.key) : s = t := by
  have inside : s < (subs.map fun sub => (sub.type, sub.key)).length := by
    rw [List.length_map]
    exact (List.getElem?_eq_some_iff.mp here).1
  apply (List.getElem?_inj inside table.apart).mp
  rw [List.getElem?_map, List.getElem?_map, here, there]
  simp [types, keys]

theorem inverterSubscriptions_distinct : Distinct inverterSubscriptions where
  few := by decide
  fits sub member := by
    simp only [inverterSubscriptions, List.mem_cons, List.not_mem_nil, or_false] at member
    rcases member with rfl | rfl | rfl | rfl | rfl | rfl
    all_goals exact ⟨by constructor <;> decide, by decide, by decide, by decide, by decide,
      by decide⟩
  apart := by decide

theorem upsSubscriptions_distinct : Distinct upsSubscriptions where
  few := by decide
  fits sub member := by
    simp only [upsSubscriptions, List.mem_cons, List.not_mem_nil, or_false] at member
    rcases member with rfl | rfl
    all_goals exact ⟨by constructor <;> decide, by decide, by decide, by decide, by decide,
      by decide⟩
  apart := by decide

theorem subscriptions_distinct (kind : DeviceKind) : Distinct (subscriptions kind) := by
  cases kind with
  | inverter => exact inverterSubscriptions_distinct
  | ups => exact upsSubscriptions_distinct

end Slots

structure Message.Plain (message : Message) : Prop where
  words : ∀ content ∈ message.contents, IsWord content
  named : message.named ≠ []
  valued : message.value ≠ none
  fits : message.encoded.length ≤ pubDataCap

def Subscription.takes {Cmd : Type} (sub : Subscription Cmd) (topic : CStr) (message : Message) :
    Option CStr :=
  if sub.topic = topic ∧ message.type = some sub.type ∧ message.key = some sub.key then
    message.value
  else none

/-- The slot a message is for, and the value it brings. -/
def route {Cmd : Type} (subs : List (Subscription Cmd)) (topic : CStr) (message : Message) :
    Option (Nat × CStr) :=
  subs.zipIdx.findSome? fun sub => (sub.1.takes topic message).map fun value => (sub.2, value)

def Delivery.handled (d : Delivery) : List (Nat × CStr) :=
  d.calls.map fun call => (call.slot, call.args.2)

section Routes

variable {Cmd : Type} {subs : List (Subscription Cmd)} {sub : Subscription Cmd} {s : Nat}
  {topic value : CStr} {message : Message}

theorem Subscription.takes_some (taken : sub.takes topic message = some value) :
    message.type = some sub.type ∧ message.key = some sub.key := by
  rw [Subscription.takes] at taken
  split at taken
  · rename_i agrees
    exact agrees.2
  · cases taken

theorem takes_once (table : Distinct subs) {t : Nat} {other : Subscription Cmd} {more : CStr}
    (here : subs[s]? = some sub) (there : subs[t]? = some other)
    (taken : sub.takes topic message = some value) (again : other.takes topic message = some more) :
    s = t := by
  rcases Subscription.takes_some taken with ⟨type, key⟩
  rcases Subscription.takes_some again with ⟨type', key'⟩
  exact table.index_unique here there (Option.some.inj (type.symm.trans type'))
    (Option.some.inj (key.symm.trans key'))

theorem route_some (table : Distinct subs) :
    route subs topic message = some (s, value) ↔
      ∃ sub, subs[s]? = some sub ∧ sub.takes topic message = some value := by
  have found {t : Nat} {more : CStr} (routed : route subs topic message = some (t, more)) :
      ∃ sub, subs[t]? = some sub ∧ sub.takes topic message = some more := by
    rcases List.exists_of_findSome?_eq_some routed with ⟨⟨sub, index⟩, member, pair⟩
    rcases Option.map_eq_some_iff.mp pair with ⟨value, taken, same⟩
    cases same
    have here := List.mem_zipIdx_iff_getElem?.mp member
    exact ⟨sub, here, taken⟩
  constructor
  · exact found
  · rintro ⟨sub, here, taken⟩
    cases routed : route subs topic message with
    | none =>
        have missed := List.findSome?_eq_none_iff.mp routed (sub, s)
          (List.mem_zipIdx_iff_getElem?.mpr here)
        rw [taken] at missed
        cases missed
    | some item =>
        rcases item with ⟨t, more⟩
        rcases found routed with ⟨other, there, again⟩
        have same := takes_once table here there taken again
        subst same
        rw [here] at there
        cases there
        rw [taken] at again
        cases again
        rfl

theorem share_routed (table : Distinct subs) (s : Nat) (topic : CStr) (messages : List Message) :
    share s (messages.filterMap (route subs topic)) =
      messages.filterMap fun message => (subs[s]?).bind fun sub => sub.takes topic message := by
  rw [share, List.filterMap_filterMap]
  apply List.filterMap_congr
  intro message _
  apply Option.ext
  intro value
  have mine := @route_some Cmd subs s topic value message table
  rw [Option.bind_eq_some_iff, Option.bind_eq_some_iff, ← mine]
  constructor
  · rintro ⟨⟨t, more⟩, routed, own⟩
    dsimp only at own
    split at own
    · rename_i same
      cases own
      rw [routed, same]
    · cases own
  · intro routed
    exact ⟨(s, value), routed, if_pos rfl⟩

theorem share_handled (d : Delivery) (s : Nat) :
    share s d.handled = (d.callsOf s).map fun call => call.args.2 := by
  rw [Delivery.handled, Delivery.callsOf]
  induction d.calls with
  | nil => rfl
  | cons call calls ih =>
      by_cases own : call.slot = s
      · subst own
        simp [ih]
      · simp [ih, own]

end Routes

section Messages

variable {Cmd : Type} {subs : List (Subscription Cmd)} {sub : Subscription Cmd} {s : Nat}
  {topic : CStr} {message : Message}

theorem Message.Plain.nonempty (plain : message.Plain) : message.encoded ≠ [] := by
  intro empty
  have words := (joined_eq_nil fun word member =>
    (Message.words_clean plain.words word member).nonempty).mp empty
  exact plain.named (List.append_eq_nil_iff.mp words).1

theorem Message.Plain.header (plain : message.Plain) (word : IsWord topic)
    (short : topic.length ≤ fieldCap) :
    parseHeader (publishLine (keptTopic topic) message.encoded) = some (topic, message.encoded) :=
  parseHeader_publishLine word short plain.nonempty plain.fits (encoded_ends plain.words)

theorem Message.Plain.line (plain : message.Plain) (word : IsWord topic) :
    blocks endsLine (publishLine (keptTopic topic) message.encoded) =
      [publishLine (keptTopic topic) message.encoded] := by
  have kept : lf ∉ keptTopic topic := fun member => word.noLf (List.mem_of_mem_take member)
  have data : lf ∉ message.encoded := by
    intro member
    have clean := encoded_ends plain.words lf member
    revert clean
    decide
  have inner : ∀ byte ∈ text ['M', 'S', 'G', ' '] ++ keptTopic topic ++ [space] ++ message.encoded,
      endsLine byte = false := by
    intro byte member
    have differs : byte ≠ lf := by
      rintro rfl
      simp only [List.mem_append, kept, data, or_false] at member
      revert member
      decide
    simp [endsLine, differs]
  rw [publishLine_eq topic _ plain.fits, blocks,
    delimited_block inner (show endsLine lf = true by decide)]
  rfl

theorem handled_message (table : Distinct subs) (word : IsWord topic)
    (short : topic.length ≤ fieldCap) (plain : message.Plain) (s : Nat) :
    (ctxHandleLine (subscribed subs) (some s)
        (publishLine (keptTopic topic) message.encoded)).map Prod.snd =
      (subs[s]?).bind fun sub => sub.takes topic message := by
  rcases Option.ne_none_iff_exists'.mp plain.valued with ⟨value, given⟩
  rw [ctxHandleLine, plain.header word short, subscribed_slots table.few table.fits]
  simp only [openSlot, Option.bind_some, List.getElem?_map]
  cases here : subs[s]? with
  | none => rfl
  | some sub =>
      have fits := table.fits sub (List.mem_of_getElem? here)
      have keyed : sub.slot.filterKey ≠ [] := fits.keyGiven
      have passes : sub.slot.passes message.fields = true ↔
          message.type = some sub.type ∧ message.key = some sub.key := by
        simp [SubSlot.passes, Subscription.slot, Message.fields, fits.typeGiven, fits.keyGiven]
      simp only [Option.map_some, Option.bind_some]
      rw [Subscription.takes]
      by_cases own : sub.topic = topic
      · have usable : sub.slot.used = true ∧ sub.slot.topic = topic ∧ sub.slot.cb = true :=
          ⟨rfl, own, rfl⟩
        rw [if_pos usable]
        dsimp only
        rw [dispatch_encoded sub.slot topic plain.words given plain.fits]
        by_cases agrees : message.type = some sub.type ∧ message.key = some sub.key
        · rw [if_pos (passes.mpr agrees), if_pos keyed, if_pos ⟨own, agrees⟩]
          exact given.symm
        · rw [if_neg (mt passes.mp agrees), if_neg fun all => agrees all.2]
          rfl
      · have closed : ¬ (sub.slot.used = true ∧ sub.slot.topic = topic ∧ sub.slot.cb = true) :=
          fun usable => own usable.2.1
        rw [if_neg closed, if_neg fun all => own all.1]
        rfl

theorem values_callsOn (slots : List SubSlot) (s : Nat) (lines : List CStr) :
    (Delivery.callsOn slots s lines.zipIdx).map (fun call => call.args.2) =
      lines.filterMap fun line => (ctxHandleLine slots (some s) line).map Prod.snd := by
  have numbered := List.zipIdx_map_fst 0 lines
  conv_rhs => rw [← numbered, List.filterMap_map]
  rw [Delivery.callsOn, List.map_filterMap]
  apply List.filterMap_congr
  intro line _
  rw [Option.map_map]
  rfl

end Messages

section Runs

variable {Cmd : Type} {subs : List (Subscription Cmd)} {topic : CStr} {d : Delivery}
  {messages : List Message}

structure Published (topic : CStr) (messages : List Message) (lines : List CStr) : Prop where
  word : IsWord topic
  short : topic.length ≤ fieldCap
  plain : ∀ message ∈ messages, message.Plain
  sent : lines = messages.map fun message => publishLine (keptTopic topic) (message.data [])

theorem Published.encoded {lines : List CStr} (sent : Published topic messages lines) :
    lines = messages.map fun message => publishLine (keptTopic topic) message.encoded := by
  rw [sent.sent]
  apply List.map_congr_left
  intro message member
  have plain := sent.plain message member
  rw [Message.data_encoded [] plain.named plain.fits]

theorem Published.blocks {lines : List CStr} (sent : Published topic messages lines) :
    lines.flatMap (blocks endsLine) = lines := by
  have single : ∀ line ∈ lines, Rs485Gateway.Lists.blocks endsLine line = [line] := by
    intro line member
    rw [sent.encoded] at member
    rcases List.mem_map.mp member with ⟨message, inside, rfl⟩
    exact (sent.plain message inside).line sent.word
  rw [List.flatMap_congr single, List.flatMap_singleton']

theorem Published.taken {lines : List CStr} (sent : Published topic messages lines)
    (table : Distinct subs) (s : Nat) :
    (lines.filterMap fun line =>
        (ctxHandleLine (subscribed subs) (some s) line).map Prod.snd) =
      share s (messages.filterMap (route subs topic)) := by
  rw [share_routed table, sent.encoded, List.filterMap_map]
  apply List.filterMap_congr
  intro message member
  exact handled_message table sent.word sent.short (sent.plain message member) s

/-- Each slot is called with the values of the messages routed to it, in the order published: with
the first ones while bytes are under way, with all of them once none are. -/
theorem calls_inShares (table : Distinct subs) (run : Delivers (subscribed subs) topic d)
    (sent : Published topic messages d.published) (s : Nat) :
    share s d.handled <+: share s (messages.filterMap (route subs topic)) ∧
      ((d.conns s).wire = [] →
        share s d.handled = share s (messages.filterMap (route subs topic))) := by
  rcases run.wellFormed with ⟨lines, conns⟩
  rcases conns s with ⟨received, stream, -, -, calls⟩
  have cut : blocks endsLine d.published.flatten = d.published := by
    rw [(linesFit_published lines).1, sent.blocks]
  rw [share_handled, calls, values_callsOn, ← sent.taken table s]
  constructor
  · apply List.IsPrefix.filterMap
    rw [← cut, ← stream, blocks_append]
    exact List.prefix_append _ _
  · intro drained
    rw [drained, List.append_nil] at stream
    rw [stream, cut]

theorem calls_subperm (table : Distinct subs) (run : Delivers (subscribed subs) topic d)
    (sent : Published topic messages d.published) :
    d.handled.Subperm (messages.filterMap (route subs topic)) :=
  subperm_of_shares fun s => (calls_inShares table run sent s).1.sublist

end Runs

section Kinds

variable {topic : CStr} {d : Delivery} {messages : List Message}

/-- The callbacks of a bridge: each message calls at most one of them and at most once, with its
value; callbacks of one slot run in publish order; and once no bytes are under way every routed
message has called its own. -/
theorem commands_routed (kind : DeviceKind)
    (run : Delivers (subscribed (subscriptions kind)) topic d)
    (sent : Published topic messages d.published) :
    d.handled.Subperm (messages.filterMap (route (subscriptions kind) topic)) ∧
      (∀ s, share s d.handled <+: share s (messages.filterMap (route (subscriptions kind) topic))) ∧
      ((∀ s, (d.conns s).wire = []) →
        d.handled.Perm (messages.filterMap (route (subscriptions kind) topic))) := by
  have table := subscriptions_distinct kind
  refine ⟨calls_subperm table run sent, fun s => (calls_inShares table run sent s).1, ?_⟩
  intro drained
  apply perm_of_shares
  exact fun s => (calls_inShares table run sent s).2 (drained s)

def operationOrder : Message :=
  ⟨none, some typeCommand, some keyOperation, some (text ['1'])⟩

def frequencyOrder : Message :=
  ⟨none, some typeCommand, some keyFrequencyWrite, some (text "3000".toList)⟩

def bypassOrder : Message := ⟨none, some typeCtrl, some keyBypass, some (text ['0'])⟩

def publishedOrders : List Message := [operationOrder, frequencyOrder, bypassOrder]

theorem publishedOrders_plain : ∀ message ∈ publishedOrders, message.Plain := by
  intro message member
  simp only [publishedOrders, List.mem_cons, List.not_mem_nil, or_false] at member
  rcases member with rfl | rfl | rfl
  all_goals
    constructor
    · intro content inside
      simp only [operationOrder, frequencyOrder, bypassOrder, Message.contents,
        Option.toList_none, Option.toList_some, List.nil_append, List.mem_append,
        List.mem_singleton] at inside
      rcases inside with (rfl | rfl) | rfl <;> constructor <;> decide
    · decide
    · decide
    · decide

/-- The three orders on their way, read in pieces: the connection of the frequency first, and a
part of the bypass. -/
def deliveredOrders : Delivery :=
  let line (message : Message) := publishLine (keptTopic controlOutput) (message.data [])
  let read := fun (d : Delivery) (s n : Nat) => d.read (subscribed inverterSubscriptions) s n
  let sent := ((Delivery.start.publish (line operationOrder)).publish (line frequencyOrder)).publish
    (line bypassOrder)
  read (read (read (read (read sent 1 100) 0 40) 1 60) 0 40) 5 150

theorem deliveredOrders_delivers :
    Delivers (subscribed inverterSubscriptions) controlOutput deliveredOrders := by
  have first := Delivers.publish (@Delivers.start (subscribed inverterSubscriptions) controlOutput)
    operationOrder []
  have sent := (first.publish frequencyOrder []).publish bypassOrder []
  have one := sent.read 1 100 (by decide) (by decide +kernel) (by decide +kernel)
  have two := one.read 0 40 (by decide) (by decide +kernel) (by decide +kernel)
  have three := two.read 1 60 (by decide) (by decide +kernel) (by decide +kernel)
  have four := three.read 0 40 (by decide) (by decide +kernel) (by decide +kernel)
  exact four.read 5 150 (by decide) (by decide +kernel) (by decide +kernel)

theorem deliveredOrders_published :
    Published controlOutput publishedOrders deliveredOrders.published :=
  ⟨by constructor <;> decide, by decide, publishedOrders_plain, rfl⟩

theorem commands_routed_orders :
    deliveredOrders.handled = [(1, text "3000".toList), (0, text ['1'])] ∧
      deliveredOrders.handled.Subperm
        (publishedOrders.filterMap (route inverterSubscriptions controlOutput)) := by
  have routed := commands_routed .inverter deliveredOrders_delivers deliveredOrders_published
  exact ⟨by decide +kernel, routed.1⟩

end Kinds

end Rs485Gateway
