import Rs485Gateway.Cmos.ReceiveLoop

/-! What a subscriber makes of one line (`ctx_handle_line`), parsed with `strtok` by
one thread alone. A string that `strtok` walks through is the text from the saved
position on. -/

namespace Rs485Gateway

def space : UInt8 := 0x20
def cr : UInt8 := 0x0D

def wordEnds : CStr := [space, cr, lf]
def lineEnds : CStr := [cr, lf]
def fieldEnds : CStr := [space]

/-- One call of `strtok`: the token, if there is one, and the text from the new saved
position on. -/
def strtok (delims rest : CStr) : Option CStr × CStr :=
  let start := rest.dropWhile fun byte => delims.contains byte
  if start = [] then (none, [])
  else (some (start.takeWhile fun byte => ¬ delims.contains byte),
    (start.dropWhile fun byte => ¬ delims.contains byte).drop 1)

def cmMaxSubSlots : Nat := 256

def fieldCap : Nat := 63

structure SubSlot where
  topic : CStr
  filterState : CStr
  filterType : CStr
  filterKey : CStr
  cb : Bool
  used : Bool

structure DataFields where
  state : Option CStr
  type : Option CStr
  key : Option CStr
  value : Option CStr
  deriving DecidableEq

def noFields : DataFields := ⟨none, none, none, none⟩

def stateIs : CStr := text ['s', 't', 'a', 't', 'e', '=']
def typeIs : CStr := text ['t', 'y', 'p', 'e', '=']
def keyIs : CStr := text ['k', 'e', 'y', '=']
def valueIs : CStr := text ['v', 'a', 'l', 'u', 'e', '=']

/-- The chain of prefix tests on one token; a later token of a kind replaces an
earlier one. -/
def takeField (fields : DataFields) (token : CStr) : DataFields :=
  if stateIs.isPrefixOf token then { fields with state := some (token.drop stateIs.length) }
  else if typeIs.isPrefixOf token then { fields with type := some (token.drop typeIs.length) }
  else if keyIs.isPrefixOf token then { fields with key := some (token.drop keyIs.length) }
  else if valueIs.isPrefixOf token then { fields with value := some (token.drop valueIs.length) }
  else fields

/-- The `while (t)` loop with the text still to be cut; a token costs a byte, so the
text's length bounds the rounds. -/
def fieldLoop : Nat → CStr → DataFields → DataFields
  | 0, _, fields => fields
  | fuel + 1, rest, fields =>
      match strtok fieldEnds rest with
      | (none, _) => fields
      | (some token, rest) => fieldLoop fuel rest (takeField fields token)

def parseFields (data : CStr) : DataFields :=
  let tmp := data.take (1024 - 1)
  fieldLoop (tmp.length + 1) tmp noFields

def SubSlot.filtered (slot : SubSlot) : Bool :=
  slot.filterState ≠ [] ∨ slot.filterType ≠ [] ∨ slot.filterKey ≠ []

def SubSlot.passes (slot : SubSlot) (fields : DataFields) : Bool :=
  (slot.filterState = [] ∨ fields.state = some slot.filterState) ∧
    (slot.filterType = [] ∨ fields.type = some slot.filterType) ∧
    (slot.filterKey = [] ∨ fields.key = some slot.filterKey)

/-- The callback of a slot on a message of its topic: its arguments, if it is called. -/
def dispatch (slot : SubSlot) (topic data : CStr) : Option (CStr × CStr) :=
  if ¬ slot.filtered then some (topic, data)
  else
    let fields := parseFields data
    if ¬ slot.passes fields then none
    else if slot.filterKey ≠ [] then some (topic, fields.value.getD [])
    else some (topic, data)

def parseHeader (line : CStr) : Option (CStr × CStr) :=
  match strtok wordEnds line with
  | (none, _) => none
  | (some cmd, rest) =>
      if cmd ≠ text ['M', 'S', 'G'] then none
      else
        let topic := strtok wordEnds rest
        match topic.1, (strtok lineEnds topic.2).1 with
        | some topic, some data => some (topic, data)
        | _, _ => none

def openSlot (slots : List SubSlot) (subSlot : Option Nat) (topic : CStr) : Option SubSlot :=
  match subSlot.bind fun s => slots[s]? with
  | none => none
  | some slot => if slot.used ∧ slot.topic = topic ∧ slot.cb then some slot else none

/-- `sub_slot` is `none` for -1; the result is the call of the slot's callback. -/
def ctxHandleLine (slots : List SubSlot) (subSlot : Option Nat) (line : CStr) :
    Option (CStr × CStr) :=
  match parseHeader line with
  | none => none
  | some (topic, data) =>
      match openSlot slots subSlot topic with
      | none => none
      | some slot => dispatch slot topic data

def cmosSubAdd (slots : List SubSlot) (topic : CStr)
    (filterState filterType filterKey : Option CStr) : Option (List SubSlot) :=
  if slots.length ≥ cmMaxSubSlots then none
  else some (slots ++ [{
    topic := topic.take fieldCap
    filterState := (filterState.getD []).take fieldCap
    filterType := (filterType.getD []).take fieldCap
    filterKey := (filterKey.getD []).take fieldCap
    cb := true
    used := true }])

end Rs485Gateway
