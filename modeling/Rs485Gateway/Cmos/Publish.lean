import Rs485Gateway.Cmos.HandleLine

/-! The line a publisher sends for one message (`cmos_publish`). -/

namespace Rs485Gateway

def pubDataSize : Nat := 896
def pubDataCap : Nat := pubDataSize - 1
def pubLineSize : Nat := 1024

structure PubData where
  data : CStr
  pos : Nat

/-- One `snprintf` at the current position, and the clamp after it. -/
def PubData.print (d : PubData) (piece : CStr) : PubData where
  data := d.data ++ piece.take (pubDataSize - d.pos - 1)
  pos := if d.pos + piece.length > pubDataCap then pubDataCap else d.pos + piece.length

def PubData.separator (d : PubData) : CStr := if d.pos = 0 then [] else [space]

def PubData.field (d : PubData) (is : CStr) : Option CStr → PubData
  | none => d
  | some content => d.print (d.separator ++ is ++ content)

def PubData.value (d : PubData) : Option CStr → PubData
  | none => d
  | some content => if d.pos = 0 then d.print content else d.print ([space] ++ valueIs ++ content)

structure Message where
  state : Option CStr
  type : Option CStr
  key : Option CStr
  value : Option CStr

/-- `data` after the four fields; `stale` is what the uninitialised buffer holds when
none of them is given. -/
def Message.data (message : Message) (stale : CStr) : CStr :=
  let filled := (((PubData.mk [] 0).field stateIs message.state).field typeIs message.type).field
    keyIs message.key |>.value message.value
  if message.state = none ∧ message.type = none ∧ message.key = none ∧ message.value = none then
    stale.take pubDataCap
  else filled.data

def publishLine (pubTopic data : CStr) : CStr :=
  (text ['M', 'S', 'G', ' '] ++ pubTopic ++ [space] ++ data ++ [lf]).take (pubLineSize - 1)

/-- `pub_topic` as `cmos_pub_init` keeps it. -/
def keptTopic (topic : CStr) : CStr := topic.take fieldCap

theorem PubData.print_bound {d : PubData} (piece : CStr)
    (bound : d.data.length ≤ d.pos ∧ d.pos ≤ pubDataCap) :
    (d.print piece).data.length ≤ (d.print piece).pos ∧ (d.print piece).pos ≤ pubDataCap := by
  have cap : pubDataCap = pubDataSize - 1 := rfl
  simp only [PubData.print, List.length_append, List.length_take]
  by_cases clamped : d.pos + piece.length > pubDataCap
  · rw [if_pos clamped]
    omega
  · rw [if_neg clamped]
    omega

theorem PubData.field_bound {d : PubData} (is : CStr) (content : Option CStr)
    (bound : d.data.length ≤ d.pos ∧ d.pos ≤ pubDataCap) :
    (d.field is content).data.length ≤ (d.field is content).pos ∧
      (d.field is content).pos ≤ pubDataCap := by
  cases content with
  | none => exact bound
  | some content => exact PubData.print_bound _ bound

theorem Message.data_length_le (message : Message) (stale : CStr) :
    (message.data stale).length ≤ pubDataCap := by
  have empty : (PubData.mk [] 0).data.length ≤ (PubData.mk [] 0).pos ∧
      (PubData.mk [] 0).pos ≤ pubDataCap := by decide
  have state := PubData.field_bound stateIs message.state empty
  have type := PubData.field_bound typeIs message.type state
  have key := PubData.field_bound keyIs message.key type
  rw [Message.data]
  split
  · exact (List.length_take_le _ _)
  · cases message.value with
    | none => exact key.1.trans key.2
    | some content =>
        rw [PubData.value]
        split
        · have value := PubData.print_bound content key
          exact value.1.trans value.2
        · have value := PubData.print_bound ([space] ++ valueIs ++ content) key
          exact value.1.trans value.2

theorem publishLine_eq (topic data : CStr) (fits : data.length ≤ pubDataCap) :
    publishLine (keptTopic topic) data =
      (text ['M', 'S', 'G', ' '] ++ keptTopic topic ++ [space] ++ data) ++ [lf] := by
  have short : (keptTopic topic).length ≤ fieldCap := List.length_take_le _ _
  rw [publishLine, List.take_of_length_le]
  simp only [fieldCap] at short
  simp only [pubDataCap, pubDataSize] at fits
  simp only [List.length_append, text, List.length_map, List.length_cons, List.length_nil,
    pubLineSize]
  omega

end Rs485Gateway
