import Rs485Gateway.Cmos.Publish

namespace Rs485Gateway

/-- A text that `strtok` keeps whole. -/
structure IsWord (word : CStr) : Prop where
  nonempty : word ≠ []
  noSpace : space ∉ word
  noCr : cr ∉ word
  noLf : lf ∉ word
  noNul : 0 ∉ word

def joined : List CStr → CStr
  | [] => []
  | [word] => word
  | word :: rest => word ++ space :: joined rest

def Message.words (message : Message) : List CStr :=
  (message.state.map (stateIs ++ ·)).toList ++ (message.type.map (typeIs ++ ·)).toList ++
    (message.key.map (keyIs ++ ·)).toList ++ (message.value.map (valueIs ++ ·)).toList

/-- The data of a message with a state, a type or a key, at its full length. -/
def Message.encoded (message : Message) : CStr := joined message.words

section Strtok

variable {delims word rest : CStr} {delim : UInt8}

theorem strtok_clean (nonempty : word ≠ [])
    (clean : ∀ byte ∈ word, delims.contains byte = false) (back : CStr) :
    strtok delims (word ++ back) =
      (some (word ++ back.takeWhile fun byte => ¬ delims.contains byte),
        (back.dropWhile fun byte => ¬ delims.contains byte).drop 1) := by
  have skip : (word ++ back).dropWhile (fun byte => delims.contains byte) = word ++ back := by
    cases word with
    | nil => exact absurd rfl nonempty
    | cons byte word =>
        exact List.dropWhile_cons_of_neg (by simp only [clean byte List.mem_cons_self,
          Bool.false_eq_true, not_false_eq_true])
  have inner : ∀ byte ∈ word, (fun byte => decide ¬ delims.contains byte = true) byte = true := by
    intro byte member
    simp only [clean byte member, Bool.false_eq_true, not_false_eq_true, decide_true]
  unfold strtok
  rw [skip, if_neg (by simp [nonempty]), List.takeWhile_append_of_pos inner,
    List.dropWhile_append_of_pos inner]

theorem strtok_word (nonempty : word ≠ []) (clean : ∀ byte ∈ word, delims.contains byte = false)
    (ends : delims.contains delim = true) :
    strtok delims (word ++ delim :: rest) = (some word, rest) := by
  rw [strtok_clean nonempty clean]
  simp only [List.takeWhile, List.dropWhile, ends, not_true_eq_false, decide_false,
    List.append_nil, List.drop_one, List.tail_cons]

theorem strtok_last (nonempty : word ≠ []) (clean : ∀ byte ∈ word, delims.contains byte = false) :
    strtok delims word = (some word, []) := by
  have whole := strtok_clean nonempty clean []
  simpa using whole

end Strtok

section Joined

variable {words : List CStr} {word : CStr}

theorem joined_cons (first second : CStr) (rest : List CStr) :
    joined (first :: second :: rest) = first ++ space :: joined (second :: rest) := rfl

theorem joined_snoc (nonempty : words ≠ []) :
    joined (words ++ [word]) = joined words ++ ([space] ++ word) := by
  induction words with
  | nil => exact absurd rfl nonempty
  | cons first rest ih =>
      cases rest with
      | nil => rfl
      | cons second rest =>
          calc
            joined (first :: second :: rest ++ [word]) =
                first ++ space :: joined (second :: rest ++ [word]) := rfl
            _ = first ++ space :: (joined (second :: rest) ++ ([space] ++ word)) := by
              rw [ih (by simp)]
            _ = joined (first :: second :: rest) ++ ([space] ++ word) := by
              simp [joined_cons]

theorem joined_length_le (words rest : List CStr) :
    (joined words).length ≤ (joined (words ++ rest)).length := by
  induction words with
  | nil => exact Nat.zero_le _
  | cons first words ih =>
      cases words with
      | nil =>
          cases rest with
          | nil => exact le_rfl
          | cons next rest =>
              rw [List.singleton_append, joined_cons, List.length_append]
              exact Nat.le_add_right _ _
      | cons second words =>
          have longer : joined (first :: second :: words ++ rest) =
              first ++ space :: joined (second :: words ++ rest) := rfl
          rw [longer, joined_cons, List.length_append, List.length_append, List.length_cons,
            List.length_cons]
          omega

theorem joined_eq_nil (words_ok : ∀ word ∈ words, word ≠ []) : joined words = [] ↔ words = [] := by
  cases words with
  | nil => simp [joined]
  | cons first rest =>
      have head := words_ok first List.mem_cons_self
      cases rest with
      | nil => simpa [joined] using head
      | cons second rest => simp [joined_cons]

theorem mem_joined {byte : UInt8} (member : byte ∈ joined words) :
    byte = space ∨ ∃ word ∈ words, byte ∈ word := by
  induction words with
  | nil => cases member
  | cons first rest ih =>
      cases rest with
      | nil => exact .inr ⟨first, List.mem_cons_self, member⟩
      | cons second rest =>
          rw [joined_cons, List.mem_append, List.mem_cons] at member
          rcases member with here | same | later
          · exact .inr ⟨first, List.mem_cons_self, here⟩
          · exact .inl same
          · rcases ih later with same | ⟨word, inside, here⟩
            · exact .inl same
            · exact .inr ⟨word, List.mem_cons_of_mem _ inside, here⟩

/-- The field loop sees the words one by one. -/
theorem fieldLoop_joined (clean : ∀ word ∈ words, word ≠ [] ∧ space ∉ word) {fuel : Nat}
    (enough : words.length < fuel) (fields : DataFields) :
    fieldLoop fuel (joined words) fields = words.foldl takeField fields := by
  induction words generalizing fuel fields with
  | nil =>
      obtain ⟨fuel, rfl⟩ := Nat.exists_eq_succ_of_ne_zero (Nat.ne_of_gt (Nat.zero_lt_of_lt enough))
      rfl
  | cons first rest ih =>
      obtain ⟨fuel, rfl⟩ := Nat.exists_eq_succ_of_ne_zero (Nat.ne_of_gt (Nat.zero_lt_of_lt enough))
      have later := ih (fun word member => clean word (List.mem_cons_of_mem _ member))
        (Nat.lt_of_succ_lt_succ enough) (takeField fields first)
      obtain ⟨nonempty, noSpace⟩ := clean first List.mem_cons_self
      have apart : ∀ byte ∈ first, fieldEnds.contains byte = false := by
        intro byte member
        have differs : byte ≠ space := fun same => noSpace (same ▸ member)
        simp [fieldEnds, differs]
      rw [Nat.succ_eq_add_one, fieldLoop, List.foldl_cons]
      cases rest with
      | nil =>
          have cut : strtok fieldEnds (joined [first]) = (some first, []) :=
            strtok_last nonempty apart
          rw [cut]
          exact later
      | cons second rest =>
          have cut : strtok fieldEnds (joined (first :: second :: rest)) =
              (some first, joined (second :: rest)) := strtok_word nonempty apart (by decide)
          rw [cut]
          exact later

end Joined

section Encode

structure PubData.Holds (d : PubData) (words : List CStr) : Prop where
  data : d.data = joined words
  pos : d.pos = (joined words).length
  nonempty : ∀ word ∈ words, word ≠ []

variable {d : PubData} {words : List CStr}

theorem PubData.print_fits {piece : CStr} (fits : d.pos + piece.length ≤ pubDataCap) :
    d.print piece = ⟨d.data ++ piece, d.pos + piece.length⟩ := by
  have room : piece.length ≤ pubDataSize - d.pos - 1 := by
    simp only [pubDataCap, pubDataSize] at fits ⊢
    omega
  rw [PubData.print, List.take_of_length_le room, if_neg (by omega)]

theorem PubData.Holds.print (holds : d.Holds words) {word : CStr} (nonempty : word ≠ [])
    (fits : (joined (words ++ [word])).length ≤ pubDataCap) :
    (d.print (d.separator ++ word)).Holds (words ++ [word]) := by
  have longer : joined (words ++ [word]) = joined words ++ (d.separator ++ word) := by
    by_cases empty : words = []
    · subst empty
      simp [PubData.separator, holds.pos, joined]
    · have started : joined words ≠ [] := fun bare => empty ((joined_eq_nil holds.nonempty).mp bare)
      have moved : d.pos ≠ 0 := by
        rw [holds.pos]
        exact fun zero => started (List.eq_nil_of_length_eq_zero zero)
      rw [joined_snoc empty, PubData.separator, if_neg moved]
  rw [longer, List.length_append, ← holds.pos] at fits
  rw [PubData.print_fits fits]
  constructor
  · rw [longer, holds.data]
  · simp only [longer, holds.pos, List.length_append]
  · intro other member
    rcases List.mem_append.mp member with old | new
    · exact holds.nonempty other old
    · rw [List.mem_singleton.mp new]
      exact nonempty

theorem PubData.Holds.field (holds : d.Holds words) {is : CStr} (named : is ≠ [])
    (content : Option CStr)
    (fits : (joined (words ++ (content.map (is ++ ·)).toList)).length ≤ pubDataCap) :
    (d.field is content).Holds (words ++ (content.map (is ++ ·)).toList) := by
  cases content with
  | none => simpa [PubData.field] using holds
  | some content =>
      have nonempty : is ++ content ≠ [] := by simp [named]
      have printed := holds.print nonempty fits
      rwa [← List.append_assoc] at printed

theorem PubData.Holds.value (holds : d.Holds words) (started : words ≠ []) (content : Option CStr)
    (fits : (joined (words ++ (content.map (valueIs ++ ·)).toList)).length ≤ pubDataCap) :
    (d.value content).Holds (words ++ (content.map (valueIs ++ ·)).toList) := by
  cases content with
  | none => simpa [PubData.value] using holds
  | some content =>
      have moved : d.pos ≠ 0 := by
        rw [holds.pos]
        exact fun zero => started
          ((joined_eq_nil holds.nonempty).mp (List.eq_nil_of_length_eq_zero zero))
      have spaced : d.separator = [space] := if_neg moved
      have printed := holds.print (List.append_ne_nil_of_left_ne_nil (by decide) content) fits
      rw [spaced, ← List.append_assoc] at printed
      rw [PubData.value, if_neg moved]
      exact printed

def Message.named (message : Message) : List CStr :=
  (message.state.map (stateIs ++ ·)).toList ++ (message.type.map (typeIs ++ ·)).toList ++
    (message.key.map (keyIs ++ ·)).toList

theorem Message.data_encoded {message : Message} (stale : CStr) (started : message.named ≠ [])
    (fits : message.encoded.length ≤ pubDataCap) : message.data stale = message.encoded := by
  have given : ¬ (message.state = none ∧ message.type = none ∧ message.key = none ∧
      message.value = none) := by
    rintro ⟨state, type, key, -⟩
    exact started (by simp [Message.named, state, type, key])
  have empty : (PubData.mk [] 0).Holds [] := ⟨rfl, rfl, by simp⟩
  have fits₃ := (joined_length_le message.named _).trans fits
  have fits₂ := (joined_length_le _ _).trans fits₃
  have fits₁ := (joined_length_le _ _).trans fits₂
  have state := empty.field (by decide) message.state fits₁
  have type := state.field (by decide) message.type fits₂
  have key := type.field (by decide) message.key fits₃
  have whole := key.value started message.value fits
  rw [Message.data, if_neg given]
  exact whole.data

end Encode

section Decode

def Message.fields (message : Message) : DataFields :=
  ⟨message.state, message.type, message.key, message.value⟩

theorem Message.words_fields (message : Message) :
    message.words.foldl takeField noFields = message.fields := by
  obtain ⟨state, type, key, value⟩ := message
  cases state <;> cases type <;> cases key <;> cases value <;> rfl

def Message.contents (message : Message) : List CStr :=
  message.state.toList ++ message.type.toList ++ message.key.toList ++ message.value.toList

theorem Message.words_of {holds : CStr → Prop} {message : Message}
    (prefixed : ∀ is ∈ [stateIs, typeIs, keyIs, valueIs], ∀ content, IsWord content →
      holds (is ++ content))
    (contents : ∀ content ∈ message.contents, IsWord content) :
    ∀ word ∈ message.words, holds word := by
  intro word member
  simp only [Message.contents, List.mem_append, Option.mem_toList] at contents
  simp only [Message.words, List.mem_append, Option.mem_toList, Option.map_eq_some_iff] at member
  rcases member with ((⟨content, given, rfl⟩ | ⟨content, given, rfl⟩) | ⟨content, given, rfl⟩) |
    ⟨content, given, rfl⟩
  · exact prefixed _ (by simp) _ (contents _ (by simp [given]))
  · exact prefixed _ (by simp) _ (contents _ (by simp [given]))
  · exact prefixed _ (by simp) _ (contents _ (by simp [given]))
  · exact prefixed _ (by simp) _ (contents _ (by simp [given]))

theorem IsWord.field {is content : CStr} (named : IsWord is) (word : IsWord content) :
    IsWord (is ++ content) where
  nonempty := List.append_ne_nil_of_left_ne_nil named.nonempty content
  noSpace := by simp [named.noSpace, word.noSpace]
  noCr := by simp [named.noCr, word.noCr]
  noLf := by simp [named.noLf, word.noLf]
  noNul := by simp [named.noNul, word.noNul]

theorem isWord_names : ∀ is ∈ [stateIs, typeIs, keyIs, valueIs], IsWord is := by
  intro is member
  simp only [List.mem_cons, List.not_mem_nil, or_false] at member
  rcases member with rfl | rfl | rfl | rfl <;> constructor <;> decide

theorem Message.words_clean {message : Message}
    (contents : ∀ content ∈ message.contents, IsWord content) :
    ∀ word ∈ message.words, IsWord word :=
  Message.words_of (fun is member _ word => (isWord_names is member).field word) contents

theorem words_length_le {words : List CStr} (clean : ∀ word ∈ words, word ≠ []) :
    words.length ≤ (joined words).length := by
  induction words with
  | nil => exact le_rfl
  | cons first rest ih =>
      have later := ih fun word member => clean word (List.mem_cons_of_mem _ member)
      have positive := List.length_pos_iff.mpr (clean first List.mem_cons_self)
      cases rest with
      | nil => exact positive
      | cons second rest =>
          rw [joined_cons, List.length_append, List.length_cons, @List.length_cons _ space]
          omega

theorem parseFields_encoded {message : Message}
    (contents : ∀ content ∈ message.contents, IsWord content)
    (fits : message.encoded.length ≤ pubDataCap) :
    parseFields message.encoded = message.fields := by
  have clean := Message.words_clean contents
  have whole : message.encoded.take (1024 - 1) = message.encoded :=
    List.take_of_length_le (fits.trans (by decide))
  have enough := Nat.lt_succ_of_le
    (words_length_le fun word member => (clean word member).nonempty)
  have parsed := fieldLoop_joined
    (fun word member => ⟨(clean word member).nonempty, (clean word member).noSpace⟩) enough noFields
  rw [parseFields, whole]
  exact parsed.trans message.words_fields

theorem encoded_ends {message : Message}
    (contents : ∀ content ∈ message.contents, IsWord content) :
    ∀ byte ∈ message.encoded, lineEnds.contains byte = false := by
  intro byte member
  rcases mem_joined member with rfl | ⟨word, inside, here⟩
  · decide
  · have clean := Message.words_clean contents word inside
    have notCr : byte ≠ cr := fun same => clean.noCr (same ▸ here)
    have notLf : byte ≠ lf := fun same => clean.noLf (same ▸ here)
    simp [lineEnds, notCr, notLf]

theorem IsWord.wordEnds {word : CStr} (clean : IsWord word) :
    ∀ byte ∈ word, wordEnds.contains byte = false := by
  intro byte member
  have notSpace : byte ≠ space := fun same => clean.noSpace (same ▸ member)
  have notCr : byte ≠ cr := fun same => clean.noCr (same ▸ member)
  have notLf : byte ≠ lf := fun same => clean.noLf (same ▸ member)
  simp [Rs485Gateway.wordEnds, notSpace, notCr, notLf]

theorem parseHeader_publishLine {topic data : CStr} (word : IsWord topic)
    (short : topic.length ≤ fieldCap) (nonempty : data ≠ []) (fits : data.length ≤ pubDataCap)
    (clean : ∀ byte ∈ data, lineEnds.contains byte = false) :
    parseHeader (publishLine (keptTopic topic) data) = some (topic, data) := by
  have kept : keptTopic topic = topic := List.take_of_length_le short
  have whole : publishLine (keptTopic topic) data =
      text ['M', 'S', 'G'] ++ space :: (topic ++ space :: (data ++ lf :: [])) := by
    rw [publishLine_eq topic data fits, kept]
    simp only [text, List.append_assoc]
    rfl
  have cmd := @strtok_word wordEnds (text ['M', 'S', 'G']) (topic ++ space :: (data ++ lf :: []))
    space (by decide) (by decide +kernel) (by decide)
  have name := @strtok_word wordEnds topic (data ++ lf :: []) space word.nonempty word.wordEnds
    (by decide)
  have rest := @strtok_word lineEnds data [] lf nonempty clean (by decide)
  rw [whole, parseHeader, cmd]
  simp [name, rest]

end Decode

section Dispatch

/-- A filter that is given and not empty asks for this content. -/
def Agrees (filter field : Option CStr) : Prop :=
  filter.getD [] ≠ [] → field = some (filter.getD [])

instance (filter field : Option CStr) : Decidable (Agrees filter field) :=
  inferInstanceAs (Decidable (_ → _))

theorem agrees_iff {filter field : Option CStr} :
    Agrees filter field ↔ filter.getD [] = [] ∨ field = some (filter.getD []) :=
  or_iff_not_imp_left.symm

theorem dispatch_encoded {message : Message} {value : CStr} (slot : SubSlot) (topic : CStr)
    (contents : ∀ content ∈ message.contents, IsWord content)
    (value_given : message.value = some value) (fits : message.encoded.length ≤ pubDataCap) :
    dispatch slot topic message.encoded =
      if slot.passes message.fields then
        some (topic, if slot.filterKey ≠ [] then value else message.encoded)
      else none := by
  rw [dispatch, parseFields_encoded contents fits]
  by_cases filtered : slot.filtered = true
  · have taken : message.fields.value.getD [] = value := by
      rw [Message.fields, value_given]
      rfl
    rw [if_neg (by simp [filtered])]
    cases passes : slot.passes message.fields with
    | false => simp [passes]
    | true =>
        simp only [passes, taken, not_true_eq_false, if_false, if_true]
        split <;> rfl
  · have open_filters : slot.filterState = [] ∧ slot.filterType = [] ∧ slot.filterKey = [] := by
      simpa [SubSlot.filtered] using filtered
    rw [if_pos filtered]
    simp [SubSlot.passes, open_filters]

/-- The callback of a subscription is called exactly on the messages its filters agree
with, and gets the value or the whole data. -/
theorem publish_dispatch (message : Message) (value stale topic : CStr)
    (before slots more : List SubSlot) (filterState filterType filterKey : Option CStr)
    (topic_word : IsWord topic) (topic_short : topic.length ≤ 63)
    (contents : ∀ content ∈ message.contents, IsWord content)
    (given : message.state ≠ none ∨ message.type ≠ none ∨ message.key ≠ none)
    (value_given : message.value = some value) (fits : message.encoded.length ≤ 895)
    (filters : ∀ filter ∈ [filterState, filterType, filterKey], (filter.getD []).length ≤ 63)
    (added : cmosSubAdd before topic filterState filterType filterKey = some slots) :
    ctxHandleLine (slots ++ more) (some before.length)
        (publishLine (keptTopic topic) (message.data stale)) =
      if Agrees filterState message.state ∧ Agrees filterType message.type ∧
          Agrees filterKey message.key then
        some (topic, if filterKey.getD [] ≠ [] then value else message.encoded)
      else none := by
  have started : message.named ≠ [] := by
    obtain ⟨state, type, key, _⟩ := message
    cases state <;> cases type <;> cases key <;> simp_all [Message.named]
  have nonempty : message.encoded ≠ [] := by
    intro empty
    have words := (joined_eq_nil fun word member =>
      (Message.words_clean contents word member).nonempty).mp empty
    exact started (List.append_eq_nil_iff.mp words).1
  have header := parseHeader_publishLine topic_word topic_short nonempty fits
    (encoded_ends contents)
  have state_kept := List.take_of_length_le (filters filterState (by simp))
  have type_kept := List.take_of_length_le (filters filterType (by simp))
  have key_kept := List.take_of_length_le (filters filterKey (by simp))
  have topic_kept := List.take_of_length_le topic_short
  rw [cmosSubAdd] at added
  split at added
  · cases added
  · cases added
    rw [ctxHandleLine, Message.data_encoded stale started fits, header]
    simp only [fieldCap, state_kept, type_kept, key_kept, topic_kept]
    have opened (slot : SubSlot) (usable : slot.used ∧ slot.topic = topic ∧ slot.cb = true) :
        openSlot (before ++ [slot] ++ more) (some before.length) topic = some slot := by
      simp [openSlot, usable]
    have passes := and_congr (@agrees_iff filterState message.state)
      (and_congr (@agrees_iff filterType message.type) (@agrees_iff filterKey message.key))
    rw [opened _ (by simp)]
    refine (dispatch_encoded _ topic contents value_given fits).trans ?_
    exact if_congr (decide_eq_true_iff.trans passes.symm) rfl rfl

/-- A key filter picks the value, though the type looks like a key. -/
theorem publish_dispatch_key :
    ctxHandleLine [⟨text ['t'], [], [], text ['a'], true, true⟩] (some 0)
        (publishLine (keptTopic (text ['t']))
          (Message.data ⟨none, some (text ['k', 'e', 'y', '=', 'b']), some (text ['a']),
            some (text ['v', 'a', 'l', 'u', 'e', '='])⟩ [])) =
      some (text ['t'], text ['v', 'a', 'l', 'u', 'e', '=']) := by
  have called := publish_dispatch
    ⟨none, some (text ['k', 'e', 'y', '=', 'b']), some (text ['a']),
      some (text ['v', 'a', 'l', 'u', 'e', '='])⟩ (text ['v', 'a', 'l', 'u', 'e', '=']) []
    (text ['t']) [] _ [] none none (some (text ['a'])) (by constructor <;> decide) (by decide)
    (by
      intro content member
      simp only [Message.contents, Option.toList_none, Option.toList_some, List.nil_append,
        List.mem_append, List.mem_singleton] at member
      rcases member with (rfl | rfl) | rfl <;> constructor <;> decide)
    (.inr (.inl (by decide))) rfl (by decide) (by decide) rfl
  exact called.trans (by decide)

end Dispatch

end Rs485Gateway
