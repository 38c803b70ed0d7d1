import Rs485Gateway.Config.Loader

namespace Rs485Gateway.Config

open Rs485Gateway.Lists

namespace ModbusFormat

def addressKey : ModbusFormat → String
  | rtu => "path"
  | tcp => "ip"

def addressSize : ModbusFormat → Nat
  | rtu => pathSize
  | tcp => ipSize

def numberKey : ModbusFormat → String
  | rtu => "baud_rate"
  | tcp => "port"

def accepts (value : Int32) : ModbusFormat → Prop
  | rtu => validateRtuBaud value.toInt = true
  | tcp => ¬ (value < 1 ∨ value > 65535)

end ModbusFormat

structure ModuleConfig.Valid (config : ModuleConfig) : Prop where
  enabled : config.enabled = true
  name : config.nameText ≠ [] ∧ Terminated config.name nameSize
  modbusUid : 1 ≤ config.modbusUid.toInt ∧ config.modbusUid.toInt ≤ 247
  rtu : config.format = .rtu →
    (config.path ≠ [] ∧ Terminated config.line pathSize) ∧
      4800 ≤ config.baudRate.toInt ∧ config.baudRate.toInt ≤ 115200 ∧
      config.baudRate.toInt % 100 = 0
  tcp : config.format = .tcp →
    (config.ip ≠ [] ∧ Terminated config.line ipSize) ∧
      1 ≤ config.port.toInt ∧ config.port.toInt ≤ 65535

section Entry

variable {J : Type} (json : JsonC J)

def formatOf (obj : J) : Option ModbusFormat :=
  match json.objectGetEx (some obj) "modbus_format" with
  | none => some .rtu
  | some field => parseModbusFormatValue (json.string field)

def HasText (obj : J) (key : String) : Prop :=
  ∃ value, json.objectGetEx (some obj) key = some (some value) ∧ (json.getString value).bytes ≠ []

/-- The members of an entry meet the checks of the loader. -/
structure Acceptable (obj : J) : Prop where
  name : HasText json obj "name"
  modbusUid : ∃ field, json.objectGetEx (some obj) "modbus_uid" = some field ∧
    ¬ (json.int field < 1 ∨ json.int field > 247)
  line : ∃ format, formatOf json obj = some format ∧ HasText json obj format.addressKey ∧
    ∃ field, json.objectGetEx (some obj) format.numberKey = some field ∧
      format.accepts (json.int field)

/-- A text member that is copied is null. -/
def NullCopied (obj : J) : Prop :=
  json.objectGetEx (some obj) "name" = some none ∨
    ∃ format, formatOf json obj = some format ∧
      json.objectGetEx (some obj) format.addressKey = some none

theorem not_acceptable_of_nullCopied {obj : J} (copied : NullCopied json obj) :
    ¬ Acceptable json obj := by
  intro acceptable
  rcases copied with noName | ⟨format, chosen, noAddress⟩
  · rcases acceptable.name with ⟨value, found, -⟩
    rw [noName] at found
    cases found
  · rcases acceptable.line with ⟨other, same, ⟨value, found, -⟩, -⟩
    rw [chosen] at same
    cases same
    rw [noAddress] at found
    cases found

def copied (field : Option (Option J)) (n : Nat) : Storage :=
  match field with
  | some (some value) => strncpy zeroed (json.getString value).bytes n
  | _ => zeroed

/-- What an entry leaves of a zeroed slot. -/
def loaded (obj : J) (format : ModbusFormat) : ModuleConfig where
  name := copied json (json.objectGetEx (some obj) "name") (nameSize - 1)
  enabled := (json.objectGetEx (some obj) "enabled").elim false json.boolean
  modbusUid := (json.objectGetEx (some obj) "modbus_uid").elim 0 json.int
  format := format
  line := storeMember json (some obj) format.numberKey
    (copied json (json.objectGetEx (some obj) format.addressKey) (format.addressSize - 1))
    format.addressSize

variable {json} {obj : J} {family : String} {jsonIndex : Nat}

theorem copyMember_null {key : String} (null : json.objectGetEx (some obj) key = some none)
    (dest : Storage) (n : Nat) : copyMember json (some obj) key dest n = .error .nullString := by
  rw [copyMember, null]
  rfl

theorem copyMember_zeroed {key : String} (named : json.objectGetEx (some obj) key ≠ some none)
    (n : Nat) :
    copyMember json (some obj) key zeroed n =
      .ok (copied json (json.objectGetEx (some obj) key) n) := by
  rw [copyMember]
  cases found : json.objectGetEx (some obj) key with
  | none => rfl
  | some field =>
      cases field with
      | none => exact absurd found named
      | some value => rfl

theorem loadModuleConfig_named (named : json.objectGetEx (some obj) "name" ≠ some none) :
    loadModuleConfig json family jsonIndex (some obj) .zero =
      match formatOf json obj with
      | none => configFailInvalid family jsonIndex { loaded json obj .rtu with line := zeroed }
          "modbus_format" "RTU or TCP"
      | some format =>
          (copyMember json (some obj) format.addressKey zeroed (format.addressSize - 1)).map
            fun line => { loaded json obj format with
              line := storeMember json (some obj) format.numberKey line format.addressSize } := by
  have name := copyMember_zeroed named (nameSize - 1)
  rw [loadModuleConfig, formatOf, ModuleConfig.zero]
  simp only [Option.isNone_some, Bool.false_eq_true, if_false, name]
  cases json.objectGetEx (some obj) "modbus_format" with
  | none => rfl
  | some field =>
      simp only
      cases parseModbusFormatValue (json.string field) with
      | none => rfl
      | some format => cases format <;> rfl

/-- Reading an entry ends in one of three ways. -/
theorem loadModuleConfig_cases (json : JsonC J) (family : String) (jsonIndex : Nat) (obj : J) :
    NullCopied json obj ∧
        loadModuleConfig json family jsonIndex (some obj) .zero = .error .nullString ∨
      ¬ NullCopied json obj ∧ formatOf json obj = none ∧ (∃ error,
        loadModuleConfig json family jsonIndex (some obj) .zero = .error (.configError error)) ∨
      ¬ NullCopied json obj ∧ ∃ format, formatOf json obj = some format ∧
        loadModuleConfig json family jsonIndex (some obj) .zero = .ok (loaded json obj format) := by
  by_cases noName : json.objectGetEx (some obj) "name" = some none
  · refine .inl ⟨.inl noName, ?_⟩
    rw [loadModuleConfig, copyMember_null noName]
    rfl
  · rw [loadModuleConfig_named noName]
    cases chosen : formatOf json obj with
    | none =>
        refine .inr (.inl ⟨?_, rfl, _, rfl⟩)
        rintro (null | ⟨format, same, -⟩)
        · exact noName null
        · rw [chosen] at same
          cases same
    | some format =>
        by_cases noAddress : json.objectGetEx (some obj) format.addressKey = some none
        · refine .inl ⟨.inr ⟨format, chosen, noAddress⟩, ?_⟩
          simp only [copyMember_null noAddress]
          rfl
        · refine .inr (.inr ⟨?_, format, rfl, ?_⟩)
          · rintro (null | ⟨other, same, null⟩)
            · exact noName null
            · rw [chosen] at same
              cases same
              exact noAddress null
          · simp only [copyMember_zeroed noAddress]
            rfl

theorem configLoadFail_error {α : Type} (cfg : ModuleConfig) (reason : String) :
    ∃ error, (configLoadFail family jsonIndex cfg reason : Load α) = .error (.configError error) :=
  ⟨_, rfl⟩

theorem check_cases {failing : Prop} [Decidable failing] (cfg : ModuleConfig) (reason : String)
    {rest : Load Unit}
    (later : rest = .ok () ∨ ∃ error, rest = .error (.configError error)) :
    (if failing then configLoadFail family jsonIndex cfg reason else rest) = .ok () ∨
      ∃ error, (if failing then configLoadFail family jsonIndex cfg reason else rest) =
        .error (.configError error) := by
  by_cases fails : failing
  · rw [if_pos fails]
    exact .inr (configLoadFail_error cfg reason)
  · rw [if_neg fails]
    exact later

theorem validateModuleConfig_cases (obj : Option J) (cfg : ModuleConfig) :
    validateModuleConfig json family jsonIndex obj cfg = .ok () ∨
      ∃ error, validateModuleConfig json family jsonIndex obj cfg =
        .error (.configError error) := by
  rw [validateModuleConfig]
  iterate 4 apply check_cases
  cases cfg.format with
  | tcp =>
      iterate 4 apply check_cases
      exact .inl rfl
  | rtu =>
      iterate 4 apply check_cases
      exact .inl rfl

theorem check_ok {failing : Prop} [Decidable failing] (cfg : ModuleConfig) (reason : String)
    (rest : Load Unit) :
    (if failing then configLoadFail family jsonIndex cfg reason else rest) = .ok () ↔
      ¬ failing ∧ rest = .ok () := by
  by_cases fails : failing
  · rcases @configLoadFail_error family jsonIndex Unit cfg reason with ⟨error, failed⟩
    rw [if_pos fails, failed]
    exact iff_of_false (fun same => nomatch same) fun both => both.1 fails
  · rw [if_neg fails]
    exact (and_iff_right fails).symm

theorem validateModuleConfig_ok (obj : Option J) (cfg : ModuleConfig) :
    validateModuleConfig json family jsonIndex obj cfg = .ok () ↔
      (jsonHasField json obj "name" = true ∧ cfg.name 0 ≠ 0) ∧
        (jsonHasField json obj "modbus_uid" = true ∧
          ¬ (cfg.modbusUid < 1 ∨ cfg.modbusUid > 247)) ∧
        (jsonHasField json obj cfg.format.addressKey = true ∧ cfg.line 0 ≠ 0) ∧
        jsonHasField json obj cfg.format.numberKey = true ∧
          cfg.format.accepts (loadInt cfg.line cfg.format.addressSize) := by
  rw [validateModuleConfig]
  cases cfg.format with
  | rtu =>
      simp only [configFailMissing, configFailEmpty, configFailRange, configFailInvalid, check_ok,
        strIsEmpty, decide_eq_true_eq, not_not, and_true, and_assoc]
      rfl
  | tcp =>
      simp only [configFailMissing, configFailEmpty, configFailRange, check_ok,
        strIsEmpty, decide_eq_true_eq, not_not, and_true, and_assoc]
      rfl

theorem copied_terminated (field : Option (Option J)) {n size : Nat} (room : n < size) :
    Terminated (copied json field n) size := by
  rcases field with _ | _ | value
  · exact ⟨n, room, rfl⟩
  · exact ⟨n, room, rfl⟩
  · exact strncpy_terminated room rfl

theorem hasText_iff (key : String) {n : Nat} (room : 0 < n) :
    jsonHasField json (some obj) key = true ∧
        copied json (json.objectGetEx (some obj) key) n 0 ≠ 0 ↔
      HasText json obj key := by
  rw [jsonHasField, HasText]
  rcases json.objectGetEx (some obj) key with _ | _ | value
  · simp
  · simp [copied, zeroed]
  · rw [copied, strncpy_zero room]
    have ended := (json.getString value).ended
    cases bytes : (json.getString value).bytes with
    | nil => simp [bytes]
    | cons first rest =>
        rw [bytes] at ended
        have first_ne : first ≠ 0 := fun zero => ended (by simp [zero])
        simp [bytes, first_ne]

theorem storeMember_before (key : String) (dest : Storage) {start i : Nat} (before : i < start) :
    storeMember json (some obj) key dest start i = dest i := by
  rw [storeMember]
  cases json.objectGetEx (some obj) key with
  | none => rfl
  | some field => exact storeInt_before _ before

theorem storeMember_found {key : String} {field : Option J}
    (found : json.objectGetEx (some obj) key = some field) (dest : Storage) (start : Nat) :
    loadInt (storeMember json (some obj) key dest start) start = json.int field := by
  rw [storeMember, found]
  exact loadInt_storeInt _

theorem addressSize_pos (format : ModbusFormat) : 0 < format.addressSize - 1 := by
  cases format <;> decide

/-- Overlap or not, the bytes of a line that the checks look at come from its own format. -/
theorem loaded_ok {format : ModbusFormat} (chosen : formatOf json obj = some format) :
    validateModuleConfig json family jsonIndex (some obj) (loaded json obj format) = .ok () ↔
      Acceptable json obj := by
  have room := addressSize_pos format
  have first : (loaded json obj format).line 0 =
      copied json (json.objectGetEx (some obj) format.addressKey) (format.addressSize - 1) 0 :=
    storeMember_before _ _ (by omega)
  have name := @hasText_iff J json obj "name" (nameSize - 1) (by decide)
  rw [validateModuleConfig_ok, first]
  constructor
  · rintro ⟨named, ⟨hasUid, uid⟩, addressed, hasNumber, number⟩
    rcases Option.isSome_iff_exists.mp hasUid with ⟨uidField, uidFound⟩
    rcases Option.isSome_iff_exists.mp hasNumber with ⟨numberField, numberFound⟩
    refine ⟨name.mp named, ⟨uidField, uidFound, ?_⟩, format, chosen,
      (hasText_iff _ room).mp addressed, numberField, numberFound, ?_⟩
    · simpa [loaded, uidFound] using uid
    · rw [← storeMember_found numberFound]
      exact number
  · rintro ⟨named, ⟨uidField, uidFound, uid⟩, other, same, addressed, numberField, numberFound,
      number⟩
    rw [chosen] at same
    cases same
    refine ⟨name.mpr named, ⟨Option.isSome_iff_exists.mpr ⟨uidField, uidFound⟩, ?_⟩,
      (hasText_iff _ room).mpr addressed, Option.isSome_iff_exists.mpr ⟨numberField, numberFound⟩,
      ?_⟩
    · simpa [loaded, uidFound] using uid
    · change format.accepts
        (loadInt (storeMember json (some obj) format.numberKey _ format.addressSize)
          format.addressSize)
      rw [storeMember_found numberFound]
      exact number

theorem storeMember_terminated (key : String) {dest : Storage} {size : Nat}
    (terminated : Terminated dest size) :
    Terminated (storeMember json (some obj) key dest size) size := by
  rcases terminated with ⟨i, inside, ended⟩
  exact ⟨i, inside, (storeMember_before key dest inside).trans ended⟩

theorem int32_within {value lower upper : Int32} (within : ¬ (value < lower ∨ value > upper)) :
    lower.toInt ≤ value.toInt ∧ value.toInt ≤ upper.toInt := by
  simp only [not_or, Int32.not_lt, gt_iff_lt, Int32.le_iff_toInt_le] at within
  exact within

theorem validateRtuBaud_within {baud : Int} (valid : validateRtuBaud baud = true) :
    4800 ≤ baud ∧ baud ≤ 115200 ∧ baud % 100 = 0 := by
  rw [validateRtuBaud, Bool.and_eq_true, Bool.and_eq_true, decide_eq_true_eq, decide_eq_true_eq,
    decide_eq_true_eq] at valid
  rcases valid with ⟨⟨low, high⟩, step⟩
  have positive : 0 ≤ baud := le_trans (by decide) low
  rw [Int.tmod_eq_emod_of_nonneg positive] at step
  exact ⟨low, high, step⟩

theorem loaded_valid {format : ModbusFormat} (enabled : entryEnabled json (some obj) = true)
    (checked : validateModuleConfig json family jsonIndex (some obj) (loaded json obj format) =
      .ok ()) : (loaded json obj format).Valid := by
  have terminated : Terminated (loaded json obj format).line format.addressSize :=
    storeMember_terminated _ (copied_terminated _ (by cases format <;> decide))
  rcases (validateModuleConfig_ok (some obj) (loaded json obj format)).mp checked with
    ⟨⟨-, name⟩, ⟨-, uid⟩, ⟨-, address⟩, -, number⟩
  refine ⟨?_, ⟨?_, copied_terminated _ (by decide)⟩, int32_within uid, ?_, ?_⟩
  · rw [entryEnabled] at enabled
    change ((json.objectGetEx (some obj) "enabled").elim false json.boolean) = true
    cases found : json.objectGetEx (some obj) "enabled" with
    | none => simp [found] at enabled
    | some field => simpa [found] using enabled
  · exact fun empty => name ((cString_eq_nil (by decide)).mp empty)
  · rintro rtu
    cases rtu
    exact ⟨⟨fun empty => address ((cString_eq_nil (by decide)).mp empty), terminated⟩,
      validateRtuBaud_within number⟩
  · rintro tcp
    cases tcp
    exact ⟨⟨fun empty => address ((cString_eq_nil (by decide)).mp empty), terminated⟩,
      int32_within number⟩

theorem loadEntry_cases (family : String) (jsonIndex : Nat)
    (enabled : entryEnabled json (some obj) = true) :
    (Acceptable json obj ∧ ∃ config,
        loadEntry json family jsonIndex (some obj) = .ok config ∧ config.Valid) ∨
      (NullCopied json obj ∧ loadEntry json family jsonIndex (some obj) = .error .nullString) ∨
      ((¬ NullCopied json obj ∧ ¬ Acceptable json obj) ∧ ∃ error,
        loadEntry json family jsonIndex (some obj) = .error (.configError error)) := by
  rw [loadEntry]
  rcases loadModuleConfig_cases json family jsonIndex obj with
    ⟨null, read⟩ | ⟨noNull, chosen, error, read⟩ | ⟨noNull, format, chosen, read⟩
  · rw [read]
    exact .inr (.inl ⟨null, rfl⟩)
  · rw [read]
    refine .inr (.inr ⟨⟨noNull, fun acceptable => ?_⟩, error, rfl⟩)
    rcases acceptable.line with ⟨format, same, -⟩
    rw [chosen] at same
    cases same
  · have accepted := @loaded_ok J json obj family jsonIndex format chosen
    rw [read]
    rcases @validateModuleConfig_cases J json family jsonIndex (some obj) (loaded json obj format)
      with checked | ⟨error, failed⟩
    · refine .inl ⟨accepted.mp checked, loaded json obj format, ?_, loaded_valid enabled checked⟩
      exact congrArg (fun done => done >>= fun _ => Except.ok (loaded json obj format)) checked
    · refine .inr (.inr ⟨⟨noNull, fun acceptable => ?_⟩, error, ?_⟩)
      · rw [accepted.mpr acceptable] at failed
        cases failed
      · exact congrArg (fun done => done >>= fun _ => Except.ok (loaded json obj format)) failed

end Entry

section Loops

variable {J : Type} (json : JsonC J)

def StopsAt (kind : J → Prop) (entries : List J) : Prop :=
  ∃ before entry after, entries = before ++ entry :: after ∧
    (∀ earlier ∈ before, Acceptable json earlier) ∧ kind entry

variable {json} {kind other : J → Prop} {entry : J} {entries more : List J}

theorem stopsAt_here (here : kind entry) : StopsAt json kind (entry :: entries) :=
  ⟨[], entry, entries, rfl, List.forall_mem_nil _, here⟩

theorem StopsAt.behind (stops : StopsAt json kind entries) (acceptable : Acceptable json entry) :
    StopsAt json kind (entry :: entries) := by
  rcases stops with ⟨before, last, after, rfl, earlier, here⟩
  exact ⟨entry :: before, last, after, rfl, List.forall_mem_cons.mpr ⟨acceptable, earlier⟩, here⟩

theorem StopsAt.append_left (stops : StopsAt json kind entries) :
    StopsAt json kind (entries ++ more) := by
  rcases stops with ⟨before, last, after, rfl, earlier, here⟩
  exact ⟨before, last, after ++ more, by simp, earlier, here⟩

theorem StopsAt.append_right (stops : StopsAt json kind more)
    (acceptable : ∀ entry ∈ entries, Acceptable json entry) :
    StopsAt json kind (entries ++ more) := by
  induction entries with
  | nil => exact stops
  | cons entry rest ih =>
      rw [List.forall_mem_cons] at acceptable
      exact (ih acceptable.2).behind acceptable.1

/-- Entries of two kinds, neither acceptable, that both come first are one entry. -/
theorem StopsAt.same (first : StopsAt json kind entries) (second : StopsAt json other entries)
    (firstKind : ∀ entry, kind entry → ¬ Acceptable json entry)
    (secondKind : ∀ entry, other entry → ¬ Acceptable json entry) :
    ∃ entry, kind entry ∧ other entry := by
  rcases first with ⟨before, entry, after, rfl, earlier, here⟩
  rcases second with ⟨before', entry', after', same, earlier', here'⟩
  induction before generalizing before' with
  | nil =>
      cases before' with
      | nil =>
          cases same
          exact ⟨entry, here, here'⟩
      | cons head rest =>
          cases same
          exact absurd (earlier' entry (List.mem_cons_self ..)) (firstKind entry here)
  | cons head rest ih =>
      cases before' with
      | nil =>
          cases same
          exact absurd (earlier _ (List.mem_cons_self ..)) (secondKind _ here')
      | cons head' rest' =>
          rw [List.forall_mem_cons] at earlier earlier'
          exact ih earlier.2 rest' (List.cons.inj same).2 earlier'.2

variable (json)

def Refused (obj : J) : Prop := ¬ NullCopied json obj ∧ ¬ Acceptable json obj

def Ends (entries : List J) (bound : Nat) (result : Load (List ModuleConfig)) : Prop :=
  ((∀ entry ∈ entries, Acceptable json entry) ∧ ∃ configs, result = .ok configs ∧
      configs.length ≤ bound ∧ ∀ config ∈ configs, config.Valid) ∨
    (StopsAt json (NullCopied json) entries ∧ result = .error .nullString) ∨
    (StopsAt json (Refused json) entries ∧ ∃ error, result = .error (.configError error))

def enabledEntries (elements : List (Option J)) : List J :=
  elements.filterMap fun element => element.filter fun obj => entryEnabled json (some obj)

/-- The entries of a family that the loader reads as long as none stops it. -/
def familyEntries (max : Nat) (array : Option J) : List J :=
  match arrayEntries json array with
  | none => []
  | some elements => (enabledEntries json elements).take max

def memberEntries (max : Nat) (document : J) (key : String) : List J :=
  match json.objectGetEx (some document) key with
  | none => []
  | some array => familyEntries json max array

def documentEntries (document : J) : List J :=
  memberEntries json maxInverterCount document "INVERTER" ++
    memberEntries json maxUpsCount document "UPS"

variable {json} {family : String}

theorem enabledEntries_cons (element : Option J) (rest : List (Option J)) :
    enabledEntries json (element :: rest) =
      if entryEnabled json element then element.toList ++ enabledEntries json rest
      else enabledEntries json rest := by
  cases element with
  | none => rfl
  | some obj => cases enabled : entryEnabled json (some obj) <;>
      simp [enabledEntries, Option.filter_some, enabled]

theorem entryEnabled_some {element : Option J} (enabled : entryEnabled json element = true) :
    ∃ obj, element = some obj := by
  cases element with
  | none => cases enabled
  | some obj => exact ⟨obj, rfl⟩

theorem Ends.cons {bound : Nat} {result : Load (List ModuleConfig)}
    (ends : Ends json entries bound result) (acceptable : Acceptable json entry) :
    Ends json (entry :: entries) bound result := by
  rcases ends with ⟨all, done⟩ | ⟨stops, null⟩ | ⟨stops, failed⟩
  · exact .inl ⟨List.forall_mem_cons.mpr ⟨acceptable, all⟩, done⟩
  · exact .inr (.inl ⟨stops.behind acceptable, null⟩)
  · exact .inr (.inr ⟨stops.behind acceptable, failed⟩)

theorem loadEntries_ends (max jsonIndex : Nat) (elements : List (Option J))
    (kept : List ModuleConfig) (room : kept.length < max)
    (valid : ∀ config ∈ kept, config.Valid) :
    Ends json ((enabledEntries json elements).take (max - kept.length)) max
      (loadEntries json family max jsonIndex elements kept) := by
  induction elements generalizing jsonIndex kept with
  | nil =>
      refine .inl ⟨?_, kept, rfl, room.le, valid⟩
      simp [enabledEntries]
  | cons element rest ih =>
      rw [enabledEntries_cons, loadEntries]
      by_cases enabled : entryEnabled json element = true
      · rcases entryEnabled_some enabled with ⟨obj, rfl⟩
        have one : max - kept.length = max - (kept.length + 1) + 1 := by omega
        rw [if_pos enabled, if_neg (not_not.mpr enabled), Option.toList_some,
          List.singleton_append, one, List.take_succ_cons]
        rcases loadEntry_cases family jsonIndex enabled with
          ⟨acceptable, config, read, isValid⟩ | ⟨null, read⟩ | ⟨refused, error, read⟩
        · have longer : (kept ++ [config]).length = kept.length + 1 := by simp
          have allValid : ∀ entry ∈ kept ++ [config], entry.Valid := by
            rw [List.forall_mem_append, List.forall_mem_singleton]
            exact ⟨valid, isValid⟩
          rw [read]
          change Ends json _ _ (if _ then _ else _)
          apply Ends.cons _ acceptable
          by_cases last : kept.length + 1 ≥ max
          · rw [if_pos last, Nat.sub_eq_zero_of_le last, List.take_zero]
            exact .inl ⟨List.forall_mem_nil _, _, rfl, by omega, allValid⟩
          · rw [if_neg last, ← longer]
            exact ih (jsonIndex + 1) (kept ++ [config]) (by omega) allValid
        · rw [read]
          exact .inr (.inl ⟨stopsAt_here null, rfl⟩)
        · rw [read]
          exact .inr (.inr ⟨stopsAt_here refused, error, rfl⟩)
      · rw [if_neg enabled, if_pos enabled]
        exact ih (jsonIndex + 1) kept room valid

theorem loadFamily_ends (max : Nat) (room : 0 < max) (array : Option J) :
    Ends json (familyEntries json max array) max (loadFamily json family max array) := by
  rw [familyEntries, loadFamily]
  cases arrayEntries json array with
  | none => exact .inl ⟨List.forall_mem_nil _, [], rfl, Nat.zero_le _, List.forall_mem_nil _⟩
  | some elements => exact loadEntries_ends max 0 elements [] room (List.forall_mem_nil _)

theorem loadMember_ends (max : Nat) (room : 0 < max) (document : J) (key : String) :
    Ends json (memberEntries json max document key) max
      (loadMember json document key (loadFamily json family max)) := by
  rw [memberEntries, loadMember]
  cases json.objectGetEx (some document) key with
  | none => exact .inl ⟨List.forall_mem_nil _, [], rfl, Nat.zero_le _, List.forall_mem_nil _⟩
  | some array => exact loadFamily_ends max room array

end Loops

section Documents

variable {J : Type} (json : JsonC J)

structure SystemConfig.Valid (config : SystemConfig) : Prop where
  inverterCount : config.inverterCount = config.inverter.length ∧ config.inverterCount ≤ 10
  upsCount : config.upsCount = config.ups.length ∧ config.upsCount ≤ 10
  entries : ∀ entry ∈ config.inverter ++ config.ups, entry.Valid

/-- The loader ends with an error or with a valid configuration, and not at a null. -/
def LoadsValid (document : J) : Prop :=
  match loadJsonConfig json document with
  | .ok config => config.Valid
  | .error (.configError _) => True
  | .error .nullString => False

theorem loadJsonConfig_cases (document : J) :
    ((∀ entry ∈ documentEntries json document, Acceptable json entry) ∧
        ∃ config, loadJsonConfig json document = .ok config ∧ config.Valid) ∨
      (StopsAt json (NullCopied json) (documentEntries json document) ∧
        loadJsonConfig json document = .error .nullString) ∨
      (StopsAt json (Refused json) (documentEntries json document) ∧
        ∃ error, loadJsonConfig json document = .error (.configError error)) := by
  rw [documentEntries, loadJsonConfig]
  rcases @loadMember_ends J json "INVERTER" maxInverterCount (by decide) document "INVERTER" with
    ⟨allInverter, inverter, read, few, valid⟩ | ⟨stops, read⟩ | ⟨stops, error, read⟩
  · change loadMember json document "INVERTER" (loadInverterConfig json) = _ at read
    rw [read]
    rcases @loadMember_ends J json "UPS" maxUpsCount (by decide) document "UPS" with
      ⟨allUps, ups, readUps, fewUps, validUps⟩ | ⟨stops, readUps⟩ | ⟨stops, error, readUps⟩
    · change loadMember json document "UPS" (loadUpsConfig json) = _ at readUps
      rw [readUps]
      refine .inl ⟨List.forall_mem_append.mpr ⟨allInverter, allUps⟩, _, rfl, ?_⟩
      exact ⟨⟨rfl, few⟩, ⟨rfl, fewUps⟩, List.forall_mem_append.mpr ⟨valid, validUps⟩⟩
    · change loadMember json document "UPS" (loadUpsConfig json) = _ at readUps
      rw [readUps]
      exact .inr (.inl ⟨stops.append_right allInverter, rfl⟩)
    · change loadMember json document "UPS" (loadUpsConfig json) = _ at readUps
      rw [readUps]
      exact .inr (.inr ⟨stops.append_right allInverter, error, rfl⟩)
  · change loadMember json document "INVERTER" (loadInverterConfig json) = _ at read
    rw [read]
    exact .inr (.inl ⟨stops.append_left, rfl⟩)
  · change loadMember json document "INVERTER" (loadInverterConfig json) = _ at read
    rw [read]
    exact .inr (.inr ⟨stops.append_left, error, rfl⟩)

/-- The loader ends as it should if and only if none of the entries it gets to has a null
where it copies a text. -/
theorem loadJsonConfig_iff (document : J) :
    LoadsValid json document ↔
      ∀ before entry after, documentEntries json document = before ++ entry :: after →
        (∀ earlier ∈ before, Acceptable json earlier) → ¬ NullCopied json entry := by
  have unstopped : ¬ StopsAt json (NullCopied json) (documentEntries json document) ↔
      ∀ before entry after, documentEntries json document = before ++ entry :: after →
        (∀ earlier ∈ before, Acceptable json earlier) → ¬ NullCopied json entry := by
    simp only [StopsAt, not_exists, not_and]
  have nulls : ∀ entry, NullCopied json entry → ¬ Acceptable json entry :=
    fun _ => not_acceptable_of_nullCopied json
  rw [← unstopped, LoadsValid]
  rcases loadJsonConfig_cases json document with
    ⟨all, config, read, valid⟩ | ⟨stops, read⟩ | ⟨stops, error, read⟩
  · rw [read]
    refine iff_of_true valid ?_
    rintro ⟨before, entry, after, split, -, null⟩
    have inside : entry ∈ documentEntries json document := by
      rw [split]
      exact List.mem_append_right _ (List.mem_cons_self ..)
    exact nulls entry null (all entry inside)
  · rw [read]
    exact iff_of_false id (not_not.mpr stops)
  · rw [read]
    refine iff_of_true trivial fun null => ?_
    rcases null.same stops nulls (fun _ refused => refused.2) with ⟨entry, isNull, refused⟩
    exact refused.1 isNull

end Documents

def ModuleConfig.Valid.rtuEntry {config : ModuleConfig} (valid : config.Valid)
    (rtu : config.format = .rtu) : RtuEntry where
  path := config.path
  baudRate := config.baudRate.toInt
  fits := cString_length_lt (valid.rtu rtu).1.2

theorem ModuleConfig.Valid.rtuEntry_valid {config : ModuleConfig} (valid : config.Valid)
    (rtu : config.format = .rtu) : validateRtuLine (valid.rtuEntry rtu) = true := by
  rcases valid.rtu rtu with ⟨⟨named, -⟩, low, high, step⟩
  have positive : 0 ≤ config.baudRate.toInt := le_trans (by decide) low
  rw [validateRtuLine, Bool.and_eq_true, decide_eq_true_eq, validateRtuBaud, Bool.and_eq_true,
    Bool.and_eq_true, decide_eq_true_eq, decide_eq_true_eq, decide_eq_true_eq]
  refine ⟨named, ⟨low, high⟩, ?_⟩
  exact (Int.tmod_eq_emod_of_nonneg positive).trans step

/-- The values of `{"INVERTER": [{"enabled": true, "name": null}], "UPS": []}`. -/
inductive NullNameValue where
  | document
  | inverters
  | upsUnits
  | entry
  | enabled
  deriving DecidableEq

def textOf (chars : List Char) (ended : 0 ∉ text chars) : CText := ⟨text chars, ended⟩

def nullNameJson : JsonC NullNameValue where
  objectGet
    | .document, "INVERTER" => some (some .inverters)
    | .document, "UPS" => some (some .upsUnits)
    | .entry, "enabled" => some (some .enabled)
    | .entry, "name" => some none
    | _, _ => none
  getString
    | .document => textOf ("\x7b \"INVERTER\": [ \x7b \"enabled\": true, \"name\": null \x7d ], " ++
        "\"UPS\": [ ] \x7d").toList (by decide)
    | .inverters => textOf "[ \x7b \"enabled\": true, \"name\": null \x7d ]".toList (by decide)
    | .upsUnits => textOf "[ ]".toList (by decide)
    | .entry => textOf "\x7b \"enabled\": true, \"name\": null \x7d".toList (by decide)
    | .enabled => textOf "true".toList (by decide)
  getBoolean value := value = .enabled
  getInt value := if value = .enabled then 1 else 0
  array
    | .inverters => some [some .entry]
    | .upsUnits => some []
    | _ => none

theorem loadJsonConfig_null_name : ¬ LoadsValid nullNameJson .document := by
  have stopped : loadJsonConfig nullNameJson .document = .error .nullString := rfl
  rw [LoadsValid, stopped]
  exact id

end Rs485Gateway.Config
