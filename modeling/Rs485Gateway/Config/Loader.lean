import Rs485Gateway.Cmos.ReceiveLoop
import Rs485Gateway.Daemon.LineSpeed
import Rs485Gateway.Lists.Storage

/-! The configuration loader (`config_loader.c`): what it stores of a JSON document, and how
it stops. -/

namespace Rs485Gateway.Config

open Rs485Gateway.Lists

structure CText where
  bytes : CStr
  ended : 0 ∉ bytes

/-- The getters of json-c, on values that are not null. -/
structure JsonC (J : Type) where
  objectGet : J → String → Option (Option J)
  getString : J → CText
  getBoolean : J → Bool
  getInt : J → Int32
  /-- The elements of an array. -/
  array : J → Option (List (Option J))

namespace JsonC

variable {J : Type} (json : JsonC J)

/-- `json_object_object_get_ex`; a null member is found. -/
def objectGetEx (obj : Option J) (key : String) : Option (Option J) :=
  obj.bind fun value => json.objectGet value key

def string (field : Option J) : Option CText := field.map json.getString

def boolean (field : Option J) : Bool := field.elim false json.getBoolean

def int (field : Option J) : Int32 := field.elim 0 json.getInt

end JsonC

inductive ModbusFormat where
  | rtu
  | tcp
  deriving DecidableEq

def nameSize : Nat := 64
def pathSize : Nat := 256
def ipSize : Nat := 64

/-- `module_config_t`; `line` is the union of `path` and `baud_rate` with `ip` and `port`. -/
structure ModuleConfig where
  name : Storage
  enabled : Bool
  modbusUid : Int32
  format : ModbusFormat
  line : Storage

namespace ModuleConfig

def zero : ModuleConfig where
  name := zeroed
  enabled := false
  modbusUid := 0
  format := .rtu
  line := zeroed

def nameText (config : ModuleConfig) : CStr := cString config.name nameSize

def path (config : ModuleConfig) : CStr := cString config.line pathSize

def baudRate (config : ModuleConfig) : Int32 := loadInt config.line pathSize

def ip (config : ModuleConfig) : CStr := cString config.line ipSize

def port (config : ModuleConfig) : Int32 := loadInt config.line ipSize

end ModuleConfig

structure ConfigError where
  family : String
  jsonIndex : Nat
  name : CStr
  reason : String
  deriving DecidableEq

/-- How the loader stops early: with an error, or at a copy from `NULL`. -/
inductive LoadStop where
  | configError (error : ConfigError)
  | nullString
  deriving DecidableEq

abbrev Load := Except LoadStop

def strIsEmpty (text : Storage) : Bool := text 0 = 0

section Failures

variable {α : Type}

def configLoadFail (family : String) (jsonIndex : Nat) (cfg : ModuleConfig) (reason : String) :
    Load α :=
  .error (.configError
    { family := family
      jsonIndex := jsonIndex
      name := if strIsEmpty cfg.name then text "(unnamed)".toList else cfg.nameText
      reason := reason })

def configFailMissing (family : String) (jsonIndex : Nat) (cfg : ModuleConfig) (field : String) :
    Load α :=
  configLoadFail family jsonIndex cfg ("missing required field \"" ++ field ++ "\"")

def configFailEmpty (family : String) (jsonIndex : Nat) (cfg : ModuleConfig) (field : String) :
    Load α :=
  configLoadFail family jsonIndex cfg ("empty value for \"" ++ field ++ "\"")

def configFailRange (family : String) (jsonIndex : Nat) (cfg : ModuleConfig)
    (field range : String) : Load α :=
  configLoadFail family jsonIndex cfg ("\"" ++ field ++ "\" out of range (" ++ range ++ ")")

def configFailInvalid (family : String) (jsonIndex : Nat) (cfg : ModuleConfig)
    (field expected : String) : Load α :=
  configLoadFail family jsonIndex cfg
    ("invalid \"" ++ field ++ "\" (expected " ++ expected ++ ")")

end Failures

def parseModbusFormatValue : Option CText → Option ModbusFormat
  | none => none
  | some format =>
      if format.bytes = text "RTU".toList then some .rtu
      else if format.bytes = text "TCP".toList then some .tcp
      else none

section Entries

variable {J : Type} (json : JsonC J) (family : String) (jsonIndex : Nat)

def copyMember (obj : Option J) (key : String) (dest : Storage) (n : Nat) : Load Storage :=
  match json.objectGetEx obj key with
  | none => .ok dest
  | some field =>
      match json.string field with
      | none => .error .nullString
      | some value => .ok (strncpy dest value.bytes n)

def storeMember (obj : Option J) (key : String) (dest : Storage) (start : Nat) : Storage :=
  match json.objectGetEx obj key with
  | none => dest
  | some field => storeInt dest start (json.int field)

def loadModuleConfig (obj : Option J) (config : ModuleConfig) : Load ModuleConfig :=
  if obj.isNone then .ok config
  else do
    let name ← copyMember json obj "name" config.name (nameSize - 1)
    let config := { config with name := name }
    let config := { config with
      enabled := (json.objectGetEx obj "enabled").elim config.enabled json.boolean
      modbusUid := (json.objectGetEx obj "modbus_uid").elim config.modbusUid json.int
      format := .rtu }
    let format ← match json.objectGetEx obj "modbus_format" with
      | none => .ok config.format
      | some field =>
          match parseModbusFormatValue (json.string field) with
          | none => configFailInvalid family jsonIndex config "modbus_format" "RTU or TCP"
          | some format => .ok format
    let config := { config with format := format }
    match config.format with
    | .tcp => do
        let line ← copyMember json obj "ip" config.line (ipSize - 1)
        .ok { config with line := storeMember json obj "port" line ipSize }
    | .rtu => do
        let line ← copyMember json obj "path" config.line (pathSize - 1)
        .ok { config with line := storeMember json obj "baud_rate" line pathSize }

def jsonHasField (obj : Option J) (field : String) : Bool := (json.objectGetEx obj field).isSome

def validateModuleConfig (obj : Option J) (cfg : ModuleConfig) : Load Unit :=
  if ¬ jsonHasField json obj "name" then configFailMissing family jsonIndex cfg "name"
  else if strIsEmpty cfg.name then configFailEmpty family jsonIndex cfg "name"
  else if ¬ jsonHasField json obj "modbus_uid" then
    configFailMissing family jsonIndex cfg "modbus_uid"
  else if cfg.modbusUid < 1 ∨ cfg.modbusUid > 247 then
    configFailRange family jsonIndex cfg "modbus_uid" "1-247"
  else match cfg.format with
    | .tcp =>
        if ¬ jsonHasField json obj "ip" then configFailMissing family jsonIndex cfg "ip"
        else if strIsEmpty cfg.line then configFailEmpty family jsonIndex cfg "ip"
        else if ¬ jsonHasField json obj "port" then configFailMissing family jsonIndex cfg "port"
        else if cfg.port < 1 ∨ cfg.port > 65535 then
          configFailRange family jsonIndex cfg "port" "1-65535"
        else .ok ()
    | .rtu =>
        if ¬ jsonHasField json obj "path" then configFailMissing family jsonIndex cfg "path"
        else if strIsEmpty cfg.line then configFailEmpty family jsonIndex cfg "path"
        else if ¬ jsonHasField json obj "baud_rate" then
          configFailMissing family jsonIndex cfg "baud_rate"
        else if ¬ validateRtuBaud cfg.baudRate.toInt then
          configFailInvalid family jsonIndex cfg "baud_rate" "4800-115200, step 100"
        else .ok ()

def loadEntry (obj : Option J) : Load ModuleConfig := do
  let config ← loadModuleConfig json family jsonIndex obj .zero
  validateModuleConfig json family jsonIndex obj config
  .ok config

def entryEnabled (obj : Option J) : Bool :=
  match json.objectGetEx obj "enabled" with
  | none => false
  | some enabled => json.boolean enabled

/-- The loop over the elements from number `jsonIndex` on, behind the entries it has kept. -/
def loadEntries (max : Nat) :
    Nat → List (Option J) → List ModuleConfig → Load (List ModuleConfig)
  | _, [], kept => .ok kept
  | jsonIndex, obj :: rest, kept =>
      if ¬ entryEnabled json obj then loadEntries max (jsonIndex + 1) rest kept
      else do
        let config ← loadEntry json family jsonIndex obj
        if kept.length + 1 ≥ max then .ok (kept ++ [config])
        else loadEntries max (jsonIndex + 1) rest (kept ++ [config])

/-- The elements the loop goes over: their number is kept in an `int`. -/
def arrayEntries (array : Option J) : Option (List (Option J)) :=
  (array.bind json.array).map fun elements =>
    elements.take (Int.bmod elements.length (2 ^ 32)).toNat

def loadFamily (max : Nat) (array : Option J) : Load (List ModuleConfig) :=
  match arrayEntries json array with
  | none => .ok []
  | some elements => loadEntries json family max 0 elements []

end Entries

structure SystemConfig where
  inverter : List ModuleConfig
  inverterCount : Nat
  ups : List ModuleConfig
  upsCount : Nat

section Documents

variable {J : Type} (json : JsonC J)

def loadInverterConfig : Option J → Load (List ModuleConfig) :=
  loadFamily json "INVERTER" maxInverterCount

def loadUpsConfig : Option J → Load (List ModuleConfig) := loadFamily json "UPS" maxUpsCount

def loadMember (document : J) (key : String) (load : Option J → Load (List ModuleConfig)) :
    Load (List ModuleConfig) :=
  match json.objectGetEx (some document) key with
  | none => .ok []
  | some array => load array

def loadJsonConfig (document : J) : Load SystemConfig := do
  let inverter ← loadMember json document "INVERTER" (loadInverterConfig json)
  let ups ← loadMember json document "UPS" (loadUpsConfig json)
  .ok
    { inverter := inverter
      inverterCount := inverter.length
      ups := ups
      upsCount := ups.length }

end Documents

end Rs485Gateway.Config
