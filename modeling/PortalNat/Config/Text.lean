import PortalNat.Config.Basic
import PortalNat.Json.Parse
import PortalNat.Json.Print

/-!
# Configuration text

How a configuration is written as JSON and read back. A section is an object, or an array of its
fields in order. Fields that are missing keep their defaults, unknown ones are ignored, and one that
is given twice is an error. One list of fields says for each section how it is read and written.
-/

namespace PortalNat

/-- A field of a section: its name, how it is read into the section and how it is written. -/
structure Field (Record : Type) where
  name : String
  read : Json → Record → Option Record
  write : Record → Json

namespace Field

/-- Enter a member of an object into a section. The names of the fields read so far are kept, so
that none is read twice. -/
def readMember {Record : Type} (fields : List (Field Record)) (progress : Record × List String)
    (member : List Nat × Json) : Option (Record × List String) := do
  let (record, seen) := progress
  let name ← Json.characters? member.1
  match fields.find? (·.name == name) with
  | none => return progress
  | some field =>
    guard (!seen.contains name)
    return (← field.read member.2 record, name :: seen)

/-- Read a section, starting from its defaults. -/
def readAll {Record : Type} (fields : List (Field Record)) (defaults : Record) :
    Json → Option Record
  | .object members => (members.foldlM (readMember fields) (defaults, [])).map (·.1)
  | .array elements => do
    guard (elements.length ≤ fields.length)
    (fields.zip elements).foldlM (fun record (field, element) => field.read element record)
      defaults
  | _ => none

/-- Write a section. -/
def writeAll {Record : Type} (fields : List (Field Record)) (record : Record) : Json :=
  Json.fields (fields.map fun field => (field.name, field.write record))

end Field

/-- How values of a type are read and written. -/
structure Form (Value : Type) where
  read : Json → Option Value
  write : Value → Json

namespace Form

/-- A value that is written as a text. -/
def spelled {Value : Type} (parse? : String → Option Value) (spell : Value → String) :
    Form Value where
  read json := json.text? >>= parse?
  write value := Json.text (spell value)

def addressV4 : Form V4 := spelled V4.parse? V4.toText

def addressV6 : Form V6 := spelled V6.parse? V6.toText

def endpoint : Form Endpoint := spelled Endpoint.parse? Endpoint.toText

def range : Form Range := spelled Range.parse? Range.toText

def text : Form String := ⟨Json.text?, Json.text⟩

def flag : Form Bool := ⟨Json.bool?, Json.bool⟩

/-- A number of sixteen bits. -/
def word : Form UInt16 where
  read json := (json.countBelow? UInt16.size).map UInt16.ofNat
  write value := Json.count value.toNat

/-- A number of thirty-two bits. -/
def doubleWord : Form UInt32 where
  read json := (json.countBelow? UInt32.size).map UInt32.ofNat
  write value := Json.count value.toNat

/-- A number of sixty-four bits. -/
def quadWord : Form UInt64 where
  read json := (json.countBelow? UInt64.size).map UInt64.ofNat
  write value := Json.count value.toNat

/-- A number of thirty-two bits with a sign. -/
def signed : Form Int32 where
  read json := do
    let value ← json.integer?
    guard (Int32.minValue.toInt ≤ value ∧ value ≤ Int32.maxValue.toInt)
    return Int32.ofInt value
  write value := .integer value.toInt

/-- A value that may be missing. -/
def optional {Value : Type} (form : Form Value) : Form (Option Value) where
  read
    | .null => some none
    | json => (form.read json).map some
  write
    | none => .null
    | some value => form.write value

/-- Exactly two values. -/
def pair {Value : Type} (form : Form Value) : Form (Value × Value) where
  read
    | .array [first, second] => do return (← form.read first, ← form.read second)
    | _ => none
  write value := .array [form.write value.1, form.write value.2]

def list {Value : Type} (form : Form Value) : Form (List Value) where
  read json := do (← json.array?).mapM form.read
  write values := .array (values.map form.write)

/-- One of some named values, given by its name alone or as `{"name": null}`. -/
def choice {Value : Type} [DecidableEq Value] (names : List (Value × String)) : Form Value where
  read json := do
    let name ← match json with
      | .object [(name, .null)] => Json.characters? name
      | json => json.text?
    let (value, _) ← names.find? (·.2 == name)
    return value
  write value :=
    match names.find? (·.1 == value) with
    | some (_, name) => Json.text name
    | none => .null

end Form

/-- A field whose value has a form of its own. -/
def Field.of {Record Value : Type} (name : String) (form : Form Value) (get : Record → Value)
    (set : Value → Record → Record) : Field Record where
  name
  read json record := (form.read json).map (set · record)
  write record := form.write (get record)

def UdpMode.form : Form UdpMode :=
  Form.choice [(.push, "push"), (.pull, "pull")]

def EchoPolicy.form : Form EchoPolicy :=
  Form.choice [(.portal, "portal"), (.all, "all"), (.off, "off")]

def NatSection.fields : List (Field NatSection) :=
  [.of "portal_v4" .addressV4 (·.portalV4) fun value record => { record with portalV4 := value },
    .of "gateway_v4" .addressV4 (·.gatewayV4) fun value record =>
      { record with gatewayV4 := value },
    .of "portal_v6" .addressV6 (·.portalV6) fun value record => { record with portalV6 := value },
    .of "gateway_v6" .addressV6 (·.gatewayV6) fun value record =>
      { record with gatewayV6 := value },
    .of "ipv6_enabled" .flag (·.ipv6Enabled) fun value record =>
      { record with ipv6Enabled := value },
    .of "mtu" .doubleWord (·.mtu) fun value record => { record with mtu := value },
    .of "listen_addr" (.optional .endpoint) (·.listener?) fun value record =>
      { record with listener? := value },
    .of "session_port_range" (.pair .word) (·.sessionPorts) fun value record =>
      { record with sessionPorts := value },
    .of "tcp_linger_ms" .quadWord (·.lingerMillis) fun value record =>
      { record with lingerMillis := value },
    .of "session_idle_timeout_secs" .quadWord (·.idleTimeoutSeconds) fun value record =>
      { record with idleTimeoutSeconds := value },
    .of "sweep_interval_ms" .quadWord (·.sweepIntervalMillis) fun value record =>
      { record with sweepIntervalMillis := value },
    .of "udp_mode" UdpMode.form (·.udpMode) fun value record => { record with udpMode := value },
    .of "udp_readers" .quadWord (·.udpReaders) fun value record =>
      { record with udpReaders := value },
    .of "udp_timeout_secs" .quadWord (·.udpTimeoutSeconds) fun value record =>
      { record with udpTimeoutSeconds := value },
    .of "icmp_echo" EchoPolicy.form (·.echoPolicy) fun value record =>
      { record with echoPolicy := value },
    .of "bypass_ranges" (.list .range) (·.bypass) fun value record =>
      { record with bypass := value }]

def DeviceSection.fields : List (Field DeviceSection) :=
  [.of "fd" (.optional .signed) (·.descriptor?) fun value record =>
      { record with descriptor? := value },
    .of "name" (.optional .text) (·.name?) fun value record => { record with name? := value }]

def LogSection.fields : List (Field LogSection) :=
  [.of "level" .text (·.level) fun value record => { record with level := value },
    .of "format" .text (·.format) fun value record => { record with format := value },
    .of "target" .flag (·.withTarget) fun value record => { record with withTarget := value }]

/-- How a section is read and written as a whole. -/
def Form.record {Record : Type} (fields : List (Field Record)) (defaults : Record) :
    Form Record where
  read := Field.readAll fields defaults
  write := Field.writeAll fields

def NatSection.form : Form NatSection := .record NatSection.fields {}

def Config.fields : List (Field Config) :=
  [.of "nat" NatSection.form (·.nat) fun value record => { record with nat := value },
    .of "device" (.record DeviceSection.fields {}) (·.device) fun value record =>
      { record with device := value },
    .of "log" (.record LogSection.fields {}) (·.log) fun value record =>
      { record with log := value }]

def Config.form : Form Config := .record Config.fields {}

/-- Read a configuration. -/
def Config.parse? (text : String) : Option Config :=
  Json.parse? text >>= Config.form.read

/-- Write a configuration. -/
protected def Config.toText (config : Config) : String :=
  (Config.form.write config).print

end PortalNat
