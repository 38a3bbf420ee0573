import PortalNat.Config.Validate
import PortalNat.Error

/-!
# Environment overrides

Variables of the environment that take precedence over the configuration. A variable that is not
set overrides nothing, and one that should hold a number and does not is an error.
-/

namespace PortalNat

/-- The values of the variables that are set. -/
abbrev Environment := String → Option String

namespace Environment

def descriptorName : String := "TUN_NAT_DEVICE_FD"

def deviceName : String := "TUN_NAT_DEVICE_NAME"

def logLevelName : String := "TUN_NAT_LOG_LEVEL"

def mtuName : String := "TUN_NAT_MTU"

/-- A number below a bound, in decimal digits. -/
def decimal? (bound : Nat) (digits : List Char) : Option Nat :=
  Numeral.parse? ⟨10, none, true, bound⟩ (String.ofList digits)

/-- A number of thirty-two bits, which may have a plus sign. -/
def unsigned? (text : String) : Option UInt32 :=
  let magnitude? := match text.toList with
    | '+' :: digits => decimal? UInt32.size digits
    | digits => decimal? UInt32.size digits
  magnitude?.map UInt32.ofNat

/-- A number of thirty-two bits with a sign, which may be written out. -/
def signed? (text : String) : Option Int32 :=
  let value? : Option Int := match text.toList with
    | '-' :: digits => (decimal? 0x80000001 digits).map fun magnitude => -(magnitude : Int)
    | '+' :: digits => (decimal? 0x80000000 digits).map Int.ofNat
    | digits => (decimal? 0x80000000 digits).map Int.ofNat
  value?.map Int32.ofInt

/-- The value of a variable, read as `parse?` does if it is set. -/
def number {Value : Type} (environment : Environment) (name what : String)
    (parse? : String → Option Value) : Except ConfigError (Option Value) :=
  match environment name with
  | none => .ok none
  | some text =>
    match parse? text with
    | some value => .ok (some value)
    | none => .error (.environment name s!"Invalid {what}: {text}")

end Environment

/-- What the environment overrides. -/
structure Overrides where
  descriptor? : Option Int32
  name? : Option String
  level? : Option String
  mtu? : Option UInt32
deriving DecidableEq, Repr

namespace Overrides

/-- Read the overrides from the environment. -/
def read (environment : Environment) : Except ConfigError Overrides := do
  let descriptor? ←
    environment.number Environment.descriptorName "file descriptor" Environment.signed?
  let mtu? ← environment.number Environment.mtuName "number" Environment.unsigned?
  return { descriptor?
           name? := environment Environment.deviceName
           level? := environment Environment.logLevelName
           mtu? }

/-- A configuration with what is overridden replaced. -/
def apply (overrides : Overrides) (config : Config) : Config where
  nat := { config.nat with mtu := overrides.mtu?.getD config.nat.mtu }
  device :=
    { descriptor? := overrides.descriptor?.or config.device.descriptor?
      name? := overrides.name?.or config.device.name? }
  log := { config.log with level := overrides.level?.getD config.log.level }

end Overrides

/-- Check every rule of a configuration. -/
def Config.check (config : Config) : Except ConfigError Unit :=
  config.validate.mapError .validation

/-- Apply the overrides of the environment to a configuration and check the result. -/
def Config.override (environment : Environment) (config : Config) : Except ConfigError Config := do
  let overrides ← Overrides.read environment
  let merged := overrides.apply config
  merged.check
  return merged

end PortalNat
