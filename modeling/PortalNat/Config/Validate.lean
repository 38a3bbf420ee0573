import PortalNat.Config.Basic
import PortalNat.Config.Invalid

/-!
# Validating configurations

The rules that the values of a configuration keep with each other, in the order they are checked.
The first rule that is broken is the one reported.
-/

namespace PortalNat

/-- Report a rule if it is broken. -/
def refuseIf (broken : Prop) [Decidable broken] (reason : Invalid) : Except Invalid Unit :=
  if broken then .error reason else .ok ()

namespace NatSection

/-- The listener, where it is asked for at an IPv6 address. -/
def listenerV6? (settings : NatSection) : Option Endpoint :=
  settings.listener?.filter (·.family == .v6)

/-- Check the rules for one section. -/
def validate (settings : NatSection) : Except Invalid Unit := do
  refuseIf (settings.portalV4 = settings.gatewayV4) (.portalIsGatewayV4 settings.portalV4)
  refuseIf (settings.ipv6Enabled ∧ settings.portalV6 = settings.gatewayV6)
    (.portalIsGatewayV6 settings.portalV6)
  refuseIf (settings.mtu.toNat < leastMtu ∨ largestMtu < settings.mtu.toNat)
    (.mtuOutOfRange settings.mtu)
  let (lowest, highest) := settings.sessionPorts
  refuseIf (lowest = 0 ∨ highest < lowest) (.portRangeEmpty lowest highest)
  refuseIf (settings.sweepIntervalMillis = 0) .sweepIntervalZero
  refuseIf (settings.udpMode = .pull ∧ settings.udpReaders = 0) .noReaders
  refuseIf (settings.udpTimeoutSeconds = 0) .udpTimeoutZero
  match settings.listenerV6? with
  | some listener => refuseIf (settings.ipv6Enabled = false) (.listenerFamilyDisabled listener)
  | none => return ()

end NatSection

/-- The most bytes that the name of an interface may have, and one more. -/
def deviceNameLimit : Nat := 16

@[inherit_doc NatSection.validate]
def DeviceSection.validate (settings : DeviceSection) : Except Invalid Unit :=
  match settings.descriptor?, settings.name? with
  | some descriptor, _ => refuseIf (descriptor < 0) (.descriptorNegative descriptor)
  | none, none => .error .noDevice
  | none, some name =>
    refuseIf (name.isEmpty ∨ deviceNameLimit ≤ name.utf8ByteSize) (.deviceNameLength name)

@[inherit_doc NatSection.validate]
def LogSection.validate (settings : LogSection) : Except Invalid Unit :=
  refuseIf (settings.format ≠ "json" ∧ settings.format ≠ "text")
    (.logFormatUnknown settings.format)

/-- Check every rule. -/
def Config.validate (config : Config) : Except Invalid Unit := do
  config.nat.validate
  config.device.validate
  config.log.validate

end PortalNat
