import PortalNat.Address.Text
import PortalNat.Text.Quoted

/-!
# Invalid configurations

What can be wrong with a configuration that was read without trouble, and how it is reported.
-/

namespace PortalNat

/-- The least packet size that every IPv4 host must accept. -/
def leastMtu : Nat := 576

/-- The largest packet size that the length field of IPv4 can state. -/
def largestMtu : Nat := 65535

/-- A rule that a configuration breaks, with the offending values. -/
inductive Invalid where
  | portalIsGatewayV4 (address : V4)
  | portalIsGatewayV6 (address : V6)
  | mtuOutOfRange (mtu : UInt32)
  | portRangeEmpty (lowest highest : UInt16)
  | sweepIntervalZero
  | noReaders
  | udpTimeoutZero
  | listenerFamilyDisabled (address : Endpoint)
  | descriptorNegative (descriptor : Int32)
  | noDevice
  | deviceNameLength (name : String)
  | logFormatUnknown (format : String)
  | described (text : String)
deriving DecidableEq, Repr

def Invalid.text : Invalid → String
  | portalIsGatewayV4 address =>
    s!"portal_v4 and gateway_v4 must differ (both {address.toText})"
  | portalIsGatewayV6 address =>
    s!"portal_v6 and gateway_v6 must differ (both {address.toText})"
  | mtuOutOfRange mtu =>
    s!"mtu must be between {leastMtu} and {largestMtu}, got {mtu.toNat}"
  | portRangeEmpty lowest highest =>
    "session_port_range must be a non-empty range within 1..=65535, got "
      ++ s!"{lowest.toNat}..={highest.toNat}"
  | sweepIntervalZero => "sweep_interval_ms must be greater than 0"
  | noReaders => "udp_readers must be greater than 0 in pull mode"
  | udpTimeoutZero => "udp_timeout_secs must be greater than 0"
  | listenerFamilyDisabled address =>
    s!"listen_addr {address.toText} is IPv6 but ipv6_enabled is false"
  | descriptorNegative descriptor =>
    s!"device.fd must be non-negative, got {descriptor.toInt}"
  | noDevice => "device.fd or device.name must be set"
  | deviceNameLength name => "device.name must be 1 to 15 bytes, got " ++ Text.quoted name
  | logFormatUnknown format =>
    "log.format must be \"json\" or \"text\", got " ++ Text.quoted format
  | described text => text

end PortalNat
