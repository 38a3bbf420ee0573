import PortalNat.Address.Text

/-!
# Flow tuples

The source and destination of a flow as they were before it was redirected. Addresses of both
versions are kept in one form, IPv4 addresses being mapped into IPv6, so that one key names a flow
of either version.
-/

namespace PortalNat

/-- The two ends of a flow. -/
structure Tuple where
  sourceAddress : V6
  destinationAddress : V6
  sourcePort : UInt16
  destinationPort : UInt16
deriving DecidableEq, Repr, Hashable

namespace Tuple

/-- The IPv6 form of an address. -/
def widen : Address → V6
  | .v4 address => address.mapped
  | .v6 address => address

/-- The address that an IPv6 form stands for. -/
def narrow (address : V6) : Address :=
  (Address.v6 address).canonical

def of (source destination : Endpoint) : Tuple where
  sourceAddress := widen source.address
  destinationAddress := widen destination.address
  sourcePort := source.port
  destinationPort := destination.port

def source (tuple : Tuple) : Endpoint :=
  Endpoint.of (narrow tuple.sourceAddress) tuple.sourcePort

def destination (tuple : Tuple) : Endpoint :=
  Endpoint.of (narrow tuple.destinationAddress) tuple.destinationPort

/-- The version of IP of the flow, which is that of its source. -/
def family (tuple : Tuple) : Family :=
  tuple.source.family

protected def toText (tuple : Tuple) : String :=
  tuple.source.toText ++ " -> " ++ tuple.destination.toText

/-- An IPv4 address comes back from its IPv6 form. -/
@[simp]
theorem narrow_widen_v4 (address : V4) : narrow (widen (.v4 address)) = .v4 address := by
  simp [narrow, widen, Address.canonical]

end Tuple

end PortalNat
