import PortalNat.Address.Range

/-!
# Destination scope

Which destinations the translator handles. An address that cannot belong to one remote peer is out
of scope, and so is one in a bypassed range. The portal is always in scope, since the replies of
the stub listener and pings to the portal are addressed to it.
-/

namespace PortalNat

/-- The portal addresses and the ranges that are left alone. -/
structure Scope where
  portalV4 : V4
  portalV6 : V6
  bypass : List Range
deriving Repr

namespace Scope

/-- Whether an address is the portal of its own version of IP. -/
def isPortal (scope : Scope) : Address → Bool
  | .v4 address => address == scope.portalV4
  | .v6 address => address == scope.portalV6

/-- Whether packets to an address are handled. -/
def allows (scope : Scope) (destination : Address) : Bool :=
  scope.isPortal destination
    || (!destination.isSpecial && !scope.bypass.any (·.contains destination))

end Scope

end PortalNat
