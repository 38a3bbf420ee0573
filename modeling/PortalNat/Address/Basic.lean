import PortalNat.Octets

/-!
# Addresses

The addresses of the two versions of IP, the endpoints made of an address and a port, and the
scopes an address can belong to. An IPv4 address has an IPv6 spelling, its mapped form
`::ffff:a.b.c.d`, and `Address.canonical` undoes it.
-/

namespace PortalNat

/-- A version of IP. -/
inductive Family where
  | v4
  | v6
deriving DecidableEq, Repr, Inhabited

/-- An IPv4 address: four octets. -/
structure V4 where
  first : UInt8
  second : UInt8
  third : UInt8
  fourth : UInt8
deriving DecidableEq, Repr, Hashable, Inhabited

/-- An IPv6 address: eight segments of sixteen bits. -/
structure V6 where
  first : UInt16
  second : UInt16
  third : UInt16
  fourth : UInt16
  fifth : UInt16
  sixth : UInt16
  seventh : UInt16
  eighth : UInt16
deriving DecidableEq, Repr, Hashable, Inhabited

/-- An address of either version. -/
inductive Address where
  | v4 (address : V4)
  | v6 (address : V6)
deriving DecidableEq, Repr, Hashable, Inhabited

/-- An address with a port. The zone names the link of a link-local IPv6 address; zero is none. -/
structure Endpoint where
  address : Address
  port : UInt16
  zone : UInt32 := 0
deriving DecidableEq, Repr, Hashable, Inhabited

namespace V4

def octets (address : V4) : Octets :=
  [address.first, address.second, address.third, address.fourth]

/-- The address whose octets stand at `offset`. -/
def read (bytes : Octets) (offset : Nat) : V4 where
  first := Octets.octet bytes offset
  second := Octets.octet bytes (offset + 1)
  third := Octets.octet bytes (offset + 2)
  fourth := Octets.octet bytes (offset + 3)

/-- The address as a number of thirty-two bits. -/
def toNat (address : V4) : Nat :=
  address.octets.foldl (fun value octet => value * 256 + octet.toNat) 0

def unspecified : V4 := ⟨0, 0, 0, 0⟩

/-- The address that every host of a link answers to. -/
def broadcast : V4 := ⟨255, 255, 255, 255⟩

def isLoopback (address : V4) : Bool :=
  address.first == 127

def isMulticast (address : V4) : Bool :=
  224 ≤ address.first && address.first ≤ 239

def isLinkLocal (address : V4) : Bool :=
  address.first == 169 && address.second == 254

/-- The IPv6 spelling `::ffff:a.b.c.d` of an IPv4 address. -/
def mapped (address : V4) : V6 where
  first := 0
  second := 0
  third := 0
  fourth := 0
  fifth := 0
  sixth := 0xffff
  seventh := Octets.joinWord address.first address.second
  eighth := Octets.joinWord address.third address.fourth

@[simp]
theorem length_octets (address : V4) : address.octets.length = 4 := rfl

end V4

namespace V6

def segments (address : V6) : List UInt16 :=
  [address.first, address.second, address.third, address.fourth, address.fifth, address.sixth,
    address.seventh, address.eighth]

/-- The address with the given segments; missing ones are zero. -/
def ofSegments (segments : List UInt16) : V6 where
  first := segments.getD 0 0
  second := segments.getD 1 0
  third := segments.getD 2 0
  fourth := segments.getD 3 0
  fifth := segments.getD 4 0
  sixth := segments.getD 5 0
  seventh := segments.getD 6 0
  eighth := segments.getD 7 0

def octets (address : V6) : Octets :=
  address.segments.flatMap Octets.ofWord

/-- The address whose octets stand at `offset`. -/
def read (bytes : Octets) (offset : Nat) : V6 where
  first := Octets.word bytes offset
  second := Octets.word bytes (offset + 2)
  third := Octets.word bytes (offset + 4)
  fourth := Octets.word bytes (offset + 6)
  fifth := Octets.word bytes (offset + 8)
  sixth := Octets.word bytes (offset + 10)
  seventh := Octets.word bytes (offset + 12)
  eighth := Octets.word bytes (offset + 14)

/-- The address as a number of one hundred and twenty-eight bits. -/
def toNat (address : V6) : Nat :=
  address.segments.foldl (fun value segment => value * 65536 + segment.toNat) 0

def unspecified : V6 := ofSegments []

def loopback : V6 := ofSegments [0, 0, 0, 0, 0, 0, 0, 1]

def isMulticast (address : V6) : Bool :=
  address.first / 256 == 0xff

def isLinkLocal (address : V6) : Bool :=
  address.first &&& 0xffc0 == 0xfe80

/-- The IPv4 address that a mapped address spells. -/
def unmapped? (address : V6) : Option V4 :=
  if address.segments.take 6 = [0, 0, 0, 0, 0, 0xffff] then
    some ⟨(address.seventh / 256).toUInt8, address.seventh.toUInt8,
      (address.eighth / 256).toUInt8, address.eighth.toUInt8⟩
  else none

@[simp]
theorem ofSegments_segments (address : V6) : ofSegments address.segments = address := rfl

@[simp]
theorem length_octets (address : V6) : address.octets.length = 16 := rfl

end V6

/-- Mapping an IPv4 address and reading the mapped form back loses nothing. -/
@[simp]
theorem V4.unmapped?_mapped (address : V4) : address.mapped.unmapped? = some address := by
  have high (left right : UInt8) : (Octets.joinWord left right / 256).toUInt8 = left := by
    apply UInt8.toNat_inj.1
    have := left.toNat_lt
    have := right.toNat_lt
    simp [Octets.joinWord]
    omega
  have low (left right : UInt8) : (Octets.joinWord left right).toUInt8 = right := by
    apply UInt8.toNat_inj.1
    simp [Octets.joinWord]
  simp [V4.mapped, V6.unmapped?, V6.segments, high, low]

namespace Address

def family : Address → Family
  | v4 _ => .v4
  | v6 _ => .v6

def octets : Address → Octets
  | v4 address => address.octets
  | v6 address => address.octets

/-- The IPv4 address that is meant, where an IPv4 address is spelled in its mapped form. -/
def canonical : Address → Address
  | v4 address => v4 address
  | v6 address => (address.unmapped?.map v4).getD (v6 address)

/-- Whether an address cannot belong to one remote peer: unspecified, loopback, multicast,
broadcast or link-local. -/
def isSpecial : Address → Bool
  | v4 address =>
    address == V4.unspecified || address.isLoopback || address.isMulticast
      || address == V4.broadcast || address.isLinkLocal
  | v6 address =>
    address == V6.unspecified || address == V6.loopback || address.isMulticast
      || address.isLinkLocal

end Address

namespace Endpoint

/-- An endpoint without a zone. -/
def of (address : Address) (port : UInt16) : Endpoint :=
  { address, port }

def family (endpoint : Endpoint) : Family :=
  endpoint.address.family

/-- The endpoint with its address in canonical form and without a zone. -/
def canonical (endpoint : Endpoint) : Endpoint :=
  of endpoint.address.canonical endpoint.port

end Endpoint

end PortalNat
