import PortalNat.Address.Text

/-!
# Address ranges

A range is an address and the number of leading bits that its members share with it, written
`10.0.0.0/8`. The bits of the address beyond that number are kept but play no part in membership.
-/

namespace PortalNat

/-- All addresses of one version that agree with `base` in its first `length` bits. -/
structure Range where
  base : Address
  length : Nat
deriving DecidableEq, Repr

namespace Range

/-- How addresses are spelled in a range: octets may start with zeros. -/
def spelling : Spelling := ⟨⟨10, some 3, true, 256⟩, true⟩

/-- The length of an IPv4 range. -/
def lengthV4 : Numeral := ⟨10, some 2, true, 33⟩

/-- The length of an IPv6 range. -/
def lengthV6 : Numeral := ⟨10, some 3, true, 129⟩

def readV4Range : Reader Range := fun text => do
  let (address, text) ← readV4 spelling text
  let ((), text) ← Reader.character '/' text
  let (length, rest) ← lengthV4.read text
  return (⟨.v4 address, length⟩, rest)

def readV6Range : Reader Range := fun text => do
  let (address, text) ← readV6 spelling text
  let ((), text) ← Reader.character '/' text
  let (length, rest) ← lengthV6.read text
  return (⟨.v6 address, length⟩, rest)

def parse? (text : String) : Option Range :=
  (readV4Range.all text).or (readV6Range.all text)

protected def toText (range : Range) : String :=
  range.base.toText ++ "/" ++ toString range.length

/-- Whether two numbers of `width` bits agree in their first `length` bits. -/
def agree (width length left right : Nat) : Bool :=
  left >>> (width - length) == right >>> (width - length)

/-- Whether an address lies in a range; an address of the other version never does. -/
def contains (range : Range) (address : Address) : Bool :=
  match range.base, address with
  | .v4 base, .v4 address => agree 32 range.length base.toNat address.toNat
  | .v6 base, .v6 address => agree 128 range.length base.toNat address.toNat
  | _, _ => false

end Range

end PortalNat
