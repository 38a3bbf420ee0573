/-!
# Octet strings

A packet is a list of octets. A field of one, two or four octets is read in network order at an
offset, and written by replacing the octets that stand there. Reading past the end gives zero;
every header is checked before its fields are used, so no rule of this library depends on that.
-/

namespace PortalNat

abbrev Octets := List UInt8

namespace Octets

/-- The sixteen-bit number whose high and low octets are given. -/
def joinWord (high low : UInt8) : UInt16 :=
  high.toUInt16 * 256 + low.toUInt16

/-- The two octets of a sixteen-bit number, high octet first. -/
def ofWord (value : UInt16) : Octets :=
  [(value / 256).toUInt8, value.toUInt8]

/-- The four octets of a thirty-two-bit number, highest first. -/
def ofDoubleWord (value : UInt32) : Octets :=
  ofWord (value / 65536).toUInt16 ++ ofWord value.toUInt16

/-- The octet at `offset`. -/
def octet (bytes : Octets) (offset : Nat) : UInt8 :=
  bytes.getD offset 0

/-- The sixteen-bit field at `offset`. -/
def word (bytes : Octets) (offset : Nat) : UInt16 :=
  joinWord (octet bytes offset) (octet bytes (offset + 1))

/-- The thirty-two-bit field at `offset`. -/
def doubleWord (bytes : Octets) (offset : Nat) : UInt32 :=
  (word bytes offset).toUInt32 * 65536 + (word bytes (offset + 2)).toUInt32

/-- Replace the octets from `offset` on by those of `patch`. -/
def overwrite (bytes : Octets) (offset : Nat) (patch : Octets) : Octets :=
  bytes.take offset ++ patch ++ bytes.drop (offset + patch.length)

/-- Replace the octet at `offset`. -/
def setOctet (bytes : Octets) (offset : Nat) (value : UInt8) : Octets :=
  overwrite bytes offset [value]

/-- Replace the sixteen-bit field at `offset`. -/
def setWord (bytes : Octets) (offset : Nat) (value : UInt16) : Octets :=
  overwrite bytes offset (ofWord value)

/-- Copy as many octets into a buffer as it has room for, from its start on. The rest of the buffer
stays as it is. -/
def copyInto (buffer bytes : Octets) : Octets :=
  overwrite buffer 0 (bytes.take buffer.length)

@[simp]
theorem length_ofWord (value : UInt16) : (ofWord value).length = 2 := rfl

@[simp]
theorem length_ofDoubleWord (value : UInt32) : (ofDoubleWord value).length = 4 := rfl

/-- Replacing octets inside a string keeps its length. -/
theorem length_overwrite {bytes patch : Octets} {offset : Nat}
    (within : offset + patch.length ≤ bytes.length) :
    (overwrite bytes offset patch).length = bytes.length := by
  simp only [overwrite, List.length_append, List.length_take, List.length_drop]
  omega

/-- A buffer keeps its length. -/
@[simp]
theorem length_copyInto (buffer bytes : Octets) :
    (copyInto buffer bytes).length = buffer.length := by
  apply length_overwrite
  simp only [Nat.zero_add, List.length_take]
  omega

/-- A sixteen-bit number is the join of its two octets. -/
@[simp]
theorem joinWord_ofWord (value : UInt16) :
    joinWord (value / 256).toUInt8 value.toUInt8 = value := by
  apply UInt16.toNat_inj.1
  have bound := value.toNat_lt
  simp [joinWord]
  omega

end Octets

end PortalNat
