import PortalNat.Octets
import PortalNat.Address.Basic

/-!
# Internet checksum

The checksum of RFC 1071: octets are summed as big-endian sixteen-bit words in a thirty-two-bit
accumulator, carries are folded back into the low word once at the end, and the complement of the
folded sum is stored. A region that carries its own checksum folds to all ones.
-/

namespace PortalNat.Checksum

/-- Add the words of a region to an accumulator. An odd last octet counts as the high half of a
word whose low half is zero. -/
def sum (accumulator : UInt32) : Octets → UInt32
  | high :: low :: rest => sum (accumulator + (Octets.joinWord high low).toUInt32) rest
  | [last] => accumulator + (Octets.joinWord last 0).toUInt32
  | [] => accumulator

theorem high_eq_zero_iff (accumulator : UInt32) :
    accumulator / 65536 = 0 ↔ accumulator.toNat < 65536 := by
  rw [← UInt32.toNat_inj, UInt32.toNat_div]
  simp only [UInt32.reduceToNat]
  omega

/-- The two halves of an accumulator add up without a carry. -/
theorem toNat_halves (accumulator : UInt32) :
    (accumulator % 65536 + accumulator / 65536).toNat =
      accumulator.toNat % 65536 + accumulator.toNat / 65536 := by
  have bound := accumulator.toNat_lt
  rw [UInt32.toNat_add, UInt32.toNat_mod, UInt32.toNat_div]
  simp only [UInt32.reduceToNat]
  exact Nat.mod_eq_of_lt (by omega)

/-- Adding the high half to the low half makes a number above sixteen bits smaller. -/
theorem foldOnce_lt {accumulator : UInt32} (high : accumulator / 65536 ≠ 0) :
    (accumulator % 65536 + accumulator / 65536).toNat < accumulator.toNat := by
  rw [Ne, high_eq_zero_iff] at high
  rw [toNat_halves]
  omega

/-- Fold the carries of an accumulator back into its low sixteen bits until none is left. -/
def fold (accumulator : UInt32) : UInt16 :=
  if accumulator / 65536 = 0 then accumulator.toUInt16
  else fold (accumulator % 65536 + accumulator / 65536)
termination_by accumulator.toNat
decreasing_by exact foldOnce_lt ‹_›

/-- The checksum of a region, seeded with an accumulator. -/
def checksum (accumulator : UInt32) (region : Octets) : UInt16 :=
  ~~~(fold (sum accumulator region))

/-- Whether a region that carries its checksum is intact. -/
def verify (accumulator : UInt32) (region : Octets) : Bool :=
  fold (sum accumulator region) == 0xffff

/-- The sum of the pseudo-header that TCP, UDP and ICMPv6 put before a segment: both addresses,
the protocol number and the segment length as a thirty-two-bit number. The two versions of IP
lay these out differently but sum to the same. -/
def pseudoHeader (source destination : Address) (protocol : UInt8) (length : Nat) : UInt32 :=
  let addresses := sum (sum 0 source.octets) destination.octets
  let length := UInt32.ofNat length
  addresses + protocol.toUInt32 + length / 65536 + length % 65536

/-- The checksum of a segment whose checksum field is zero. -/
def transport (source destination : Address) (protocol : UInt8) (segment : Octets) : UInt16 :=
  checksum (pseudoHeader source destination protocol segment.length) segment

/-- Whether a segment that carries its checksum is intact. -/
def verifyTransport (source destination : Address) (protocol : UInt8) (segment : Octets) : Bool :=
  verify (pseudoHeader source destination protocol segment.length) segment

end PortalNat.Checksum
