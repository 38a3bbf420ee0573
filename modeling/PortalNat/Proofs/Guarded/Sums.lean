import PortalNat.Proofs.Checksum
import PortalNat.Proofs.Guarded.Basic

/-!
# Guarded sums

The accumulator of a checksum may wrap around, and what is lost then is a carry that should have
been folded back. Here every addition to the accumulator is guarded. No segment that an IP packet
can carry makes it fault, so the checksum of a segment loses no carry.
-/

namespace PortalNat.Guarded

open Octets (joinWord)

def addDoubleWords (left right : UInt32) : Guarded UInt32 :=
  (fit 32 (left.toNat + right.toNat)).map fun _ => left + right

theorem addDoubleWords_eq {left right : UInt32} (hfits : left.toNat + right.toNat < 2 ^ 32) :
    addDoubleWords left right = pure (left + right) := by
  rw [addDoubleWords, fit_eq hfits]
  rfl

theorem toNat_add_of_lt {left right : UInt32} (hfits : left.toNat + right.toNat < 2 ^ 32) :
    (left + right).toNat = left.toNat + right.toNat := by
  rw [UInt32.toNat_add, Nat.mod_eq_of_lt hfits]

def sum (accumulator : UInt32) : Octets → Guarded UInt32
  | high :: low :: rest => do
    sum (← addDoubleWords accumulator (joinWord high low).toUInt32) rest
  | [last] => addDoubleWords accumulator (joinWord last 0).toUInt32
  | [] => pure accumulator

theorem sum_eq {accumulator : UInt32} {region : Octets}
    (hfits : accumulator.toNat + Checksum.total region < 2 ^ 32) :
    sum accumulator region = pure (Checksum.sum accumulator region) := by
  fun_induction Checksum.sum accumulator region with
  | case1 accumulator high low rest ih =>
      rw [Checksum.total, ← UInt16.toNat_toUInt32] at hfits
      have hadded : accumulator.toNat + (joinWord high low).toUInt32.toNat < 2 ^ 32 := by omega
      rw [sum, addDoubleWords_eq hadded, pure_bind, ih]
      rw [toNat_add_of_lt hadded]
      omega
  | case2 accumulator last =>
      rw [Checksum.total, ← UInt16.toNat_toUInt32] at hfits
      exact addDoubleWords_eq hfits
  | case3 accumulator => rfl

def pseudoHeader (source destination : Address) (protocol : UInt8) (length : Nat) :
    Guarded UInt32 := do
  let length := UInt32.ofNat length
  let addresses ← sum (← sum 0 source.octets) destination.octets
  let named ← addDoubleWords addresses protocol.toUInt32
  addDoubleWords (← addDoubleWords named (length / 65536)) (length % 65536)

theorem pseudoHeader_eq (source destination : Address) (protocol : UInt8) (length : Nat) :
    pseudoHeader source destination protocol length =
      pure (Checksum.pseudoHeader source destination protocol length) := by
  have hsource := Checksum.total_octets_lt source
  have hdestination := Checksum.total_octets_lt destination
  have haddresses := Checksum.toNat_sum_addresses source destination
  have hprotocol := protocol.toNat_lt
  have hlength := (UInt32.ofNat length).toNat_lt
  have hfirst : (Checksum.sum 0 source.octets).toNat = Checksum.total source.octets := by
    rw [Checksum.toNat_sum, UInt32.toNat_zero, Nat.zero_add]
    rw [UInt32.toNat_zero]
    omega
  rw [pseudoHeader, sum_eq, pure_bind, sum_eq, pure_bind, addDoubleWords_eq, pure_bind,
    addDoubleWords_eq, pure_bind, addDoubleWords_eq]
  · rfl
  all_goals
    simp only [UInt32.toNat_add, haddresses, hfirst, UInt8.toNat_toUInt32, UInt32.toNat_div,
      UInt32.toNat_mod, UInt32.toNat_zero, UInt32.reduceToNat]
    omega

/-- The checksum of a segment whose checksum field is zero. -/
def exactTransport (source destination : Address) (protocol : UInt8) (segment : Octets) :
    Guarded UInt16 := do
  let accumulator ← pseudoHeader source destination protocol segment.length
  return ~~~(← fold (← sum accumulator segment))

theorem exactTransport_eq (source destination : Address) (protocol : UInt8) {segment : Octets}
    (hlength : segment.length ≤ 65535) :
    exactTransport source destination protocol segment =
      pure (Checksum.transport source destination protocol segment) := by
  have htotal := Checksum.total_le segment
  have hseed := Checksum.toNat_pseudoHeader_lt source destination protocol segment.length
  rw [exactTransport, pseudoHeader_eq, pure_bind, sum_eq (by omega), pure_bind, fold_eq]
  rfl

end PortalNat.Guarded
