import Mathlib.Algebra.Group.Nat.Defs
import PortalNat.Proofs.Octets
import PortalNat.Checksum

/-!
# Guarded accesses

A buffer is read and changed by index and by slice, and lengths are added up in machine words. Here
every such access is guarded: one beyond the buffer, and a number that does not fit its word, is a
fault that ends the computation. For each access there is a lemma that says when it does not fault,
and that it then comes to what the unguarded one does.
-/

namespace PortalNat

inductive Fault where
  /-- An index or a slice reaches beyond its buffer. -/
  | outOfBounds
  /-- A number does not fit its word. -/
  | overflow
deriving DecidableEq, Repr

/-- A computation that ends at its first fault. -/
abbrev Guarded := Except Fault

namespace Guarded

/-! ## Buffers -/

def octet (bytes : Octets) (place : Nat) : Guarded UInt8 :=
  match bytes[place]? with
  | some value => pure value
  | none => throw .outOfBounds

def word (bytes : Octets) (place : Nat) : Guarded UInt16 := do
  let high ← octet bytes place
  let low ← octet bytes (place + 1)
  return Octets.joinWord high low

def slice (bytes : Octets) (first last : Nat) : Guarded Octets :=
  if first ≤ last ∧ last ≤ bytes.length then pure ((bytes.take last).drop first)
  else throw .outOfBounds

def sliceFrom (bytes : Octets) (first : Nat) : Guarded Octets :=
  slice bytes first bytes.length

def store (bytes : Octets) (place : Nat) (patch : Octets) : Guarded Octets :=
  if place + patch.length ≤ bytes.length then pure (Octets.overwrite bytes place patch)
  else throw .outOfBounds

def storeOctet (bytes : Octets) (place : Nat) (value : UInt8) : Guarded Octets :=
  store bytes place [value]

def storeWord (bytes : Octets) (place : Nat) (value : UInt16) : Guarded Octets :=
  store bytes place (Octets.ofWord value)

section

variable {bytes patch : Octets} {place first last : Nat}

theorem octet_eq (hplace : place < bytes.length) :
    octet bytes place = pure (Octets.octet bytes place) := by
  rw [octet, Octets.octet, List.getD_eq_getElem?_getD, List.getElem?_eq_getElem hplace]
  rfl

theorem word_eq (hplace : place + 1 < bytes.length) :
    word bytes place = pure (Octets.word bytes place) := by
  rw [word, octet_eq (Nat.lt_of_succ_lt hplace), octet_eq hplace]
  rfl

theorem slice_eq (hfirst : first ≤ last) (hlast : last ≤ bytes.length) :
    slice bytes first last = pure ((bytes.take last).drop first) :=
  if_pos ⟨hfirst, hlast⟩

theorem slice_zero (hlast : last ≤ bytes.length) : slice bytes 0 last = pure (bytes.take last) :=
  slice_eq (Nat.zero_le last) hlast

theorem sliceFrom_eq (hfirst : first ≤ bytes.length) :
    sliceFrom bytes first = pure (bytes.drop first) := by
  rw [sliceFrom, slice_eq hfirst le_rfl, List.take_length]

theorem store_eq (hwithin : place + patch.length ≤ bytes.length) :
    store bytes place patch = pure (Octets.overwrite bytes place patch) :=
  if_pos hwithin

theorem storeOctet_eq (hwithin : place < bytes.length) (value : UInt8) :
    storeOctet bytes place value = pure (Octets.setOctet bytes place value) :=
  store_eq hwithin

theorem storeWord_eq (hwithin : place + 2 ≤ bytes.length) (value : UInt16) :
    storeWord bytes place value = pure (Octets.setWord bytes place value) :=
  store_eq hwithin

end

/-! ## Numbers -/

/-- A number that has to fit a word of so many bits. -/
def fit (bits value : Nat) : Guarded Nat :=
  if value < 2 ^ bits then pure value else throw .overflow

theorem fit_eq {bits value : Nat} (hfits : value < 2 ^ bits) : fit bits value = pure value :=
  if_pos hfits

def addWords (left right : UInt16) : Guarded UInt16 :=
  (fit 16 (left.toNat + right.toNat)).map fun _ => left + right

theorem addWords_eq {left right : UInt16} (hfits : left.toNat + right.toNat < 2 ^ 16) :
    addWords left right = pure (left + right) := by
  rw [addWords, fit_eq hfits]
  rfl

def subtract (left right : Nat) : Guarded Nat :=
  if right ≤ left then pure (left - right) else throw .overflow

theorem subtract_eq {left right : Nat} (hle : right ≤ left) :
    subtract left right = pure (left - right) :=
  if_pos hle

/-! ## Checksums

The sum of a region wraps around and goes through the region pair by pair, so that only folding can
fault. -/

def fold (accumulator : UInt32) : Guarded UInt16 :=
  if accumulator / 65536 = 0 then pure accumulator.toUInt16
  else if (accumulator % 65536).toNat + (accumulator / 65536).toNat < 2 ^ 32 then
    fold (accumulator % 65536 + accumulator / 65536)
  else throw .overflow
termination_by accumulator.toNat
decreasing_by exact Checksum.foldOnce_lt ‹_›

/-- Folding adds up two numbers of sixteen bits. -/
theorem halves_fit (accumulator : UInt32) :
    (accumulator % 65536).toNat + (accumulator / 65536).toNat < 2 ^ 32 := by
  have hbound := accumulator.toNat_lt
  rw [UInt32.toNat_mod, UInt32.toNat_div]
  simp only [UInt32.reduceToNat]
  omega

theorem fold_eq (accumulator : UInt32) : fold accumulator = pure (Checksum.fold accumulator) := by
  fun_induction Checksum.fold accumulator with
  | case1 accumulator hlow => rw [fold, if_pos hlow]
  | case2 accumulator hlow ih =>
      rw [fold, if_neg hlow, if_pos (halves_fit accumulator), ih]

def checksum (accumulator : UInt32) (region : Octets) : Guarded UInt16 := do
  return ~~~(← fold (Checksum.sum accumulator region))

theorem checksum_eq (accumulator : UInt32) (region : Octets) :
    checksum accumulator region = pure (Checksum.checksum accumulator region) := by
  rw [checksum, fold_eq]
  rfl

def verify (accumulator : UInt32) (region : Octets) : Guarded Bool := do
  return (← fold (Checksum.sum accumulator region)) == 0xffff

theorem verify_eq (accumulator : UInt32) (region : Octets) :
    verify accumulator region = pure (Checksum.verify accumulator region) := by
  rw [verify, fold_eq]
  rfl

def transport (source destination : Address) (protocol : UInt8) (segment : Octets) :
    Guarded UInt16 :=
  checksum (Checksum.pseudoHeader source destination protocol segment.length) segment

theorem transport_eq (source destination : Address) (protocol : UInt8) (segment : Octets) :
    transport source destination protocol segment =
      pure (Checksum.transport source destination protocol segment) :=
  checksum_eq _ _

end Guarded

end PortalNat
