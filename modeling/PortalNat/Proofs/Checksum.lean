import PortalNat.Proofs.Octets
import PortalNat.Checksum

/-!
# Checksum arithmetic

The sum of a region is an addition of numbers as long as it fits the accumulator, and folding is
reduction modulo 65535 with 65535 in the place of a zero that is not empty. A region verifies when
its sum is a multiple of 65535 and not zero, which is what the stored complement brings about.
-/

namespace PortalNat.Checksum

open Octets (word setWord ofWord joinWord)

/-! ## Sums -/

/-- The sum of the words of a region as a number. -/
def total : Octets → Nat
  | high :: low :: rest => (joinWord high low).toNat + total rest
  | [last] => (joinWord last 0).toNat
  | [] => 0

theorem sum_eq (accumulator : UInt32) (region : Octets) :
    sum accumulator region = accumulator + UInt32.ofNat (total region) := by
  fun_induction sum accumulator region with
  | case1 accumulator high low rest ih =>
      rw [ih, total, UInt32.ofNat_add, ← UInt32.add_assoc]
      congr 2
      exact (UInt32.ofNat_uInt16ToNat _).symm
  | case2 accumulator last =>
      rw [total]
      congr 1
      exact (UInt32.ofNat_uInt16ToNat _).symm
  | case3 accumulator => simp [total]

theorem toNat_sum {accumulator : UInt32} {region : Octets}
    (hfits : accumulator.toNat + total region < 0x100000000) :
    (sum accumulator region).toNat = accumulator.toNat + total region := by
  rw [sum_eq, UInt32.toNat_add, UInt32.toNat_ofNat_of_lt' (Nat.lt_of_add_left_lt hfits),
    Nat.mod_eq_of_lt hfits]

theorem total_le (region : Octets) : 2 * total region ≤ 65535 * (region.length + 1) := by
  fun_induction total region with
  | case1 high low rest ih =>
      have hbound := (joinWord high low).toNat_lt
      rw [List.length_cons, List.length_cons]
      omega
  | case2 last =>
      have hbound := (joinWord last 0).toNat_lt
      rw [List.length_singleton]
      omega
  | case3 => omega

theorem total_append {left : Octets} (right : Octets) (heven : left.length % 2 = 0) :
    total (left ++ right) = total left + total right := by
  fun_induction total left with
  | case1 high low rest ih =>
      rw [List.length_cons, List.length_cons] at heven
      rw [List.cons_append, List.cons_append, total, ih (by omega), Nat.add_assoc]
  | case2 last => cases heven
  | case3 => rw [List.nil_append, Nat.zero_add]

theorem total_ofWord (value : UInt16) : total (ofWord value) = value.toNat := by
  rw [ofWord, total, Octets.joinWord_ofWord, total, Nat.add_zero]

/-- Storing a word exchanges its share of the sum. -/
theorem total_setWord {region : Octets} {place : Nat} (heven : place % 2 = 0)
    (hwithin : place + 2 ≤ region.length) (value : UInt16) :
    total (setWord region place value) + (word region place).toNat =
      total region + value.toNat := by
  have htake : (region.take place).length % 2 = 0 := by
    rw [List.length_take_of_le (by omega)]
    exact heven
  have hstored : total (setWord region place value) =
      total (region.take place) + value.toNat + total (region.drop (place + 2)) := by
    rw [setWord, Octets.overwrite, Octets.length_ofWord, List.append_assoc,
      total_append _ htake, total_append _ (by simp), total_ofWord, Nat.add_assoc]
  have hheld : total region =
      total (region.take place) + (word region place).toNat + total (region.drop (place + 2)) := by
    conv_lhs => rw [← Octets.take_word_drop hwithin]
    rw [List.append_assoc, total_append _ htake, total_append _ (by simp), Nat.add_assoc]
    rfl
  omega

/-! ## Folding -/

/-- Folding reduces modulo 65535, and to 65535 itself where a multiple is not zero. -/
theorem toNat_fold (accumulator : UInt32) :
    (fold accumulator).toNat =
      if accumulator.toNat = 0 then 0 else (accumulator.toNat - 1) % 65535 + 1 := by
  fun_induction fold accumulator with
  | case1 accumulator hlow =>
      rw [high_eq_zero_iff] at hlow
      rw [UInt32.toNat_toUInt16]
      by_cases hzero : accumulator.toNat = 0
      · rw [if_pos hzero, hzero]
      · rw [if_neg hzero]
        omega
  | case2 accumulator hhigh ih =>
      rw [high_eq_zero_iff] at hhigh
      rw [ih, toNat_halves, if_neg (by omega), if_neg (by omega)]
      omega

/-- A region verifies exactly when its sum is a multiple of 65535 other than zero. -/
theorem verify_iff {accumulator : UInt32} {region : Octets}
    (hfits : accumulator.toNat + total region < 0x100000000) :
    verify accumulator region = true ↔
      accumulator.toNat + total region ≠ 0 ∧ (accumulator.toNat + total region) % 65535 = 0 := by
  rw [verify, beq_iff_eq, ← UInt16.toNat_inj, toNat_fold, toNat_sum hfits]
  by_cases hzero : accumulator.toNat + total region = 0
  · rw [if_pos hzero]
    simp [hzero]
  · rw [if_neg hzero]
    simp only [UInt16.reduceToNat]
    omega

/-! ## Storing a checksum -/

/-- A value completes a region if it is the checksum of the region, or the other spelling of the
checksum zero. -/
def Completes (accumulator : UInt32) (region : Octets) (value : UInt16) : Prop :=
  value = checksum accumulator region ∨ checksum accumulator region = 0 ∧ value = 0xffff

variable {accumulator : UInt32} {region : Octets} {place : Nat} {value : UInt16}

/-- A region whose checksum field was cleared verifies once a value that completes it is stored
there. -/
theorem Completes.verify_setWord (hcompletes : Completes accumulator region value)
    (heven : place % 2 = 0) (hwithin : place + 2 ≤ region.length)
    (hcleared : word region place = 0)
    (hfits : accumulator.toNat + total region + 65535 < 0x100000000) :
    verify accumulator (setWord region place value) = true := by
  have hvalue := value.toNat_lt
  have htotal := total_setWord heven hwithin value
  rw [hcleared, UInt16.toNat_zero, Nat.add_zero] at htotal
  have hfolded := toNat_fold (sum accumulator region)
  rw [toNat_sum (by omega)] at hfolded
  have hchecksum : (checksum accumulator region).toNat =
      65535 - (fold (sum accumulator region)).toNat := by
    rw [checksum, UInt16.toNat_not]
    rfl
  rw [verify_iff (by omega), htotal]
  rcases hcompletes with hvalue | ⟨hzero, hvalue⟩
  · rw [← hvalue] at hchecksum
    split at hfolded <;> omega
  · rw [hzero, UInt16.toNat_zero] at hchecksum
    rw [hvalue]
    simp only [UInt16.reduceToNat]
    split at hfolded <;> omega

/-! ## The pseudo-header -/

theorem length_octets_le (address : Address) : address.octets.length ≤ 16 := by
  rw [Address.length_octets]
  cases address.family <;> decide

theorem total_octets_lt (address : Address) : total address.octets < 0x90000 := by
  have htotal := total_le address.octets
  have hlength := length_octets_le address
  omega

theorem toNat_sum_addresses (source destination : Address) :
    (sum (sum 0 source.octets) destination.octets).toNat =
      total source.octets + total destination.octets := by
  have hsource := total_octets_lt source
  have hdestination := total_octets_lt destination
  have hfirst : (sum 0 source.octets).toNat = total source.octets := by
    rw [toNat_sum, UInt32.toNat_zero, Nat.zero_add]
    rw [UInt32.toNat_zero]
    omega
  rw [toNat_sum, hfirst]
  omega

/-- A pseudo-header is the sum of what it is made of, since that fits the accumulator. -/
theorem toNat_pseudoHeader (source destination : Address) (protocol : UInt8) (length : Nat) :
    (pseudoHeader source destination protocol length).toNat =
      total source.octets + total destination.octets + protocol.toNat +
        (UInt32.ofNat length).toNat / 65536 + (UInt32.ofNat length).toNat % 65536 := by
  have hsource := total_octets_lt source
  have hdestination := total_octets_lt destination
  have hprotocol := protocol.toNat_lt
  have hlength := (UInt32.ofNat length).toNat_lt
  simp only [pseudoHeader, UInt32.toNat_add, toNat_sum_addresses, UInt8.toNat_toUInt32,
    UInt32.toNat_div, UInt32.toNat_mod, UInt32.reduceToNat]
  omega

/-- A pseudo-header takes up little of the accumulator. -/
theorem toNat_pseudoHeader_lt (source destination : Address) (protocol : UInt8) (length : Nat) :
    (pseudoHeader source destination protocol length).toNat < 0x200000 := by
  have hsource := total_octets_lt source
  have hdestination := total_octets_lt destination
  have hprotocol := protocol.toNat_lt
  have hlength := (UInt32.ofNat length).toNat_lt
  rw [toNat_pseudoHeader]
  omega

end PortalNat.Checksum
