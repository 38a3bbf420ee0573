import PortalNat.Proofs.Guarded.Sums

/-!
# The checksum in one's complement

RFC 1071 defines the checksum of a segment word by word: the octets of a pseudo-header are put
before the segment, a last octet without a partner is padded with a zero, the words are added up in
one's complement, where the carry out of a word goes back in at its low end, and the complement of
the sum is stored. The sum that delays its carries and never lays out the pseudo-header comes to the
same.
-/

namespace PortalNat.Checksum

open Octets (joinWord ofWord ofDoubleWord)

/-! ## One's complement -/

/-- The sum of two words in one's complement: a carry goes back in at the low end. -/
def onesAdd (left right : UInt16) : UInt16 :=
  if left + right < left then left + right + 1 else left + right

def words : Octets → List UInt16
  | high :: low :: rest => joinWord high low :: words rest
  | _ => []

/-- The sum of the words of a region of even length in one's complement. -/
def onesSum (region : Octets) : UInt16 :=
  (words region).foldl onesAdd 0

/-- A region brought to even length by a zero octet. -/
def padded (region : Octets) : Octets :=
  if region.length % 2 = 0 then region else region ++ [0]

/-- The octets of the pseudo-header of a segment of the given length. The versions of IP lay it out
differently. -/
def pseudoHeaderOctets (source destination : Address) (protocol : UInt8) (length : Nat) : Octets :=
  source.octets ++ destination.octets ++
    match source.family with
    | .v4 => [0, protocol] ++ ofWord (UInt16.ofNat length)
    | .v6 => ofDoubleWord (UInt32.ofNat length) ++ [0, 0, 0, protocol]

theorem toNat_onesAdd (left right : UInt16) :
    (onesAdd left right).toNat =
      if left.toNat + right.toNat < 65536 then left.toNat + right.toNat
      else left.toNat + right.toNat - 65535 := by
  have hleft := left.toNat_lt
  have hright := right.toNat_lt
  simp only [onesAdd, UInt16.lt_iff_toNat_lt, apply_ite UInt16.toNat, UInt16.toNat_add,
    UInt16.toNat_one]
  split_ifs <;> omega

/-- Adding words up in one's complement reduces their sum modulo 65535, and to 65535 itself where a
multiple is not zero. -/
theorem toNat_foldl_onesAdd (start : UInt16) {region : Octets} (heven : region.length % 2 = 0) :
    ((words region).foldl onesAdd start).toNat =
      if start.toNat + total region = 0 then 0
      else (start.toNat + total region - 1) % 65535 + 1 := by
  fun_induction words region generalizing start with
  | case1 high low rest ih =>
      rw [List.length_cons, List.length_cons] at heven
      rw [List.foldl_cons, ih _ (by omega), toNat_onesAdd, total]
      by_cases hcarry : start.toNat + (joinWord high low).toNat < 65536
      · rw [if_pos hcarry, Nat.add_assoc]
      · rw [if_neg hcarry, if_neg (by omega), if_neg (by omega)]
        omega
  | case2 region hshort =>
      have hempty : total region = 0 := by
        rcases region with _ | ⟨last, _ | ⟨low, rest⟩⟩
        · rfl
        · cases heven
        · exact absurd rfl (hshort last low rest)
      have hstart := start.toNat_lt
      rw [List.foldl_nil, hempty, Nat.add_zero]
      split_ifs <;> omega

theorem toNat_onesSum {region : Octets} (heven : region.length % 2 = 0) :
    (onesSum region).toNat =
      if total region = 0 then 0 else (total region - 1) % 65535 + 1 := by
  rw [onesSum, toNat_foldl_onesAdd 0 heven, UInt16.toNat_zero, Nat.zero_add]

/-! ## Padding -/

theorem length_padded (region : Octets) : (padded region).length % 2 = 0 := by
  unfold padded
  split_ifs with heven
  · exact heven
  · rw [List.length_append, List.length_singleton]
    omega

/-- A last octet counts the same with a zero behind it. -/
theorem total_padded (region : Octets) : total (padded region) = total region := by
  unfold padded
  split_ifs with heven
  · rfl
  · fun_induction total region with
    | case1 high low rest ih =>
        rw [List.length_cons, List.length_cons] at heven
        rw [List.cons_append, List.cons_append, total, ih (by omega)]
    | case2 last => rfl
    | case3 => exact absurd rfl heven

/-! ## The pseudo-header -/

theorem length_octets_even (address : Address) : address.octets.length % 2 = 0 := by
  rw [Address.length_octets]
  cases address.family <;> decide

theorem total_ofDoubleWord (value : UInt32) :
    total (ofDoubleWord value) = value.toNat / 65536 + value.toNat % 65536 := by
  have hvalue := value.toNat_lt
  rw [ofDoubleWord, total_append _ (by simp), total_ofWord, total_ofWord, UInt32.toNat_toUInt16,
    UInt32.toNat_toUInt16, UInt32.toNat_div]
  simp only [UInt32.reduceToNat]
  omega

section

variable (source destination : Address) (protocol : UInt8)

theorem length_pseudoHeaderOctets (length : Nat) :
    (pseudoHeaderOctets source destination protocol length).length % 2 = 0 := by
  have haddresses : (source.octets ++ destination.octets).length % 2 = 0 := by
    rw [List.length_append, Nat.add_mod, length_octets_even, length_octets_even]
  rw [pseudoHeaderOctets, List.length_append, Nat.add_mod, haddresses]
  cases source.family <;> simp

/-- Laid out or not, a pseudo-header adds up to the same. -/
theorem total_pseudoHeaderOctets {length : Nat} (hlength : length ≤ 65535) :
    total (pseudoHeaderOctets source destination protocol length) =
      (pseudoHeader source destination protocol length).toNat := by
  have haddresses : (source.octets ++ destination.octets).length % 2 = 0 := by
    rw [List.length_append, Nat.add_mod, length_octets_even, length_octets_even]
  have hlong : (UInt32.ofNat length).toNat = length :=
    UInt32.toNat_ofNat_of_lt' (hlength.trans_lt (by decide))
  have hshort : (UInt16.ofNat length).toNat = length :=
    UInt16.toNat_ofNat_of_lt' (hlength.trans_lt (by decide))
  rw [toNat_pseudoHeader, pseudoHeaderOctets, total_append _ haddresses,
    total_append _ (length_octets_even source)]
  cases source.family with
  | v4 =>
      rw [total_append _ (by simp), total_ofWord, hshort]
      simp only [total, Octets.toNat_joinWord, UInt8.toNat_zero]
      omega
  | v6 =>
      rw [total_append _ (by simp), total_ofDoubleWord]
      simp only [total, Octets.toNat_joinWord, UInt8.toNat_zero]
      omega

/-! ## The checksum of a segment -/

/-- The checksum of a segment is the complement of the one's complement sum of its pseudo-header and
its octets, and no addition on the way to it overflows the accumulator. -/
theorem transport_eq_onesSum {segment : Octets} (hlength : segment.length ≤ 65535) :
    transport source destination protocol segment =
        ~~~(onesSum (pseudoHeaderOctets source destination protocol segment.length
          ++ padded segment)) ∧
      Guarded.exactTransport source destination protocol segment =
        pure (transport source destination protocol segment) := by
  have hseed := toNat_pseudoHeader_lt source destination protocol segment.length
  have hbound := total_le segment
  have hheader := length_pseudoHeaderOctets source destination protocol segment.length
  have heven : (pseudoHeaderOctets source destination protocol segment.length
      ++ padded segment).length % 2 = 0 := by
    rw [List.length_append, Nat.add_mod, hheader, length_padded]
  have htotal : total (pseudoHeaderOctets source destination protocol segment.length
      ++ padded segment) =
        (pseudoHeader source destination protocol segment.length).toNat + total segment := by
    rw [total_append _ hheader, total_padded, total_pseudoHeaderOctets _ _ _ hlength]
  refine ⟨congrArg (~~~ ·) ?_, Guarded.exactTransport_eq source destination protocol hlength⟩
  apply UInt16.toNat_inj.1
  rw [toNat_fold, toNat_sum (by omega), toNat_onesSum heven, htotal]

end

/-- A segment of odd length whose sum carries. -/
def oddSegment : Octets := [0x14, 0xe9, 0, 53, 0, 11, 0, 0, 0xff, 0xff, 0xff]

theorem transport_eq_onesSum_oddSegment :
    oddSegment.length ≤ 65535 ∧
      transport (.v6 ⟨0xfd00, 0, 0, 0, 0, 0, 0, 2⟩) (.v6 ⟨0x2001, 0xdb8, 0, 0, 0, 0, 0, 1⟩) 17
          oddSegment =
        ~~~(onesSum ([0xfd, 0, 0, 0, 0, 0, 0, 0, 0, 0, 0, 0, 0, 0, 0, 2]
          ++ [0x20, 1, 0x0d, 0xb8, 0, 0, 0, 0, 0, 0, 0, 0, 0, 0, 0, 1]
          ++ [0, 0, 0, 11] ++ [0, 0, 0, 17] ++ oddSegment ++ [0])) ∧
      Guarded.exactTransport (.v6 ⟨0xfd00, 0, 0, 0, 0, 0, 0, 2⟩)
          (.v6 ⟨0x2001, 0xdb8, 0, 0, 0, 0, 0, 1⟩) 17 oddSegment = pure 0xc0fc := by
  have hlength : oddSegment.length ≤ 65535 := by decide
  obtain ⟨hsum, hexact⟩ := transport_eq_onesSum (.v6 ⟨0xfd00, 0, 0, 0, 0, 0, 0, 2⟩)
    (.v6 ⟨0x2001, 0xdb8, 0, 0, 0, 0, 0, 1⟩) 17 hlength
  refine ⟨hlength, hsum, hexact.trans (congrArg pure ?_)⟩
  cbv

end PortalNat.Checksum
