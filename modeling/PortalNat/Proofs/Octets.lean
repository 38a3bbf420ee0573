import Mathlib.Data.Set.Lattice
import Mathlib.Order.Interval.Set.Basic
import PortalNat.Address.Basic

/-!
# Reading what was overwritten

A header field is changed by overwriting its octets in place. What such a change leaves alone is
said by the set of positions outside of which two strings agree, and what it stores is read back by
the views of the field.
-/

namespace PortalNat

namespace Octets

variable {bytes patch before middle after : Octets} {inside wider : Set Nat} {offset place : Nat}

/-! ## Overwriting -/

theorem getElem?_overwrite (hwithin : offset + patch.length ≤ bytes.length) (place : Nat) :
    (overwrite bytes offset patch)[place]? =
      if offset ≤ place ∧ place < offset + patch.length then patch[place - offset]?
      else bytes[place]? := by
  have hoffset : min offset bytes.length = offset := by omega
  unfold overwrite
  rw [List.append_assoc, List.getElem?_append, List.length_take, hoffset]
  by_cases hbefore : place < offset
  · rw [if_pos hbefore, List.getElem?_take_of_lt hbefore, if_neg (by omega)]
  · rw [if_neg hbefore, List.getElem?_append]
    by_cases hinside : place - offset < patch.length
    · rw [if_pos hinside, if_pos (by omega)]
    · rw [if_neg hinside, if_neg (by omega), List.getElem?_drop]
      congr 1
      omega

theorem octet_overwrite (patch : Octets) (hwithin : offset + patch.length ≤ bytes.length)
    (hinside : place < patch.length) :
    octet (overwrite bytes offset patch) (offset + place) = octet patch place := by
  simp only [octet, List.getD_eq_getElem?_getD]
  rw [getElem?_overwrite hwithin, if_pos (by omega), Nat.add_sub_cancel_left]

@[simp]
theorem length_setWord (hwithin : offset + 2 ≤ bytes.length) (value : UInt16) :
    (setWord bytes offset value).length = bytes.length :=
  length_overwrite hwithin

theorem word_setWord (hwithin : offset + 2 ≤ bytes.length) (value : UInt16) :
    word (setWord bytes offset value) offset = value := by
  have hoctet (place : Nat) (hplace : place < 2) :
      octet (setWord bytes offset value) (offset + place) = octet (ofWord value) place :=
    octet_overwrite (ofWord value) hwithin hplace
  have hhigh := hoctet 0 (by decide)
  rw [Nat.add_zero] at hhigh
  rw [word, hhigh, hoctet 1 (by decide)]
  exact joinWord_ofWord value

@[simp]
theorem length_setOctet (hwithin : offset < bytes.length) (value : UInt8) :
    (setOctet bytes offset value).length = bytes.length :=
  length_overwrite hwithin

theorem octet_setOctet (hwithin : offset < bytes.length) (value : UInt8) :
    octet (setOctet bytes offset value) offset = value := by
  have hstored : octet (setOctet bytes offset value) (offset + 0) = octet [value] 0 :=
    octet_overwrite [value] hwithin Nat.one_pos
  rw [Nat.add_zero] at hstored
  exact hstored

/-- A change within the first octets is a change of what they are. -/
theorem take_overwrite {count : Nat} (hwithin : offset + patch.length ≤ count)
    (hcount : count ≤ bytes.length) :
    (overwrite bytes offset patch).take count = overwrite (bytes.take count) offset patch := by
  apply List.ext_getElem?
  intro place
  have hlength : (bytes.take count).length = count := List.length_take_of_le hcount
  rw [getElem?_overwrite (by omega)]
  by_cases hplace : place < count
  · rw [List.getElem?_take_of_lt hplace, List.getElem?_take_of_lt hplace,
      getElem?_overwrite (by omega)]
  · rw [List.getElem?_take_eq_none (by omega), List.getElem?_take_eq_none (by omega),
      if_neg (by omega)]

theorem drop_overwrite (hend : offset + patch.length = bytes.length) :
    (overwrite bytes offset patch).drop offset = patch := by
  rw [overwrite, hend, List.drop_length, List.append_nil]
  exact List.drop_left' (List.length_take_of_le (by omega))

/-- A string is what stands before a place, the two octets there and what stands behind them. -/
theorem take_word_drop (hwithin : offset + 2 ≤ bytes.length) :
    bytes.take offset ++ [octet bytes offset, octet bytes (offset + 1)]
      ++ bytes.drop (offset + 2) = bytes := by
  have hfirst : octet bytes offset = bytes[offset] := by
    rw [octet, List.getD_eq_getElem?_getD, List.getElem?_eq_getElem (by omega), Option.getD_some]
  have hsecond : octet bytes (offset + 1) = bytes[offset + 1] := by
    rw [octet, List.getD_eq_getElem?_getD, List.getElem?_eq_getElem (by omega), Option.getD_some]
  rw [hfirst, hsecond, List.append_assoc, List.cons_append, List.cons_append, List.nil_append,
    ← List.drop_eq_getElem_cons, ← List.drop_eq_getElem_cons, List.take_append_drop]

theorem toNat_joinWord (high low : UInt8) :
    (joinWord high low).toNat = high.toNat * 256 + low.toNat := by
  have hhigh := high.toNat_lt
  have hlow := low.toNat_lt
  simp only [joinWord, UInt16.toNat_add, UInt16.toNat_mul, UInt8.toNat_toUInt16,
    UInt16.reduceToNat]
  omega

@[simp]
theorem ofWord_joinWord (high low : UInt8) : ofWord (joinWord high low) = [high, low] := by
  have hhigh := high.toNat_lt
  have hlow := low.toNat_lt
  have hjoined := toNat_joinWord high low
  have hfirst : (joinWord high low / 256).toUInt8 = high := by
    apply UInt8.toNat_inj.1
    rw [UInt16.toNat_toUInt8, UInt16.toNat_div, hjoined]
    simp only [UInt16.reduceToNat]
    omega
  have hsecond : (joinWord high low).toUInt8 = low := by
    apply UInt8.toNat_inj.1
    rw [UInt16.toNat_toUInt8, hjoined]
    omega
  rw [ofWord, hfirst, hsecond]

/-- Storing the word that is there changes nothing. -/
theorem setWord_word {bytes : Octets} {offset : Nat} (hwithin : offset + 2 ≤ bytes.length) :
    setWord bytes offset (word bytes offset) = bytes := by
  rw [setWord, word, ofWord_joinWord]
  exact take_word_drop hwithin

/-! ## Agreement -/

/-- Two strings have the same length and differ at most inside a set of positions. -/
structure AgreeOutside (inside : Set Nat) (before after : Octets) : Prop where
  length : after.length = before.length
  getElem? : ∀ place ∉ inside, after[place]? = before[place]?

namespace AgreeOutside

protected theorem refl (inside : Set Nat) (bytes : Octets) : AgreeOutside inside bytes bytes :=
  ⟨rfl, fun _ _ => rfl⟩

/-- Strings of the same length agree outside all positions. -/
theorem univ (hlength : after.length = before.length) : AgreeOutside Set.univ before after :=
  ⟨hlength, fun place hplace => absurd (Set.mem_univ place) hplace⟩

theorem trans (hfirst : AgreeOutside inside before middle)
    (hsecond : AgreeOutside inside middle after) : AgreeOutside inside before after where
  length := hsecond.length.trans hfirst.length
  getElem? place hplace := (hsecond.getElem? place hplace).trans (hfirst.getElem? place hplace)

theorem mono (hagree : AgreeOutside inside before after) (hwider : inside ⊆ wider) :
    AgreeOutside wider before after where
  length := hagree.length
  getElem? place hplace := hagree.getElem? place fun hinside => hplace (hwider hinside)

theorem trans_union (hfirst : AgreeOutside inside before middle)
    (hsecond : AgreeOutside wider middle after) : AgreeOutside (inside ∪ wider) before after :=
  (hfirst.mono Set.subset_union_left).trans (hsecond.mono Set.subset_union_right)

theorem overwrite (bytes : Octets) (offset : Nat) (patch : Octets)
    (hwithin : offset + patch.length ≤ bytes.length) :
    AgreeOutside (Set.Ico offset (offset + patch.length)) bytes
      (Octets.overwrite bytes offset patch) where
  length := length_overwrite hwithin
  getElem? place hplace := by
    rw [Set.mem_Ico] at hplace
    rw [getElem?_overwrite hwithin, if_neg hplace]

theorem setWord (bytes : Octets) (offset : Nat) (hwithin : offset + 2 ≤ bytes.length)
    (value : UInt16) :
    AgreeOutside (Set.Ico offset (offset + 2)) bytes (Octets.setWord bytes offset value) :=
  overwrite bytes offset (ofWord value) hwithin

theorem setOctet (bytes : Octets) (offset : Nat) (hwithin : offset < bytes.length)
    (value : UInt8) : AgreeOutside {offset} bytes (Octets.setOctet bytes offset value) := by
  apply (overwrite bytes offset [value] hwithin).mono
  intro place hplace
  exact Nat.le_antisymm (Nat.le_of_lt_succ hplace.2) hplace.1

theorem take (hagree : AgreeOutside inside before after) (count : Nat) :
    AgreeOutside inside (before.take count) (after.take count) where
  length := by rw [List.length_take, List.length_take, hagree.length]
  getElem? place hplace := by
    rw [List.getElem?_take, List.getElem?_take, hagree.getElem? place hplace]

theorem drop (hagree : AgreeOutside inside before after) (count : Nat) :
    AgreeOutside {place | count + place ∈ inside} (before.drop count) (after.drop count) where
  length := by rw [List.length_drop, List.length_drop, hagree.length]
  getElem? place hplace := by
    rw [List.getElem?_drop, List.getElem?_drop, hagree.getElem? _ hplace]

/-- Strings that agree everywhere are equal. -/
theorem eq (hagree : AgreeOutside inside before after)
    (hnone : ∀ place < before.length, place ∉ inside) : after = before := by
  apply List.ext_getElem?
  intro place
  by_cases hplace : place < before.length
  · exact hagree.getElem? place (hnone place hplace)
  · have hlength := hagree.length
    rw [List.getElem?_eq_none (by omega), List.getElem?_eq_none (by omega)]

theorem eq_of_empty (hagree : AgreeOutside ∅ before after) : after = before :=
  hagree.eq fun _ _ hplace => hplace.elim

/-- Behind all that may differ, strings are the same. -/
theorem drop_eq {count : Nat} (hagree : AgreeOutside inside before after)
    (hbefore : ∀ place ∈ inside, place < count) : after.drop count = before.drop count := by
  apply (hagree.drop count).eq
  intro place _ hinside
  exact absurd (hbefore _ hinside) (not_lt.2 (Nat.le_add_right count place))

/-- Overwriting two strings by the same octets makes them agree there as well. -/
theorem overwrite_both (hagree : AgreeOutside inside before after) (patch : Octets)
    (hwithin : offset + patch.length ≤ before.length) :
    AgreeOutside (inside \ Set.Ico offset (offset + patch.length))
      (Octets.overwrite before offset patch) (Octets.overwrite after offset patch) where
  length := by
    rw [length_overwrite hwithin, length_overwrite (by rw [hagree.length]; exact hwithin),
      hagree.length]
  getElem? place hplace := by
    rw [getElem?_overwrite hwithin, getElem?_overwrite (by rw [hagree.length]; exact hwithin)]
    by_cases hpatched : offset ≤ place ∧ place < offset + patch.length
    · rw [if_pos hpatched, if_pos hpatched]
    · rw [if_neg hpatched, if_neg hpatched]
      exact hagree.getElem? place fun hinside => hplace ⟨hinside, hpatched⟩

theorem setWord_both (hagree : AgreeOutside inside before after) (value : UInt16)
    (hwithin : offset + 2 ≤ before.length) :
    AgreeOutside (inside \ Set.Ico offset (offset + 2)) (Octets.setWord before offset value)
      (Octets.setWord after offset value) :=
  hagree.overwrite_both (ofWord value) hwithin

theorem append_both (hagree : AgreeOutside inside before after) (right : Octets) :
    AgreeOutside inside (before ++ right) (after ++ right) where
  length := by rw [List.length_append, List.length_append, hagree.length]
  getElem? place hplace := by
    rw [List.getElem?_append, List.getElem?_append, hagree.length]
    split
    · exact hagree.getElem? place hplace
    · rfl

theorem octet (hagree : AgreeOutside inside before after) (hplace : place ∉ inside) :
    Octets.octet after place = Octets.octet before place := by
  simp only [Octets.octet, List.getD_eq_getElem?_getD, hagree.getElem? place hplace]

theorem word (hagree : AgreeOutside inside before after) (hhigh : place ∉ inside)
    (hlow : place + 1 ∉ inside) : Octets.word after place = Octets.word before place := by
  rw [Octets.word, Octets.word, hagree.octet hhigh, hagree.octet hlow]

end AgreeOutside

/-! ## Parts -/

theorem octet_take {count : Nat} (hplace : place < count) :
    octet (bytes.take count) place = octet bytes place := by
  simp only [octet, List.getD_eq_getElem?_getD, List.getElem?_take_of_lt hplace]

theorem octet_drop (bytes : Octets) (count place : Nat) :
    octet (bytes.drop count) place = octet bytes (count + place) := by
  simp only [octet, List.getD_eq_getElem?_getD, List.getElem?_drop]

theorem word_drop (bytes : Octets) (count place : Nat) :
    word (bytes.drop count) place = word bytes (count + place) := by
  simp only [word, octet_drop, Nat.add_assoc]

section

variable {left : Octets}

theorem octet_append (right : Octets) (hplace : place < left.length) :
    octet (left ++ right) place = octet left place := by
  simp only [octet, List.getD_eq_getElem?_getD, List.getElem?_append_left hplace]

theorem octet_append_add (left right : Octets) (place : Nat) :
    octet (left ++ right) (left.length + place) = octet right place := by
  simp only [octet, List.getD_eq_getElem?_getD,
    List.getElem?_append_right (Nat.le_add_right left.length place), Nat.add_sub_cancel_left]

theorem overwrite_append (right : Octets) (hwithin : offset + patch.length ≤ left.length) :
    overwrite (left ++ right) offset patch = overwrite left offset patch ++ right := by
  rw [overwrite, overwrite, List.take_append_of_le_length (by omega),
    List.drop_append_of_le_length hwithin, List.append_assoc _ _ right]

theorem append_overwrite (left right : Octets) (offset : Nat) (patch : Octets) :
    left ++ overwrite right offset patch =
      overwrite (left ++ right) (left.length + offset) patch := by
  rw [overwrite, overwrite, List.take_length_add_append, Nat.add_assoc,
    List.drop_length_add_append, List.append_assoc, List.append_assoc, List.append_assoc]

theorem setWord_append (right : Octets) (value : UInt16) (hwithin : offset + 2 ≤ left.length) :
    setWord (left ++ right) offset value = setWord left offset value ++ right :=
  overwrite_append right hwithin

theorem append_setWord (left right : Octets) (offset : Nat) (value : UInt16) :
    left ++ setWord right offset value = setWord (left ++ right) (left.length + offset) value :=
  append_overwrite left right offset (ofWord value)

end

end Octets

/-! ## Addresses -/

def Family.addressLength : Family → Nat
  | v4 => 4
  | v6 => 16

@[simp]
theorem Address.length_octets (address : Address) :
    address.octets.length = address.family.addressLength := by
  cases address <;> rfl

section

variable {bytes : Octets} {offset : Nat}

theorem V4.read_congr (source : Octets) (start : Nat) (hsame : ∀ place < 4,
    Octets.octet bytes (offset + place) = Octets.octet source (start + place)) :
    V4.read bytes offset = V4.read source start := by
  have hfirst := hsame 0 (by decide)
  rw [Nat.add_zero, Nat.add_zero] at hfirst
  rw [V4.read, V4.read, hfirst, hsame 1 (by decide), hsame 2 (by decide), hsame 3 (by decide)]

theorem V6.read_congr (source : Octets) (start : Nat) (hsame : ∀ place < 16,
    Octets.octet bytes (offset + place) = Octets.octet source (start + place)) :
    V6.read bytes offset = V6.read source start := by
  have hword (place : Nat) (hplace : place + 1 < 16) :
      Octets.word bytes (offset + place) = Octets.word source (start + place) := by
    rw [Octets.word, Octets.word, Nat.add_assoc, Nat.add_assoc, hsame _ hplace,
      hsame _ (Nat.lt_of_succ_lt hplace)]
  have hfirst := hword 0 (by decide)
  rw [Nat.add_zero, Nat.add_zero] at hfirst
  rw [V6.read, V6.read, hfirst, hword 2 (by decide), hword 4 (by decide), hword 6 (by decide),
    hword 8 (by decide), hword 10 (by decide), hword 12 (by decide), hword 14 (by decide)]

theorem V4.read_overwrite (address : V4) (hwithin : offset + 4 ≤ bytes.length) :
    V4.read (Octets.overwrite bytes offset address.octets) offset = address := by
  apply V4.read_congr address.octets 0
  intro place hplace
  rw [Nat.zero_add]
  exact Octets.octet_overwrite address.octets hwithin hplace

theorem V6.read_octets (address : V6) : V6.read address.octets 0 = address := by
  simp [V6.read, V6.octets, V6.segments, Octets.word, Octets.octet, Octets.ofWord]

theorem V6.read_overwrite (address : V6) (hwithin : offset + 16 ≤ bytes.length) :
    V6.read (Octets.overwrite bytes offset address.octets) offset = address := by
  rw [V6.read_congr address.octets 0, V6.read_octets]
  intro place hplace
  rw [Nat.zero_add]
  exact Octets.octet_overwrite address.octets hwithin hplace

end

end PortalNat
