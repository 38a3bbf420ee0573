import PortalNat.Proofs.Checksum.OnesComplement

/-!
# Folding in rounds and summing in pieces

The carries of an accumulator are gone after at most two rounds, and no addition on the way there
overflows. What is left is the accumulator modulo 65535, with 65535 in the place of a zero that is
not empty, and that is the sum of its two halves in one's complement.

A sum may stop between two octets and go on from there with the rest. It comes to what it would have
been without the stop if the number of octets before it is even. After an odd number every octet
counts in the wrong half of its word, so the sum and the checksum can come to something else.
-/

namespace PortalNat

namespace Guarded

/-- Fold an accumulator, but give up if it still carries after so many rounds. -/
def foldWithin : Nat → UInt32 → Guarded (Option UInt16)
  | 0, accumulator =>
    pure (if accumulator / 65536 = 0 then some accumulator.toUInt16 else none)
  | rounds + 1, accumulator =>
    if accumulator / 65536 = 0 then pure (some accumulator.toUInt16)
    else do foldWithin rounds (← addDoubleWords (accumulator % 65536) (accumulator / 65536))

section

variable {accumulator : UInt32}

theorem foldWithin_of_low (hlow : accumulator / 65536 = 0) (rounds : Nat) :
    foldWithin rounds accumulator = pure (some (Checksum.fold accumulator)) := by
  rw [Checksum.fold, if_pos hlow]
  cases rounds with
  | zero => rw [foldWithin, if_pos hlow]
  | succ rounds => rw [foldWithin, if_pos hlow]

/-- A round adds two numbers of sixteen bits. -/
theorem foldWithin_of_high (hhigh : accumulator / 65536 ≠ 0) (rounds : Nat) :
    foldWithin (rounds + 1) accumulator =
      foldWithin rounds (accumulator % 65536 + accumulator / 65536) := by
  rw [foldWithin, if_neg hhigh, addDoubleWords_eq (halves_fit accumulator), pure_bind]

/-- One round is enough where the high half is at most one. -/
theorem foldWithin_succ (honce : accumulator.toNat ≤ 131070) (rounds : Nat) :
    foldWithin (rounds + 1) accumulator = pure (some (Checksum.fold accumulator)) := by
  by_cases hlow : accumulator / 65536 = 0
  · exact foldWithin_of_low hlow (rounds + 1)
  · have hnext : (accumulator % 65536 + accumulator / 65536) / 65536 = 0 := by
      rw [Checksum.high_eq_zero_iff, Checksum.toNat_halves]
      omega
    rw [foldWithin_of_high hlow, foldWithin_of_low hnext, Checksum.fold.eq_def accumulator,
      if_neg hlow]

end

/-- Two rounds are enough for every accumulator, and none of them overflows. -/
theorem foldWithin_add_two (rounds : Nat) (accumulator : UInt32) :
    foldWithin (rounds + 2) accumulator = pure (some (Checksum.fold accumulator)) := by
  by_cases hlow : accumulator / 65536 = 0
  · exact foldWithin_of_low hlow (rounds + 2)
  · have hnext : (accumulator % 65536 + accumulator / 65536).toNat ≤ 131070 := by
      have hbound := accumulator.toNat_lt
      rw [Checksum.toNat_halves]
      omega
    rw [foldWithin_of_high hlow, foldWithin_succ hnext, Checksum.fold.eq_def accumulator,
      if_neg hlow]

end Guarded

namespace Checksum

open Octets (joinWord)

/-- A folded accumulator is the sum of its two halves in one's complement. -/
theorem fold_eq_onesAdd (accumulator : UInt32) :
    fold accumulator =
      onesAdd accumulator.toUInt16 (accumulator / 65536).toUInt16 := by
  have hbound := accumulator.toNat_lt
  have hlow : accumulator.toUInt16.toNat = accumulator.toNat % 65536 :=
    UInt32.toNat_toUInt16 accumulator
  have hhigh : (accumulator / 65536).toUInt16.toNat = accumulator.toNat / 65536 := by
    rw [UInt32.toNat_toUInt16, UInt32.toNat_div]
    simp only [UInt32.reduceToNat]
    omega
  apply UInt16.toNat_inj.1
  rw [toNat_fold, toNat_onesAdd, hlow, hhigh]
  split_ifs <;> omega

/-- Accumulators that fold to the same differ by a multiple of 65535. -/
theorem mod_eq_of_fold_eq {left right : UInt32} (hfolds : fold left = fold right) :
    left.toNat % 65535 = right.toNat % 65535 := by
  have hequal := congrArg UInt16.toNat hfolds
  rw [toNat_fold, toNat_fold] at hequal
  split_ifs at hequal <;> omega

/-! ## Regions summed one after the other -/

section

variable (accumulator : UInt32) {left : Octets}

theorem sum_append (right : Octets) (heven : left.length % 2 = 0) :
    sum accumulator (left ++ right) = sum (sum accumulator left) right := by
  rw [sum_eq (sum accumulator left), sum_eq accumulator left, sum_eq, total_append right heven,
    UInt32.ofNat_add, UInt32.add_assoc]

/-- An octet that comes after an odd number of octets is a low half. -/
theorem total_append_singleton (hodd : left.length % 2 = 1) (last : UInt8) :
    total (left ++ [last]) = total left + last.toNat := by
  fun_induction total left with
  | case1 high low rest ih =>
      rw [List.length_cons, List.length_cons] at hodd
      rw [List.cons_append, List.cons_append, total, ih (by omega), Nat.add_assoc]
  | case2 first =>
      rw [List.singleton_append, total, total, Octets.toNat_joinWord, Octets.toNat_joinWord,
        UInt8.toNat_zero]
      omega
  | case3 => cases hodd

/-- After an odd number of octets one more octet brings the pieces out of step. -/
theorem checksum_append_ne (hodd : left.length % 2 = 1) :
    checksum (sum accumulator left) [1] ≠ checksum accumulator (left ++ [1]) := by
  intro hequal
  have hfolds := UInt16.not_inj.1 hequal
  have hmod := mod_eq_of_fold_eq hfolds
  have hone : total [1] = 256 := rfl
  rw [sum_eq (sum accumulator left), sum_eq accumulator left, sum_eq accumulator,
    total_append_singleton hodd, hone, UInt32.ofNat_add, ← UInt32.add_assoc] at hmod
  generalize accumulator + UInt32.ofNat (total left) = whole at hmod
  have hbound := whole.toNat_lt
  simp only [UInt32.toNat_add, UInt32.reduceToNat, UInt8.toNat_one, UInt32.reduceOfNat] at hmod
  omega

/-- A sum can be taken up again exactly where an even number of octets has been added. -/
theorem even_iff_sum_append (left : Octets) :
    left.length % 2 = 0 ↔
      ∀ right, sum (sum accumulator left) right = sum accumulator (left ++ right) := by
  constructor
  case mp => exact fun heven right => (sum_append accumulator right heven).symm
  case mpr =>
    intro hpieces
    by_contra hodd
    exact checksum_append_ne accumulator (Nat.mod_two_ne_zero.1 hodd)
      (congrArg (fun whole => ~~~(fold whole)) (hpieces [1]))

/-- So can a checksum. -/
theorem even_iff_checksum_append (left : Octets) :
    left.length % 2 = 0 ↔
      ∀ right, checksum (sum accumulator left) right = checksum accumulator (left ++ right) := by
  constructor
  case mp =>
    intro heven right
    rw [checksum, checksum, sum_append accumulator right heven]
  case mpr =>
    intro hpieces
    by_contra hodd
    exact checksum_append_ne accumulator (Nat.mod_two_ne_zero.1 hodd) (hpieces [1])

end

/-- Every accumulator is folded after at most two rounds, none of which overflows. It comes to its
value modulo 65535, with 65535 in the place of a zero that is not empty, which is the sum of its
halves in one's complement. Sums and checksums may be taken in pieces where the first piece has an
even number of octets, and only there. -/
theorem folds_and_resumes (accumulator : UInt32) (left : Octets) :
    ((fold accumulator).toNat =
        if accumulator.toNat = 0 then 0 else (accumulator.toNat - 1) % 65535 + 1) ∧
      (∀ rounds,
        Guarded.foldWithin (rounds + 2) accumulator = pure (some (fold accumulator))) ∧
      fold accumulator = onesAdd accumulator.toUInt16 (accumulator / 65536).toUInt16 ∧
      (left.length % 2 = 0 ↔
        ∀ right, sum (sum accumulator left) right = sum accumulator (left ++ right)) ∧
      (left.length % 2 = 0 ↔
        ∀ right,
          checksum (sum accumulator left) right = checksum accumulator (left ++ right)) := by
  refine ⟨toNat_fold accumulator, ?_, fold_eq_onesAdd accumulator, ?_, ?_⟩
  · exact fun rounds => Guarded.foldWithin_add_two rounds accumulator
  · exact even_iff_sum_append accumulator left
  · exact even_iff_checksum_append accumulator left

/-- The region of the worked example in RFC 1071, in two pieces. -/
example : fold (sum (sum 0 [0x00, 0x01, 0xf2, 0x03]) [0xf4, 0xf5, 0xf6, 0xf7]) = 0xddf2 := by
  cbv

end Checksum

end PortalNat
