import Mathlib.Logic.Function.Iterate
import PortalNat.Proofs.Session.Bijection

/-!
# The search for a free port

The search looks at the ports of the range in the order of the cursor and goes on at the lowest
port after the highest. It looks at as many ports as the range has, so a search that fails has gone
round once and leaves the cursor where it found it.
-/

namespace PortalNat.SessionTable

/-- Up to the highest port the cursor counts up. -/
theorem toNat_iterate_successor {table : SessionTable} {port : UInt16} {count : Nat}
    (hbelow : port.toNat + count ≤ table.highest.toNat) :
    (table.successor^[count] port).toNat = port.toNat + count := by
  induction count with
  | zero => rfl
  | succ count ih =>
      have hplace := ih (Nat.le_of_succ_le hbelow)
      have hnot : ¬table.highest ≤ table.successor^[count] port := by
        rw [UInt16.le_iff_toNat_le, hplace]
        omega
      rw [Function.iterate_succ_apply', toNat_successor, if_neg hnot, hplace, Nat.add_assoc]

theorem iterate_successor_eq {table : SessionTable} {port other : UInt16}
    (hfrom : port.toNat ≤ other.toNat) (hto : other.toNat ≤ table.highest.toNat) :
    table.successor^[other.toNat - port.toNat] port = other := by
  apply UInt16.toNat_inj.1
  rw [toNat_iterate_successor] <;> omega

/-- The cursor comes back to where it was after as many steps as the range has ports. -/
theorem iterate_successor_span {table : SessionTable} {port : UInt16}
    (hport : table.inRange port) : table.successor^[table.span] port = port := by
  obtain ⟨hlowest, hhighest⟩ := (inRange_iff table port).1 hport
  have hspan : table.span =
      (port.toNat - table.lowest.toNat) + (1 + (table.highest.toNat - port.toNat)) := by
    rw [span]
    omega
  have hwrap : table.successor table.highest = table.lowest :=
    if_pos (UInt16.le_iff_toNat_le.2 (le_refl _))
  calc
    table.successor^[table.span] port =
        table.successor^[port.toNat - table.lowest.toNat]
          (table.successor^[1] (table.successor^[table.highest.toNat - port.toNat] port)) := by
      rw [hspan, Function.iterate_add_apply, Function.iterate_add_apply]
    _ = table.successor^[port.toNat - table.lowest.toNat] (table.successor^[1] table.highest) := by
      rw [iterate_successor_eq hhighest (le_refl _)]
    _ = table.successor^[port.toNat - table.lowest.toNat] table.lowest := by
      rw [Function.iterate_one, hwrap]
    _ = port := iterate_successor_eq hlowest hhighest

/-- A search that fails moves the cursor by as many steps as it was given. -/
theorem cursor_findFree_of_none {table : SessionTable} {steps : Nat} {cursor : UInt16}
    (hnone : (table.findFree steps cursor).1 = none) :
    (table.findFree steps cursor).2 = table.successor^[steps] cursor := by
  induction steps generalizing cursor with
  | zero => rfl
  | succ steps ih =>
      rw [findFree] at hnone ⊢
      split at hnone
      · cases hnone
      · next hused =>
          rw [if_neg hused, ih hnone, Function.iterate_succ_apply]

/-- The cursor comes to every port of the range in fewer steps than the range has ports. -/
theorem exists_iterate_successor {table : SessionTable} {port other : UInt16}
    (hport : table.inRange port) (hother : table.inRange other) :
    ∃ count < table.span, table.successor^[count] port = other := by
  obtain ⟨hlowest, hhighest⟩ := (inRange_iff table port).1 hport
  obtain ⟨hleast, hgreatest⟩ := (inRange_iff table other).1 hother
  by_cases hahead : port.toNat ≤ other.toNat
  · refine ⟨other.toNat - port.toNat, ?_, iterate_successor_eq hahead hgreatest⟩
    rw [span]
    omega
  · have hwrap : table.successor table.highest = table.lowest :=
      if_pos (UInt16.le_iff_toNat_le.2 (le_refl _))
    refine ⟨(other.toNat - table.lowest.toNat) + (1 + (table.highest.toNat - port.toNat)), ?_, ?_⟩
    · rw [span]
      omega
    · rw [Function.iterate_add_apply, Function.iterate_add_apply,
        iterate_successor_eq hhighest (le_refl _), Function.iterate_one, hwrap,
        iterate_successor_eq hleast hgreatest]

/-- A search that fails has come to no free port. -/
theorem not_isFree_of_findFree {table : SessionTable} {steps : Nat} {cursor : UInt16}
    (hnone : (table.findFree steps cursor).1 = none) {count : Nat} (hcount : count < steps) :
    ¬table.isFree (table.successor^[count] cursor) := by
  induction steps generalizing cursor count with
  | zero => exact absurd hcount (Nat.not_lt_zero _)
  | succ steps ih =>
      rw [findFree] at hnone
      split at hnone
      · cases hnone
      · next hused =>
          cases count with
          | zero => exact hused
          | succ count =>
              rw [Function.iterate_succ_apply]
              exact ih hnone (Nat.lt_of_succ_lt_succ hcount)

/-- Some port that may be handed out is not in use. -/
def HasRoom (table : SessionTable) : Prop :=
  ∃ port, table.Allocatable port ∧ table.byPort[port]? = none

/-- A flow without a session gets one exactly when there is room for it. -/
theorem newSession_ok_iff {table : SessionTable} (hwell : table.WellFormed) {tuple : Tuple}
    (hfresh : table.byTuple[tuple]? = none) (now : Nat) :
    (∃ port, (table.newSession tuple now).1 = .ok port) ↔ table.HasRoom := by
  rcases newSession_cases table tuple now with
    ⟨_, hheld, -⟩ | ⟨-, port, cursor, hfound, hnew⟩ | ⟨-, cursor, hfound, hnew⟩
  · rw [hfresh] at hheld
    cases hheld
  · have hsearch := findFree_inRange hwell.lowest_le table.span hwell.cursor_inRange
    obtain ⟨hrange, hfree⟩ := hsearch.2 port (by rw [hfound])
    obtain ⟨hreserved, hunused⟩ := (isFree_iff table port).1 hfree
    rw [hnew]
    exact iff_of_true ⟨port, rfl⟩ ⟨port, ⟨hrange, hreserved⟩, hunused⟩
  · rw [hnew]
    refine iff_of_false (fun ⟨_, hok⟩ => nomatch hok) ?_
    rintro ⟨port, ⟨hrange, hreserved⟩, hunused⟩
    obtain ⟨count, hcount, rfl⟩ := exists_iterate_successor hwell.cursor_inRange hrange
    exact not_isFree_of_findFree (congrArg Prod.fst hfound) hcount
      ((isFree_iff table _).2 ⟨hreserved, hunused⟩)

/-- A flow without a session that gets one gets a port that was not in use. -/
theorem byPort_of_newSession {table after : SessionTable} (hwell : table.WellFormed)
    {tuple : Tuple} {now : Nat} {port : UInt16} (hfresh : table.byTuple[tuple]? = none)
    (hnew : table.newSession tuple now = (.ok port, after)) : table.byPort[port]? = none := by
  obtain ⟨cursor, hfound, -⟩ := newSession_made hnew hfresh
  have hsearch := findFree_inRange hwell.lowest_le table.span hwell.cursor_inRange
  exact ((isFree_iff table port).1 (hsearch.2 port (by rw [hfound])).2).2

/-- A flow for which there is no port leaves the table as it was, the cursor included. -/
theorem newSession_error {table : SessionTable} (hcursor : table.inRange table.cursor)
    {tuple : Tuple} {now : Nat} {error : SessionError}
    (herror : (table.newSession tuple now).1 = .error error) :
    error = .exhausted table.size ∧ (table.newSession tuple now).2 = table := by
  rcases newSession_cases table tuple now with
    ⟨_, _, hnew⟩ | ⟨_, _, _, _, hnew⟩ | ⟨_, cursor, hfound, hnew⟩ <;>
  rw [hnew] at herror ⊢ <;> cases herror
  have hback : cursor = table.cursor := by
    have hmoved := cursor_findFree_of_none (congrArg Prod.fst hfound)
    rwa [hfound, iterate_successor_span hcursor] at hmoved
  rw [hback]
  exact ⟨rfl, rfl⟩

end PortalNat.SessionTable
