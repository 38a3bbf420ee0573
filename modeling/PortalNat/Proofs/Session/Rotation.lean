import PortalNat.Proofs.Session.Allocation
import PortalNat.Proofs.Session.Lifecycle

/-!
# Ports come round again

The cursor goes round the circle of ports in one direction, and only the making of a session moves
it, to just past the port of that session. Between two sessions at one port it has therefore come to
every other port, and each of those was given to a session or found in use on the way. Of the ports
that are free, the one that was freed last is the last to be handed out again.
-/

namespace PortalNat.SessionTable

/-! ## What a search looks at -/

/-- The ports that a search looks at, in the order of the cursor. -/
def lookedAt (table : SessionTable) : (steps : Nat) → UInt16 → List UInt16
  | 0, _ => []
  | steps + 1, cursor =>
    cursor :: if table.isFree cursor then [] else lookedAt table steps (table.successor cursor)

/-- A search looks at a port if no port before it is free. -/
theorem mem_lookedAt_iff {table : SessionTable} {steps : Nat} {cursor port : UInt16} :
    port ∈ table.lookedAt steps cursor ↔
      ∃ place < steps, table.successor^[place] cursor = port ∧
        ∀ earlier < place, ¬table.isFree (table.successor^[earlier] cursor) := by
  induction steps generalizing cursor with
  | zero => simp [lookedAt]
  | succ steps ih =>
      rw [lookedAt, List.mem_cons]
      constructor
      · intro hlooked
        rcases hlooked with hfirst | hlater
        · exact ⟨0, Nat.succ_pos _, hfirst.symm, fun _ hearlier =>
            absurd hearlier (Nat.not_lt_zero _)⟩
        · split at hlater
          · cases hlater
          · next hused =>
              obtain ⟨place, hplace, hport, hpassed⟩ := ih.1 hlater
              refine ⟨place + 1, Nat.succ_lt_succ hplace, hport, ?_⟩
              intro earlier hearlier
              cases earlier with
              | zero => exact hused
              | succ earlier => exact hpassed earlier (Nat.lt_of_succ_lt_succ hearlier)
      · intro hplaced
        obtain ⟨place, hplace, hport, hpassed⟩ := hplaced
        cases place with
        | zero => exact .inl hport.symm
        | succ place =>
            right
            have hused : ¬table.isFree cursor := hpassed 0 (Nat.succ_pos _)
            rw [if_neg hused]
            exact ih.2 ⟨place, Nat.lt_of_succ_lt_succ hplace, hport, fun earlier hearlier =>
              hpassed (earlier + 1) (Nat.succ_lt_succ hearlier)⟩

/-- A step asks for the port of a flow that has none, and gets it for a new session. -/
def Step.HandsOut (table : SessionTable) (step : Step) (port : UInt16) : Prop :=
  ∃ tuple, step.operation = .newSession tuple ∧ table.byTuple[tuple]? = none ∧
    (table.newSession tuple step.now).1 = .ok port

/-- A step asks for the port of a flow that has none, and the search for one comes to a port, which
is handed out or found in use. -/
structure Step.Meets (table : SessionTable) (step : Step) (port : UInt16) : Prop where
  asks : ∃ tuple, step.operation = .newSession tuple ∧ table.byTuple[tuple]? = none
  looksAt : port ∈ table.lookedAt table.span table.cursor
  outcome : step.HandsOut table port ∨ ∃ entry, table.byPort[port]? = some entry

section

variable {table : SessionTable} {step : Step} {given port : UInt16}

namespace Step.HandsOut

variable (hgiven : step.HandsOut table given)
include hgiven

theorem made : ∃ tuple, table.findFree table.span table.cursor =
    (some given, table.successor given) ∧
      step.apply table = table.enter tuple given (table.successor given) step.now := by
  obtain ⟨tuple, hoperation, hfresh, hok⟩ := hgiven
  have happly : step.apply table = (table.newSession tuple step.now).2 := by
    rw [Step.apply, hoperation]
  obtain ⟨cursor, hfound, hmade⟩ := newSession_made (Prod.ext hok rfl) hfresh
  have hcursor : cursor = table.successor given := (findFree_eq_some hfound).1
  rw [hcursor] at hfound hmade
  exact ⟨tuple, hfound, happly.trans hmade⟩

theorem unique (hport : step.HandsOut table port) : given = port := by
  obtain ⟨-, hfound, -⟩ := hgiven.made
  obtain ⟨-, hfound', -⟩ := hport.made
  rw [hfound] at hfound'
  exact Option.some.inj (congrArg Prod.fst hfound')

/-- Making a session moves the cursor to just past its port. -/
theorem cursor : (step.apply table).cursor = table.successor given := by
  obtain ⟨tuple, -, hmade⟩ := hgiven.made
  rw [hmade]
  rfl

theorem held : ∃ entry, (step.apply table).byPort[given]? = some entry := by
  obtain ⟨tuple, -, hmade⟩ := hgiven.made
  rw [hmade, byPort_enter, if_pos rfl]
  exact ⟨_, rfl⟩

theorem first (hwell : table.WellFormed) : table.FirstAvailable given := by
  obtain ⟨-, hfound, -⟩ := hgiven.made
  exact firstAvailable_of_findFree hwell hfound

end Step.HandsOut

/-- Nothing but the making of a session moves the cursor. -/
theorem cursor_apply_cases (hwell : table.WellFormed) (step : Step) :
    (step.apply table).cursor = table.cursor ∨ ∃ given, step.HandsOut table given := by
  by_cases hnew : ∃ tuple, step.operation = .newSession tuple
  · obtain ⟨tuple, hoperation⟩ := hnew
    have happly : step.apply table = (table.newSession tuple step.now).2 := by
      rw [Step.apply, hoperation]
    cases hheld : table.byTuple[tuple]? with
    | some port =>
        left
        rw [happly, newSession_of_held hheld]
    | none =>
        cases hresult : (table.newSession tuple step.now).1 with
        | ok given => exact .inr ⟨given, tuple, hoperation, hheld, hresult⟩
        | error error =>
            left
            rw [happly, (newSession_error hwell.cursor_inRange hresult).2]
  · exact .inl (congrArg (·.2.1) (frame_apply table (not_exists.1 hnew)))

theorem evict_fst (table : SessionTable) (tuple : Tuple) :
    (table.evict tuple).1 = table.byTuple[tuple]? := by
  cases hheld : table.byTuple[tuple]? <;> simp only [evict, hheld]

/-! ## How far ahead a port is -/

theorem successor_congr {before after : SessionTable}
    (hsettings : after.settings = before.settings) : after.successor = before.successor := by
  simp only [settings, Prod.mk.injEq] at hsettings
  funext port
  simp only [successor, hsettings]

theorem span_congr {before after : SessionTable}
    (hsettings : after.settings = before.settings) : after.span = before.span := by
  simp only [settings, Prod.mk.injEq] at hsettings
  simp only [span, hsettings]

theorem ahead_congr {before after : SessionTable} (hsettings : after.settings = before.settings)
    (hcursor : after.cursor = before.cursor) (port : UInt16) :
    after.ahead port = before.ahead port := by
  simp only [ahead, hcursor, span_congr hsettings]

section

variable (hwell : table.WellFormed) (hport : table.inRange port)
include hwell hport

/-- A port of the range is as many steps of the cursor away as it is ahead. -/
theorem ahead_spec :
    table.ahead port < table.span ∧ table.successor^[table.ahead port] table.cursor = port := by
  obtain ⟨count, hcount, hplace⟩ := exists_iterate_successor hwell.cursor_inRange hport
  have hahead := ahead_iterate_successor hwell.cursor_inRange hcount
  rw [hplace] at hahead
  rw [hahead]
  exact ⟨hcount, hplace⟩

theorem eq_of_ahead_eq {other : UInt16} (hother : table.inRange other)
    (hsame : table.ahead other = table.ahead port) : other = port := by
  calc
    other = table.successor^[table.ahead other] table.cursor := (ahead_spec hwell hother).2.symm
    _ = table.successor^[table.ahead port] table.cursor := by rw [hsame]
    _ = port := (ahead_spec hwell hport).2

/-- The search of a step that hands a port out has looked at the ports up to that one. -/
theorem mem_lookedAt_iff_ahead_le (hgiven : step.HandsOut table given) :
    port ∈ table.lookedAt table.span table.cursor ↔ table.ahead port ≤ table.ahead given := by
  obtain ⟨-, hfound, -⟩ := hgiven.made
  obtain ⟨-, count, hcount, hplace, hpassed⟩ := findFree_eq_some hfound
  have hahead : table.ahead given = count := by
    rw [← hplace, ahead_iterate_successor hwell.cursor_inRange hcount]
  rw [mem_lookedAt_iff, hahead]
  constructor
  · intro hlooked
    obtain ⟨place, hbefore, hat, hskipped⟩ := hlooked
    rw [← hat, ahead_iterate_successor hwell.cursor_inRange hbefore]
    by_contra hbeyond
    apply hskipped count (not_le.1 hbeyond)
    rw [hplace, isFree_iff]
    exact ⟨(hgiven.first hwell).available.1.2, (hgiven.first hwell).available.2⟩
  · intro hle
    obtain ⟨hless, hat⟩ := ahead_spec hwell hport
    exact ⟨table.ahead port, hless, hat, fun earlier hearlier =>
      hpassed earlier (hearlier.trans_le hle)⟩

/-- A port that the search has not come to is closer to the cursor afterwards by as much as the
cursor has moved. -/
theorem ahead_apply (hgiven : step.HandsOut table given)
    (hbeyond : table.ahead given < table.ahead port) :
    (step.apply table).ahead port = table.ahead port - (table.ahead given + 1) := by
  have hsettings := settings_apply table step
  have hafter := hwell.apply step
  obtain ⟨hless, hat⟩ := ahead_spec hwell hport
  have hgivenAt := (ahead_spec hwell (hgiven.first hwell).available.1.1).2
  have hcursor : (step.apply table).cursor =
      table.successor^[table.ahead given + 1] table.cursor := by
    rw [hgiven.cursor, Function.iterate_succ_apply', hgivenAt]
  have hplace : (step.apply table).successor^[table.ahead port - (table.ahead given + 1)]
      (step.apply table).cursor = port := by
    rw [successor_congr hsettings, hcursor, ← Function.iterate_add_apply,
      Nat.sub_add_cancel hbeyond, hat]
  have hahead := ahead_iterate_successor hafter.cursor_inRange
    (show table.ahead port - (table.ahead given + 1) < (step.apply table).span by
      rw [span_congr hsettings]
      exact (Nat.sub_le _ _).trans_lt hless)
  rwa [hplace] at hahead

end

/-- A port that was just handed out is as far ahead as a port can be. -/
theorem ahead_apply_given (hwell : table.WellFormed) (hgiven : step.HandsOut table given) :
    (step.apply table).ahead given + 1 = table.span := by
  have hsettings := settings_apply table step
  have hafter := hwell.apply step
  have hrange := (hgiven.first hwell).available.1.1
  have hspan : table.span - 1 + 1 = table.span := Nat.sub_add_cancel (Nat.succ_pos _)
  have hplace : (step.apply table).successor^[table.span - 1] (step.apply table).cursor =
      given := by
    rw [successor_congr hsettings, hgiven.cursor, ← Function.iterate_succ_apply,
      Nat.succ_eq_add_one, hspan, iterate_successor_span hrange]
  have hahead := ahead_iterate_successor hafter.cursor_inRange
    (show table.span - 1 < (step.apply table).span by
      rw [span_congr hsettings]
      exact Nat.sub_lt (Nat.succ_pos _) Nat.one_pos)
  rw [hplace] at hahead
  rw [hahead, hspan]

/-! ## One step and many -/

section

variable (hwell : table.WellFormed) {other : UInt16} (hother : table.Allocatable other)
include hwell hother

/-- A step that hands a port out meets every port that is no further ahead. -/
theorem meets_of_ahead_le (hgiven : step.HandsOut table given)
    (hle : table.ahead other ≤ table.ahead given) : step.Meets table other := by
  have hfirst := hgiven.first hwell
  constructor
  · obtain ⟨tuple, hoperation, hfresh, -⟩ := hgiven
    exact ⟨tuple, hoperation, hfresh⟩
  · exact (mem_lookedAt_iff_ahead_le hwell hother.1 hgiven).2 hle
  · cases hheld : table.byPort[other]? with
    | some entry => exact .inr ⟨entry, rfl⟩
    | none =>
        left
        have hsame : table.ahead other = table.ahead given :=
          le_antisymm hle (hfirst.first other ⟨hother, hheld⟩)
        rw [eq_of_ahead_eq hwell hfirst.available.1.1 hother.1 hsame]
        exact hgiven

/-- Unless a step meets a port, that port stays no further ahead than those beyond it. -/
theorem ahead_le_apply (hport : table.inRange port) (hle : table.ahead other ≤ table.ahead port)
    (hpassed : ¬step.Meets table other) :
    (step.apply table).ahead other ≤ (step.apply table).ahead port := by
  rcases cursor_apply_cases hwell step with hstill | hmoved
  · have hsame := ahead_congr (settings_apply table step) hstill
    rw [hsame, hsame]
    exact hle
  · obtain ⟨given, hgiven⟩ := hmoved
    have hbeyond : table.ahead given < table.ahead other := by
      by_contra hreached
      exact hpassed (meets_of_ahead_le hwell hother hgiven (not_lt.1 hreached))
    rw [ahead_apply hwell hother.1 hgiven hbeyond,
      ahead_apply hwell hport hgiven (hbeyond.trans_le hle)]
    exact Nat.sub_le_sub_right hle _

/-- Before a port is handed out, every port that is no further ahead is met. -/
theorem exists_meets (hport : table.inRange port) (hle : table.ahead other ≤ table.ahead port)
    {between : List Step} {again : Step} (hagain : again.HandsOut (table.run between) port) :
    ∃ passed step rest, between ++ [again] = passed ++ step :: rest ∧
      step.Meets (table.run passed) other := by
  -- The invariant is that the other port is no further ahead, which holds until it is met.
  induction between generalizing table with
  | nil => exact ⟨[], again, [], rfl, meets_of_ahead_le hwell hother hagain hle⟩
  | cons step between ih =>
      by_cases hmeets : step.Meets table other
      · exact ⟨[], step, between ++ [again], rfl, hmeets⟩
      · have hsettings := settings_apply table step
        have hother' := (allocatable_congr hsettings other).2 hother
        have hport' : (step.apply table).inRange port := by
          simp only [settings, Prod.mk.injEq] at hsettings
          simpa only [inRange, hsettings] using hport
        obtain ⟨passed, found, rest, hsplit, hfound⟩ := ih (hwell.apply step) hother' hport'
          (ahead_le_apply hwell hother hport hle hmeets) hagain
        exact ⟨step :: passed, found, rest, congrArg (step :: ·) hsplit, hfound⟩

/-- Between two sessions at one port every other port is met. -/
theorem exists_meets_of_handsOut (hgiven : step.HandsOut table given) {between : List Step}
    {again : Step} (hagain : again.HandsOut (table.run (step :: between)) given) :
    ∃ passed met rest, between ++ [again] = passed ++ met :: rest ∧
      met.Meets (table.run (step :: passed)) other := by
  have hafter := hwell.apply step
  have hsettings := settings_apply table step
  have hother' := (allocatable_congr hsettings other).2 hother
  have hgiven' := (allocatable_congr hsettings given).2 (hgiven.first hwell).available.1
  -- No port is further ahead than the one that was just handed out.
  have hfurthest : (step.apply table).ahead other ≤ (step.apply table).ahead given := by
    have hless := (ahead_spec hafter hother'.1).1
    rw [span_congr hsettings, ← ahead_apply_given hwell hgiven] at hless
    exact Nat.le_of_lt_succ hless
  exact exists_meets hafter hother' hgiven'.1 hfurthest hagain

/-- As long as another port stays free, a port that was handed out and freed is not handed out
again. -/
theorem newSession_ne_of_free (hgiven : step.HandsOut table given) (hne : other ≠ given)
    {between : List Step}
    (hfree : ∀ passed, passed <+: between → (table.run (step :: passed)).byPort[other]? = none)
    (hfreed : (table.run (step :: between)).byPort[given]? = none) (flow : Tuple) (now : Nat) :
    ((table.run (step :: between)).newSession flow now).1 ≠ .ok given := by
  intro hok
  have hfinal : (table.run (step :: between)).WellFormed := hwell.run _
  have hfresh : (table.run (step :: between)).byTuple[flow]? = none := by
    cases hheld : (table.run (step :: between)).byTuple[flow]? with
    | none => rfl
    | some held =>
        rw [newSession_of_held hheld] at hok
        cases hok
        rw [hfinal.inverse, tupleAt, hfreed] at hheld
        cases hheld
  have hagain : Step.HandsOut (table.run (step :: between)) ⟨.newSession flow, now⟩ given :=
    ⟨flow, rfl, hfresh, hok⟩
  obtain ⟨passed, met, rest, hsplit, hmeets⟩ :=
    exists_meets_of_handsOut hwell hother hgiven hagain
  have hreached : passed ++ [met] <+: between ++ [⟨.newSession flow, now⟩] := by
    rw [hsplit, List.append_cons passed met rest]
    exact List.prefix_append _ _
  have hwithin : passed <+: between := by
    rcases List.prefix_concat_iff.1 hreached with hlast | hbefore
    · rw [(List.append_inj' hlast rfl).1]
    · exact (List.prefix_append _ _).trans hbefore
  rcases hmeets.outcome with hout | hheld
  · rcases List.prefix_concat_iff.1 hreached with hlast | hbefore
    · obtain ⟨rfl, hmet⟩ := List.append_inj' hlast rfl
      cases hmet
      exact hne (hout.unique hagain)
    · obtain ⟨entry, hentry⟩ := hout.held
      have hnone := hfree _ hbefore
      rw [← List.cons_append, run_append, run_cons, run_nil, hentry] at hnone
      cases hnone
  · obtain ⟨entry, hentry⟩ := hheld
    rw [hfree passed hwithin] at hentry
    cases hentry

end

end

/-- Whatever is done to a table that starts out empty, between two sessions at one port every other
port that may be handed out turns up in a search and is handed out or found in use there. So if
another port stays free from the making of a session on, the port of that session is not the next
one to be handed out once its flow was evicted. A port that only became free behind the cursor does
not count for that: the cursor comes to it later. -/
theorem handsOut_again (lowest highest first : UInt16) (reserved : List UInt16)
    (linger idleTimeout : Nat) (earlier between : List Step) (given : Step) (port other : UInt16) :
    let start := fresh lowest highest first reserved linger idleTimeout
    let table := start.run earlier
    given.HandsOut table port → start.Allocatable other → other ≠ port →
      (∀ again : Step, again.HandsOut (table.run (given :: between)) port →
        ∃ passed step rest, between ++ [again] = passed ++ step :: rest ∧
          step.Meets (table.run (given :: passed)) other) ∧
      ((∀ passed, passed <+: between →
          (table.run (given :: passed)).byPort[other]? = none) →
        ∀ (freed flow : Tuple) (now : Nat),
          ((table.run (given :: between)).evict freed).1 = some port →
            (((table.run (given :: between)).evict freed).2.newSession flow now).1 ≠
              .ok port) := by
  intro start table hgiven hother hne
  have hwell : table.WellFormed := (wellFormed_fresh _ _ _ _ _ _).run earlier
  have hopen : table.Allocatable other :=
    (allocatable_congr (settings_run start earlier) other).2 hother
  refine ⟨fun again hagain => exists_meets_of_handsOut hwell hopen hgiven hagain, ?_⟩
  intro hfree freed flow now hevicted
  have hheld := evict_fst (table.run (given :: between)) freed
  rw [hevicted] at hheld
  let evicting : Step := ⟨.evict freed, now⟩
  have hafter : table.run (given :: (between ++ [evicting])) =
      ((table.run (given :: between)).evict freed).2 := by
    rw [← List.cons_append, run_append]
    rfl
  rw [← hafter]
  apply newSession_ne_of_free hwell hopen hgiven hne
  · intro passed hpassed
    rcases List.prefix_concat_iff.1 hpassed with hall | hbefore
    · rw [hall, hafter, byPort_evict]
      split
      · rfl
      · exact hfree between (List.prefix_refl _)
    · exact hfree passed hbefore
  · rw [hafter, byPort_evict, if_pos hheld.symm]

def twoPorts : SessionTable :=
  fresh 5000 5001 5000 [] 1000 1000

/-- Three flows in turn that are evicted at once, the last of which gets the port of the first. -/
def rotation : List Step :=
  [⟨.evict (sampleFlow 51000), 2⟩, ⟨.newSession (sampleFlow 51001), 3⟩,
    ⟨.evict (sampleFlow 51001), 4⟩]

theorem handsOut_again_twoPorts :
    let given : Step := ⟨.newSession (sampleFlow 51000), 1⟩
    let again : Step := ⟨.newSession (sampleFlow 51002), 5⟩
    given.HandsOut twoPorts 5000 ∧ twoPorts.Allocatable 5001 ∧
      again.HandsOut (twoPorts.run (given :: rotation)) 5000 ∧
      (∃ passed step rest, rotation ++ [again] = passed ++ step :: rest ∧
        step.Meets (twoPorts.run (given :: passed)) 5001) ∧
      (((twoPorts.run [given]).evict (sampleFlow 51000)).2.newSession (sampleFlow 51002) 5).1 ≠
        .ok 5000 := by
  intro given again
  have hgiven : given.HandsOut twoPorts 5000 := ⟨sampleFlow 51000, rfl, by cbv, by cbv⟩
  have hother : twoPorts.Allocatable 5001 := ⟨by decide, by decide⟩
  have hagain : again.HandsOut (twoPorts.run (given :: rotation)) 5000 :=
    ⟨sampleFlow 51002, rfl, by cbv, by cbv⟩
  have hrotation := handsOut_again 5000 5001 5000 [] 1000 1000 [] rotation given 5000 5001 hgiven
    hother (by decide)
  have hfree := handsOut_again 5000 5001 5000 [] 1000 1000 [] [] given 5000 5001 hgiven hother
    (by decide)
  refine ⟨hgiven, hother, hagain, hrotation.1 again hagain, hfree.2 ?_ _ _ _ (by cbv)⟩
  intro passed hpassed
  rw [List.prefix_nil.1 hpassed]
  cbv

end PortalNat.SessionTable
