import PortalNat.Proofs.Session.Search

/-!
# Which port a flow gets

The ports of the range stand in a circle, and a flow without a session gets the first one from the
cursor on that is neither reserved nor in use. The search goes round the whole circle, so a flow is
refused exactly when there are as many sessions as ports to hand out, and then nothing has changed.
-/

namespace PortalNat.SessionTable

/-! ## The circle of ports -/

/-- How many steps the cursor is away from a port of the range. -/
def ahead (table : SessionTable) (port : UInt16) : Nat :=
  if table.cursor ≤ port then port.toNat - table.cursor.toNat
  else table.span + port.toNat - table.cursor.toNat

/-- Where the cursor is after some steps, less than once round the circle. -/
theorem toNat_iterate_successor_eq {table : SessionTable} {port : UInt16} {count : Nat}
    (hport : table.inRange port) (hcount : count < table.span) :
    (table.successor^[count] port).toNat =
      if port.toNat + count ≤ table.highest.toNat then port.toNat + count
      else port.toNat + count - table.span := by
  obtain ⟨hlowest, hhighest⟩ := (inRange_iff table port).1 hport
  by_cases hbelow : port.toNat + count ≤ table.highest.toNat
  · rw [if_pos hbelow, toNat_iterate_successor hbelow]
  · have hspan : table.span = table.highest.toNat - table.lowest.toNat + 1 := rfl
    have hwrap : table.successor table.highest = table.lowest :=
      if_pos (UInt16.le_iff_toNat_le.2 (le_refl _))
    have hsteps : count = (port.toNat + count - table.highest.toNat - 1) +
        (1 + (table.highest.toNat - port.toNat)) := by omega
    rw [if_neg hbelow, hsteps, Function.iterate_add_apply, Function.iterate_add_apply,
      iterate_successor_eq hhighest (le_refl _), Function.iterate_one, hwrap,
      toNat_iterate_successor (by omega)]
    omega

/-- After fewer steps than the range has ports, the cursor is as far away as the steps say. -/
theorem ahead_iterate_successor {table : SessionTable} (hcursor : table.inRange table.cursor)
    {count : Nat} (hcount : count < table.span) :
    table.ahead (table.successor^[count] table.cursor) = count := by
  obtain ⟨hlowest, hhighest⟩ := (inRange_iff table table.cursor).1 hcursor
  have hplace := toNat_iterate_successor_eq hcursor hcount
  have hspan : table.span = table.highest.toNat - table.lowest.toNat + 1 := rfl
  by_cases hbelow : table.cursor.toNat + count ≤ table.highest.toNat
  · rw [if_pos hbelow] at hplace
    rw [ahead, if_pos (UInt16.le_iff_toNat_le.2 (by omega)), hplace, Nat.add_sub_cancel_left]
  · rw [if_neg hbelow] at hplace
    rw [ahead, if_neg (UInt16.le_iff_toNat_le.not.2 (by omega)), hplace]
    omega

/-! ## The first free port -/

/-- A port may be handed out at once: it is in the range, not reserved and not in use. -/
def Available (table : SessionTable) (port : UInt16) : Prop :=
  table.Allocatable port ∧ table.byPort[port]? = none

structure FirstAvailable (table : SessionTable) (port : UInt16) : Prop where
  available : table.Available port
  first : ∀ other, table.Available other → table.ahead port ≤ table.ahead other

/-- A search that finds a port has passed over ports that are not free, and leaves the cursor just
past the port. -/
theorem findFree_eq_some {table : SessionTable} {steps : Nat} {cursor port next : UInt16}
    (hfound : table.findFree steps cursor = (some port, next)) :
    next = table.successor port ∧ ∃ count < steps, table.successor^[count] cursor = port ∧
      ∀ earlier < count, ¬table.isFree (table.successor^[earlier] cursor) := by
  induction steps generalizing cursor with
  | zero => cases hfound
  | succ steps ih =>
      rw [findFree] at hfound
      split at hfound
      · cases hfound
        exact ⟨rfl, 0, Nat.succ_pos _, rfl, fun _ hearlier => absurd hearlier (Nat.not_lt_zero _)⟩
      · next hused =>
          obtain ⟨hnext, count, hcount, hport, hpassed⟩ := ih hfound
          refine ⟨hnext, count + 1, Nat.succ_lt_succ hcount, hport, ?_⟩
          rintro (_ | earlier) hearlier
          · exact hused
          · exact hpassed earlier (Nat.lt_of_succ_lt_succ hearlier)

/-- What the search finds is the first free port from the cursor on. -/
theorem firstAvailable_of_findFree {table : SessionTable} (hwell : table.WellFormed)
    {port next : UInt16} (hfound : table.findFree table.span table.cursor = (some port, next)) :
    table.FirstAvailable port := by
  obtain ⟨-, count, hcount, hport, hpassed⟩ := findFree_eq_some hfound
  have hsearch := findFree_inRange hwell.lowest_le table.span hwell.cursor_inRange
  obtain ⟨hrange, hfree⟩ := hsearch.2 port (by rw [hfound])
  obtain ⟨hreserved, hunused⟩ := (isFree_iff table port).1 hfree
  refine ⟨⟨⟨hrange, hreserved⟩, hunused⟩, ?_⟩
  rintro other ⟨⟨hother, hopen⟩, hspare⟩
  obtain ⟨place, hplace, rfl⟩ := exists_iterate_successor hwell.cursor_inRange hother
  rw [← hport, ahead_iterate_successor hwell.cursor_inRange hcount,
    ahead_iterate_successor hwell.cursor_inRange hplace]
  by_contra hbefore
  exact hpassed place (not_le.1 hbefore) ((isFree_iff table _).2 ⟨hopen, hspare⟩)

/-! ## Room and capacity -/

/-- Ports that fill the range are no fewer than the range is long. -/
theorem span_le_length {table : SessionTable} (hle : table.lowest ≤ table.highest)
    {ports : List UInt16} (hfilled : ∀ port, table.inRange port → port ∈ ports) :
    table.span ≤ ports.length := by
  have hle' := UInt16.le_iff_toNat_le.1 hle
  calc
    table.span = (Finset.Icc table.lowest.toNat table.highest.toNat).card := by
      rw [Nat.card_Icc, span]
      omega
    _ ≤ ((ports.map UInt16.toNat).toFinset).card := by
      apply Finset.card_le_card
      intro value hvalue
      obtain ⟨hlowest, hhighest⟩ := Finset.mem_Icc.1 hvalue
      have hword : (UInt16.ofNat value).toNat = value :=
        UInt16.toNat_ofNat_of_lt' (hhighest.trans_lt table.highest.toNat_lt)
      have hrange : table.inRange (UInt16.ofNat value) := by
        rw [inRange_iff, hword]
        exact ⟨hlowest, hhighest⟩
      rw [List.mem_toFinset, ← hword]
      exact List.mem_map_of_mem (hfilled _ hrange)
    _ ≤ (ports.map UInt16.toNat).length := List.toFinset_card_le _
    _ = ports.length := List.length_map _

/-- There is room for another session exactly as long as not all ports are in use. -/
theorem hasRoom_iff {table : SessionTable} (hwell : table.WellFormed) :
    table.HasRoom ↔ table.size < table.capacity := by
  constructor
  · rintro ⟨port, hallocatable, hunused⟩
    have hnew : port ∉ table.byPort.keys := by
      rw [mem_keys_iff, hunused]
      rintro ⟨entry, hentry⟩
      cases hentry
    have hroom : (port :: table.byPort.keys).length ≤ table.capacity := by
      apply length_le_capacity hwell (List.nodup_cons.2 ⟨hnew, Std.TreeMap.nodup_keys⟩)
      rintro other (_ | ⟨_, hother⟩)
      · exact hallocatable
      · exact allocatable_of_mem_keys hwell hother
    rwa [List.length_cons, Std.TreeMap.length_keys] at hroom
  · intro hless
    by_contra hnone
    have hfilled : table.span ≤
        (table.byPort.keys ++ table.reserved.filter table.inRange).length := by
      apply span_le_length hwell.lowest_le
      intro port hrange
      by_cases hreserved : port ∈ table.reserved
      · exact List.mem_append_right _ (List.mem_filter.2 ⟨hreserved, hrange⟩)
      · apply List.mem_append_left
        by_contra hunused
        rw [mem_keys_iff, ← Option.isSome_iff_exists, Option.not_isSome_iff_eq_none] at hunused
        exact hnone ⟨port, ⟨hrange, hreserved⟩, hunused⟩
    rw [List.length_append, Std.TreeMap.length_keys, ← List.countP_eq_length_filter] at hfilled
    have hcapacity := capacity_add_reserved hwell
    rw [size] at hless
    omega

theorem not_hasRoom_iff {table : SessionTable} (hwell : table.WellFormed) :
    ¬table.HasRoom ↔ table.size = table.capacity := by
  have hle := size_le_capacity hwell
  rw [hasRoom_iff hwell]
  omega

/-! ## Allocation -/

/-- A table with a new session of a flow: it is pending, has the next number, and is all that was
entered. -/
structure Enters (table : SessionTable) (tuple : Tuple) (port : UInt16) (now : Nat)
    (after : SessionTable) : Prop where
  byTuple : ∀ other : Tuple,
    after.byTuple[other]? = if tuple = other then some port else table.byTuple[other]?
  byPort : ∀ other : UInt16, after.byPort[other]? =
    if port = other then
      some { tuple, id := table.nextId, state := .pending, createdAt := now, lastActive := now }
    else table.byPort[other]?
  size : after.size = table.size + 1
  cursor : after.cursor = table.successor port
  nextId : after.nextId = table.nextId + 1
  settings : after.settings = table.settings

theorem enters_enter {table : SessionTable} {tuple : Tuple} {port : UInt16}
    (hunused : table.byPort[port]? = none) (now : Nat) :
    table.Enters tuple port now (table.enter tuple port (table.successor port) now) where
  byTuple other := by simp [enter, Std.HashMap.getElem?_insert]
  byPort other := byPort_enter table tuple port _ other now
  size := by
    have hnew : port ∉ table.byPort := by
      rw [Std.TreeMap.mem_iff_isSome_getElem?, hunused]
      exact Bool.false_ne_true
    exact (Std.TreeMap.size_insert).trans (if_neg hnew)
  cursor := rfl
  nextId := rfl
  settings := rfl

/-- What a table does when it is asked for the port of a flow. -/
structure Allocates (table : SessionTable) (tuple : Tuple) (now : Nat) : Prop where
  /-- A flow that has a session keeps its port. -/
  held : ∀ port, table.byTuple[tuple]? = some port →
    table.newSession tuple now = (.ok port, table)
  /-- Any other flow gets the first free port as long as one is left. -/
  made : table.byTuple[tuple]? = none → table.size ≠ table.capacity →
    ∃ port after, table.newSession tuple now = (.ok port, after) ∧ table.FirstAvailable port ∧
      table.Enters tuple port now after
  exhausted_iff : ∀ inUse, (table.newSession tuple now).1 = .error (.exhausted inUse) ↔
    table.byTuple[tuple]? = none ∧ table.size = table.capacity ∧ inUse = table.capacity
  /-- There is no other reason to refuse, and a refusal changes nothing. -/
  refused : ∀ error, (table.newSession tuple now).1 = .error error →
    error = .exhausted table.capacity ∧ (table.newSession tuple now).2 = table

theorem newSession_of_held {table : SessionTable} {tuple : Tuple} {port : UInt16}
    (hheld : table.byTuple[tuple]? = some port) (now : Nat) :
    table.newSession tuple now = (.ok port, table) := by
  simp only [newSession, hheld]

/-- A flow is refused exactly when it has no session and no port is left for one. -/
theorem newSession_error_iff {table : SessionTable} (hwell : table.WellFormed) {tuple : Tuple}
    {now : Nat} {error : SessionError} :
    (table.newSession tuple now).1 = .error error ↔
      table.byTuple[tuple]? = none ∧ table.size = table.capacity ∧
        error = .exhausted table.capacity := by
  cases hheld : table.byTuple[tuple]? with
  | some port =>
      rw [newSession_of_held hheld]
      exact iff_of_false nofun fun hnone => nomatch hnone.1
  | none =>
      have hok := newSession_ok_iff hwell hheld now
      rw [← not_hasRoom_iff hwell, ← hok]
      cases hresult : (table.newSession tuple now).1 with
      | ok port => exact iff_of_false nofun fun hfull => hfull.2.1 ⟨port, rfl⟩
      | error cause =>
          rw [hresult] at hok
          have hsize : table.size = table.capacity := by
            rw [← not_hasRoom_iff hwell, ← hok]
            exact fun hport => nomatch hport
          obtain ⟨hcause, -⟩ := newSession_error hwell.cursor_inRange hresult
          rw [hsize] at hcause
          simp [hcause, eq_comm]

/-- As long as a port is left, a flow without a session gets the first one. -/
theorem exists_newSession {table : SessionTable} (hwell : table.WellFormed) {tuple : Tuple}
    (hfresh : table.byTuple[tuple]? = none) (hroom : table.HasRoom) (now : Nat) :
    ∃ port after, table.newSession tuple now = (.ok port, after) ∧ table.FirstAvailable port ∧
      table.Enters tuple port now after := by
  obtain ⟨port, hok⟩ := (newSession_ok_iff hwell hfresh now).2 hroom
  have hnew : table.newSession tuple now = (.ok port, (table.newSession tuple now).2) :=
    Prod.ext hok rfl
  obtain ⟨cursor, hfound, hafter⟩ := newSession_made hnew hfresh
  have hfirst := firstAvailable_of_findFree hwell hfound
  refine ⟨port, _, hnew, hfirst, ?_⟩
  rw [hafter, (findFree_eq_some hfound).1]
  exact enters_enter hfirst.available.2 now

theorem WellFormed.allocates {table : SessionTable} (hwell : table.WellFormed) (tuple : Tuple)
    (now : Nat) : table.Allocates tuple now where
  held _ hheld := newSession_of_held hheld now
  made hfresh hroom := by
    apply exists_newSession hwell hfresh
    by_contra hnone
    exact hroom ((not_hasRoom_iff hwell).1 hnone)
  exhausted_iff inUse := by
    rw [newSession_error_iff hwell, SessionError.exhausted.injEq]
  refused error herror :=
    ⟨((newSession_error_iff hwell).1 herror).2.2,
      (newSession_error hwell.cursor_inRange herror).2⟩

/-- The number that comes next is larger than that of any session there has been. -/
theorem id_lt_of_prefix {table : SessionTable} (hwell : table.WellFormed)
    {earlier steps : List Step} (hearlier : earlier <+: steps) {port : UInt16}
    {entry : SessionEntry} (hentry : (table.run earlier).byPort[port]? = some entry) :
    entry.id < (table.run steps).nextId := by
  obtain ⟨later, rfl⟩ := hearlier
  rw [run_append, nextId_run (table.run earlier)]
  exact ((hwell.run earlier).id_lt hentry).trans_le (Nat.le_add_right _ _)

/-- Whatever was done to a table that started out empty, a flow that has a session gets its port,
and another one gets the first free port at or after the cursor, under a number that no session has
had, unless as many sessions are held as there are ports. Then it is refused, and the table stays
as it was, the cursor included. -/
theorem allocates_run_fresh (lowest highest first : UInt16) (reserved : List UInt16)
    (linger idleTimeout : Nat) (steps : List Step) (tuple : Tuple) (now : Nat) :
    let start := fresh lowest highest first reserved linger idleTimeout
    (start.run steps).Allocates tuple now ∧
      ∀ earlier, earlier <+: steps → ∀ (port : UInt16) (entry : SessionEntry),
        (start.run earlier).byPort[port]? = some entry → entry.id < (start.run steps).nextId := by
  intro start
  have hwell : start.WellFormed := wellFormed_fresh _ _ _ _ _ _
  exact ⟨(hwell.run steps).allocates tuple now, fun _ hearlier _ _ hentry =>
    id_lt_of_prefix hwell hearlier hentry⟩

end PortalNat.SessionTable
