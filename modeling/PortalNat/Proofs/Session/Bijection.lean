import Mathlib.Data.Finset.Card
import Mathlib.Order.Interval.Finset.Nat
import PortalNat.Proofs.Session.Run

/-!
# The session table is a bijection

Between any two operations the two maps of a session table are inverse to each other, every port in
use is one that may be handed out, and the numbers of the sessions are distinct and below the next
one. `WellFormed` collects what has to be known together for this to survive every operation. Every
well-formed table holds at most as many sessions as it has ports.
-/

namespace PortalNat.SessionTable

open SessionEntry (SameSession touched attached released sameSession_touched sameSession_attached
  sameSession_released)

def tupleAt (table : SessionTable) (port : UInt16) : Option Tuple :=
  table.byPort[port]?.map (·.tuple)

/-- The map from flows to ports and the map from ports to flows are inverse to each other. -/
def Inverse (table : SessionTable) : Prop :=
  ∀ tuple port, table.byTuple[tuple]? = some port ↔ table.tupleAt port = some tuple

/-- What holds of a table between any two operations. -/
structure WellFormed (table : SessionTable) : Prop where
  lowest_pos : 0 < table.lowest
  lowest_le : table.lowest ≤ table.highest
  reserved_nodup : table.reserved.Nodup
  cursor_inRange : table.inRange table.cursor
  inverse : table.Inverse
  allocatable : ∀ {port : UInt16} {entry : SessionEntry},
    table.byPort[port]? = some entry → table.Allocatable port
  id_lt : ∀ {port : UInt16} {entry : SessionEntry},
    table.byPort[port]? = some entry → entry.id < table.nextId
  id_injective : ∀ {port other : UInt16} {entry rival : SessionEntry},
    table.byPort[port]? = some entry → table.byPort[other]? = some rival →
      entry.id = rival.id → port = other

/-! ## The cursor -/

/-- The cursor is counted up or set back, and never overflows. -/
theorem toNat_successor (table : SessionTable) (port : UInt16) :
    (table.successor port).toNat =
      if table.highest ≤ port then table.lowest.toNat else port.toNat + 1 := by
  simp only [successor]
  split
  · rfl
  · next hbelow =>
      have hport : port.toNat < table.highest.toNat :=
        UInt16.lt_iff_toNat_lt.1 (by simpa using hbelow)
      have hhighest := table.highest.toNat_lt
      rw [UInt16.toNat_add, UInt16.toNat_one]
      exact Nat.mod_eq_of_lt (by omega)

theorem inRange_iff (table : SessionTable) (port : UInt16) :
    table.inRange port ↔
      table.lowest.toNat ≤ port.toNat ∧ port.toNat ≤ table.highest.toNat := by
  simp [inRange, UInt16.le_iff_toNat_le]

theorem inRange_successor {table : SessionTable} (hle : table.lowest ≤ table.highest)
    {port : UInt16} (hport : table.inRange port) : table.inRange (table.successor port) := by
  have hle' := UInt16.le_iff_toNat_le.1 hle
  rw [inRange_iff] at hport ⊢
  rw [toNat_successor]
  split
  · exact ⟨le_refl _, hle'⟩
  · next hbelow =>
      have := UInt16.lt_iff_toNat_lt.1 (by simpa using hbelow : port < table.highest)
      omega

theorem isFree_iff (table : SessionTable) (port : UInt16) :
    table.isFree port ↔ port ∉ table.reserved ∧ table.byPort[port]? = none := by
  simp only [isFree, Bool.and_eq_true, Bool.not_eq_true', List.contains_eq_mem,
    decide_eq_false_iff_not, Std.TreeMap.contains_eq_isSome_getElem?, Option.isSome_eq_false_iff,
    Option.isNone_iff_eq_none]

/-- The search for a free port stays in the range, and what it finds is free. -/
theorem findFree_inRange {table : SessionTable} (hle : table.lowest ≤ table.highest) :
    ∀ (steps : Nat) {cursor : UInt16}, table.inRange cursor →
      table.inRange (table.findFree steps cursor).2 ∧
        ∀ port, (table.findFree steps cursor).1 = some port →
          table.inRange port ∧ table.isFree port := by
  intro steps
  induction steps with
  | zero => exact fun hcursor => ⟨hcursor, fun port hport => by cases hport⟩
  | succ steps ih =>
      intro cursor hcursor
      simp only [findFree]
      split
      · next hfree =>
          refine ⟨inRange_successor hle hcursor, fun port hport => ?_⟩
          cases hport
          exact ⟨hcursor, hfree⟩
      · exact ih (inRange_successor hle hcursor)

/-! ## The two maps -/

theorem tupleAt_eq_some_iff (table : SessionTable) (port : UInt16) (tuple : Tuple) :
    table.tupleAt port = some tuple ↔
      ∃ entry, table.byPort[port]? = some entry ∧ entry.tuple = tuple :=
  Option.map_eq_some_iff

/-- Changing an entry without changing its flow keeps the maps inverse. -/
theorem Inverse.update {before after : SessionTable} (hinverse : before.Inverse)
    {port : UInt16} {update : SessionEntry → SessionEntry}
    (hupdate : ∀ entry, SameSession entry (update entry))
    (htuple : after.byTuple = before.byTuple)
    (hlookup : ∀ other, after.byPort[other]? =
      if port = other then before.byPort[other]?.map update else before.byPort[other]?) :
    after.Inverse := by
  intro tuple other
  have hsame : after.tupleAt other = before.tupleAt other := by
    rw [tupleAt, tupleAt, hlookup]
    split
    · rw [Option.map_map]
      exact congrArg (Option.map · _) (funext fun entry => (hupdate entry).tuple)
    · rfl
  rw [htuple, hsame]
  exact hinverse tuple other

theorem Inverse.touch {table : SessionTable} (hinverse : table.Inverse) (port : UInt16)
    (now : Nat) : (table.touch port now).Inverse :=
  hinverse.update (sameSession_touched now) rfl (byPort_touch table port · now)

theorem tupleAt_enter (table : SessionTable) (tuple : Tuple) (port cursor other : UInt16)
    (now : Nat) :
    (table.enter tuple port cursor now).tupleAt other =
      if port = other then some tuple else table.tupleAt other := by
  rw [tupleAt, byPort_enter]
  split <;> rfl

theorem tupleAt_evictPort (table : SessionTable) (port other : UInt16) :
    (table.evictPort port).tupleAt other =
      if port = other then none else table.tupleAt other := by
  rw [tupleAt, byPort_evictPort]
  split <;> rfl

/-- Entering a flow that has no port at a port that has no flow keeps the maps inverse. -/
theorem Inverse.enter {table : SessionTable} (hinverse : table.Inverse) {tuple : Tuple}
    {port : UInt16} (htuple : table.byTuple[tuple]? = none) (hport : table.tupleAt port = none)
    (cursor : UInt16) (now : Nat) : (table.enter tuple port cursor now).Inverse := by
  intro other place
  have hforward : (table.enter tuple port cursor now).byTuple[other]? =
      if tuple = other then some port else table.byTuple[other]? := by
    simp [SessionTable.enter, Std.HashMap.getElem?_insert]
  rw [hforward, tupleAt_enter]
  by_cases hsame : tuple = other
  · subst hsame
    by_cases hplace : port = place
    · simp [hplace]
    · have hnot : ¬table.tupleAt place = some tuple := by
        rw [← hinverse, htuple]
        simp
      simp [hplace, hnot]
  · by_cases hplace : port = place
    · subst hplace
      have hnot : ¬table.byTuple[other]? = some port := by
        rw [hinverse, hport]
        simp
      simp [hsame, hnot]
    · rw [if_neg hsame, if_neg hplace]
      exact hinverse other place

theorem Inverse.evictPort {table : SessionTable} (hinverse : table.Inverse) (port : UInt16) :
    (table.evictPort port).Inverse := by
  cases hentry : table.byPort[port]? with
  | none =>
      simp only [SessionTable.evictPort, hentry]
      exact hinverse
  | some entry =>
      have hholder : table.tupleAt port = some entry.tuple := by
        rw [tupleAt, hentry, Option.map_some]
      intro tuple place
      have hforward : (table.evictPort port).byTuple[tuple]? =
          if entry.tuple = tuple then none else table.byTuple[tuple]? := by
        simp [SessionTable.evictPort, hentry, Std.HashMap.getElem?_erase]
      rw [hforward, tupleAt_evictPort]
      by_cases hplace : port = place
      · subst hplace
        by_cases hsame : entry.tuple = tuple
        · simp [hsame]
        · have hnot : ¬table.byTuple[tuple]? = some port := by
            rw [hinverse, hholder]
            simpa using hsame
          simp [hsame, hnot]
      · by_cases hsame : entry.tuple = tuple
        · subst hsame
          have hnot : ¬table.tupleAt place = some entry.tuple := by
            rw [← hinverse, (hinverse _ _).2 hholder]
            simpa using hplace
          simp [hplace, hnot]
        · rw [if_neg hsame, if_neg hplace]
          exact hinverse tuple place

theorem Inverse.foldl_evictPort {table : SessionTable} (hinverse : table.Inverse)
    (ports : List UInt16) : (ports.foldl SessionTable.evictPort table).Inverse := by
  induction ports generalizing table with
  | nil => exact hinverse
  | cons port ports ih => exact ih (hinverse.evictPort port)

/-- The two maps stay inverse whatever is done to the table, as long as the search for a free port
starts in the range. -/
theorem Inverse.apply {table : SessionTable} (hinverse : table.Inverse)
    (hle : table.lowest ≤ table.highest) (hcursor : table.inRange table.cursor) (step : Step) :
    (step.apply table).Inverse := by
  rcases step with ⟨operation, now⟩
  cases operation with
  | newSession tuple =>
      rcases newSession_cases table tuple now with
        ⟨_, _, hnew⟩ | ⟨hfresh, port, cursor, hfound, hnew⟩ | ⟨_, _, _, hnew⟩ <;>
      simp only [Step.apply, hnew]
      · exact hinverse
      · have hfree := ((findFree_inRange hle table.span hcursor).2 port (by rw [hfound])).2
        have hport := ((isFree_iff table port).1 hfree).2
        exact hinverse.enter hfresh (by rw [tupleAt, hport, Option.map_none]) cursor now
      · exact hinverse
  | portOf tuple =>
      simp only [Step.apply, portOf]
      split
      · exact hinverse
      · exact hinverse.touch _ _
  | tupleOf port =>
      simp only [Step.apply, tupleOf]
      split
      · exact hinverse
      · exact hinverse.touch _ _
  | attach port =>
      refine hinverse.update (sameSession_attached now) ?_ (byPort_attach table port · now)
      simp only [Step.apply, attach]
      split <;> rfl
  | release port id =>
      refine hinverse.update (sameSession_released id now) ?_ (byPort_release table port · id now)
      simp only [Step.apply, release]
      split
      · rfl
      · split <;> rfl
  | evict tuple =>
      simp only [Step.apply, evict]
      split
      · exact hinverse
      · exact hinverse.evictPort _
  | sweep => exact hinverse.foldl_evictPort _
  | clear =>
      intro tuple port
      simp [Step.apply, clear, tupleAt]

/-! ## Well-formed tables -/

theorem allocatable_congr {before after : SessionTable}
    (hsettings : after.settings = before.settings) (port : UInt16) :
    after.Allocatable port ↔ before.Allocatable port := by
  simp only [settings, Prod.mk.injEq] at hsettings
  simp only [Allocatable, inRange, hsettings]

theorem Made.makes {table : SessionTable} {step : Step} {port : UInt16} {entry : SessionEntry}
    (hmade : Made table step port entry) : step.makes table = true := by
  obtain ⟨cursor, hfound⟩ := hmade.found
  simp [Step.makes, hmade.operation, hmade.fresh, hfound]

/-- A new session gets a port that may be handed out. -/
theorem Made.allocatable {table : SessionTable} {step : Step} {port : UInt16}
    {entry : SessionEntry} (hmade : Made table step port entry)
    (hle : table.lowest ≤ table.highest) (hcursor : table.inRange table.cursor) :
    table.Allocatable port := by
  obtain ⟨cursor, hfound⟩ := hmade.found
  obtain ⟨hrange, hfree⟩ := (findFree_inRange hle table.span hcursor).2 port (by rw [hfound])
  exact ⟨hrange, ((isFree_iff table port).1 hfree).1⟩

theorem cursor_apply_inRange {table : SessionTable} (hle : table.lowest ≤ table.highest)
    (hcursor : table.inRange table.cursor) (step : Step) :
    table.inRange (step.apply table).cursor := by
  by_cases hnew : ∃ tuple, step.operation = .newSession tuple
  · obtain ⟨tuple, hoperation⟩ := hnew
    have hnext := (findFree_inRange hle table.span hcursor).1
    rcases newSession_cases table tuple step.now with
      ⟨_, _, hnew⟩ | ⟨_, _, _, hfound, hnew⟩ | ⟨_, _, hfound, hnew⟩ <;>
    simp only [Step.apply, hoperation, hnew]
    · exact hcursor
    · rwa [hfound] at hnext
    · rwa [hfound] at hnext
  · have hsame : (step.apply table).cursor = table.cursor :=
      congrArg (·.2.1) (frame_apply table (not_exists.1 hnew))
    rwa [hsame]

/-- What holds between two operations holds after the next one. -/
theorem WellFormed.apply {table : SessionTable} (hwell : table.WellFormed) (step : Step) :
    (step.apply table).WellFormed := by
  have hsettings := settings_apply table step
  have hfields := hsettings
  simp only [settings, Prod.mk.injEq] at hfields
  obtain ⟨hlowest, hhighest, hreserved, -, -⟩ := hfields
  have hnext := nextId_apply table step
  refine ⟨?_, ?_, ?_, ?_, ?_, ?_, ?_, ?_⟩
  · rw [hlowest]
    exact hwell.lowest_pos
  · rw [hlowest, hhighest]
    exact hwell.lowest_le
  · rw [hreserved]
    exact hwell.reserved_nodup
  · have hcursor := cursor_apply_inRange hwell.lowest_le hwell.cursor_inRange step
    simpa only [inRange, hlowest, hhighest] using hcursor
  · exact hwell.inverse.apply hwell.lowest_le hwell.cursor_inRange step
  · intro port entry hentry
    rw [allocatable_congr hsettings]
    rcases origin_apply hentry with ⟨former, hformer, -⟩ | hmade
    · exact hwell.allocatable hformer
    · exact hmade.allocatable hwell.lowest_le hwell.cursor_inRange
  · intro port entry hentry
    rcases origin_apply hentry with ⟨former, hformer, hsame⟩ | hmade
    · have hlt := hwell.id_lt hformer
      rw [hsame.id]
      omega
    · rw [hnext, hmade.id, hmade.makes]
      exact Nat.lt_succ_self _
  · intro port other entry rival hentry hrival hid
    rcases origin_apply hentry with ⟨former, hformer, hsame⟩ | hmade <;>
    rcases origin_apply hrival with ⟨former', hformer', hsame'⟩ | hmade'
    · exact hwell.id_injective hformer hformer' (by rw [← hsame.id, ← hsame'.id, hid])
    · have hlt := hwell.id_lt hformer
      rw [← hsame.id, hid, hmade'.id] at hlt
      exact absurd hlt (Nat.lt_irrefl _)
    · have hlt := hwell.id_lt hformer'
      rw [← hsame'.id, ← hid, hmade.id] at hlt
      exact absurd hlt (Nat.lt_irrefl _)
    · obtain ⟨cursor, hfound⟩ := hmade.found
      obtain ⟨cursor', hfound'⟩ := hmade'.found
      rw [hfound] at hfound'
      exact Option.some.inj (congrArg Prod.fst hfound')

theorem WellFormed.run {table : SessionTable} (hwell : table.WellFormed) (steps : List Step) :
    (table.run steps).WellFormed := by
  induction steps generalizing table with
  | nil => exact hwell
  | cons step steps ih => exact ih (hwell.apply step)

/-! ## Fresh tables -/

theorem foldl_reserve_eq (ports : List UInt16) (table : SessionTable) :
    ports.foldl reserve table =
      { table with reserved := (ports.foldl reserve table).reserved } := by
  induction ports generalizing table with
  | nil => rfl
  | cons port ports ih =>
      rw [List.foldl_cons, ih]
      rfl

theorem mem_reserved_foldl_reserve (ports : List UInt16) (table : SessionTable) (port : UInt16) :
    port ∈ (ports.foldl reserve table).reserved ↔ port ∈ ports ∨ port ∈ table.reserved := by
  induction ports generalizing table with
  | nil => simp
  | cons head ports ih =>
      rw [List.foldl_cons, ih, reserve, List.mem_insert_iff, List.mem_cons]
      tauto

theorem nodup_reserved_foldl_reserve (ports : List UInt16) {table : SessionTable}
    (hnodup : table.reserved.Nodup) : (ports.foldl reserve table).reserved.Nodup := by
  induction ports generalizing table with
  | nil => exact hnodup
  | cons head ports ih => exact ih (List.Nodup.insert hnodup)

theorem fresh_eq (lowest highest first : UInt16) (reserved : List UInt16)
    (linger idleTimeout : Nat) :
    fresh lowest highest first reserved linger idleTimeout =
      { create lowest highest first with
        reserved := (fresh lowest highest first reserved linger idleTimeout).reserved
        linger
        idleTimeout } := by
  rw [fresh, foldl_reserve_eq]

theorem mem_reserved_fresh (lowest highest first : UInt16) (reserved : List UInt16)
    (linger idleTimeout : Nat) (port : UInt16) :
    port ∈ (fresh lowest highest first reserved linger idleTimeout).reserved ↔
      port ∈ reserved := by
  rw [fresh, mem_reserved_foldl_reserve]
  simp [create]

theorem wellFormed_fresh (lowest highest first : UInt16) (reserved : List UInt16)
    (linger idleTimeout : Nat) :
    (fresh lowest highest first reserved linger idleTimeout).WellFormed := by
  have hnodup : (fresh lowest highest first reserved linger idleTimeout).reserved.Nodup :=
    nodup_reserved_foldl_reserve reserved List.nodup_nil
  rw [fresh_eq]
  refine ⟨?_, ?_, hnodup, ?_, ?_, ?_, ?_, ?_⟩
  · rw [UInt16.lt_iff_toNat_lt, create, UInt16.toNat_max]
    exact lt_of_lt_of_le Nat.zero_lt_one (le_max_right _ _)
  · rw [UInt16.le_iff_toNat_le, create, UInt16.toNat_max highest]
    exact le_max_right _ _
  · rw [inRange_iff]
    simp only [create, UInt16.toNat_min, UInt16.toNat_max]
    omega
  · intro tuple port
    simp [create, tupleAt]
  · intro port entry hentry
    simp [create] at hentry
  · intro port entry hentry
    simp [create] at hentry
  · intro port other entry rival hentry
    simp [create] at hentry

/-! ## Room -/

/-- Distinct ports of the range are no more than the range is long. -/
theorem length_le_span {table : SessionTable} (hle : table.lowest ≤ table.highest)
    {ports : List UInt16} (hnodup : ports.Nodup) (hrange : ∀ port ∈ ports, table.inRange port) :
    ports.length ≤ table.span := by
  have hle' := UInt16.le_iff_toNat_le.1 hle
  calc
    ports.length = ((ports.map UInt16.toNat).toFinset).card := by
      rw [List.toFinset_card_of_nodup (hnodup.map fun _ _ => UInt16.toNat_inj.1), List.length_map]
    _ ≤ (Finset.Icc table.lowest.toNat table.highest.toNat).card := by
      apply Finset.card_le_card
      intro value hvalue
      obtain ⟨port, hport, rfl⟩ := List.mem_map.1 (List.mem_toFinset.1 hvalue)
      exact Finset.mem_Icc.2 ((inRange_iff table port).1 (hrange port hport))
    _ = table.span := by
      rw [Nat.card_Icc, span]
      omega

/-- The reserved ports of the range are no more than the range is long. -/
theorem capacity_add_reserved {table : SessionTable} (hwell : table.WellFormed) :
    table.capacity + table.reserved.countP table.inRange = table.span := by
  have hroom : (table.reserved.filter table.inRange).length ≤ table.span :=
    length_le_span hwell.lowest_le (hwell.reserved_nodup.filter _)
      fun port hport => (List.mem_filter.1 hport).2
  rw [← List.countP_eq_length_filter] at hroom
  rw [capacity]
  omega

/-- Distinct ports that may be handed out are no more than the capacity. -/
theorem length_le_capacity {table : SessionTable} (hwell : table.WellFormed)
    {ports : List UInt16} (hnodup : ports.Nodup)
    (hports : ∀ port ∈ ports, table.Allocatable port) : ports.length ≤ table.capacity := by
  have hroom : (ports ++ table.reserved.filter table.inRange).length ≤ table.span := by
    apply length_le_span hwell.lowest_le
    · refine List.nodup_append'.2 ⟨hnodup, hwell.reserved_nodup.filter _, ?_⟩
      intro port hport hreserved
      exact (hports port hport).2 (List.mem_filter.1 hreserved).1
    · intro port hport
      rcases List.mem_append.1 hport with hport | hport
      · exact (hports port hport).1
      · exact (List.mem_filter.1 hport).2
  rw [List.length_append, ← List.countP_eq_length_filter] at hroom
  have hcapacity := capacity_add_reserved hwell
  omega

theorem mem_keys_iff (table : SessionTable) (port : UInt16) :
    port ∈ table.byPort.keys ↔ ∃ entry, table.byPort[port]? = some entry := by
  rw [Std.TreeMap.mem_keys, Std.TreeMap.mem_iff_isSome_getElem?, Option.isSome_iff_exists]

theorem allocatable_of_mem_keys {table : SessionTable} (hwell : table.WellFormed) {port : UInt16}
    (hport : port ∈ table.byPort.keys) : table.Allocatable port := by
  obtain ⟨entry, hentry⟩ := (mem_keys_iff table port).1 hport
  exact hwell.allocatable hentry

/-- There are never more sessions than ports that may be handed out. -/
theorem size_le_capacity {table : SessionTable} (hwell : table.WellFormed) :
    table.size ≤ table.capacity := by
  have hroom := length_le_capacity hwell Std.TreeMap.nodup_keys
    fun _ hport => allocatable_of_mem_keys hwell hport
  rwa [Std.TreeMap.length_keys] at hroom

/-- A flow that is given a port holds it. -/
theorem byTuple_newSession {table : SessionTable} {tuple : Tuple} {now : Nat} {port : UInt16}
    (hport : (table.newSession tuple now).1 = .ok port) :
    (table.newSession tuple now).2.byTuple[tuple]? = some port := by
  rcases newSession_cases table tuple now with
    ⟨held, hheld, hnew⟩ | ⟨_, found, cursor, _, hnew⟩ | ⟨_, _, _, hnew⟩ <;>
  rw [hnew] at hport ⊢ <;> cases hport
  · exact hheld
  · simp [enter]

theorem bounds_fresh (lowest highest first : UInt16) (reserved : List UInt16)
    (linger idleTimeout : Nat) :
    (fresh lowest highest first reserved linger idleTimeout).lowest = max lowest 1 ∧
      (fresh lowest highest first reserved linger idleTimeout).highest =
        max highest (max lowest 1) ∧
      (fresh lowest highest first reserved linger idleTimeout).nextId = 1 := by
  rw [fresh_eq]
  exact ⟨rfl, rfl, rfl⟩

/-- A port that an empty table may hand out is one of those it was made for. -/
theorem allocatable_fresh {lowest highest first port : UInt16} {reserved : List UInt16}
    {linger idleTimeout : Nat}
    (hport : (fresh lowest highest first reserved linger idleTimeout).Allocatable port) :
    port ≠ 0 ∧ max lowest 1 ≤ port ∧ port ≤ max highest (max lowest 1) ∧ port ∉ reserved := by
  obtain ⟨hrange, hreserved⟩ := hport
  rw [mem_reserved_fresh] at hreserved
  obtain ⟨hlowest, hhighest, -⟩ := bounds_fresh lowest highest first reserved linger idleTimeout
  simp only [inRange, Bool.and_eq_true, decide_eq_true_eq, hlowest, hhighest] at hrange
  refine ⟨?_, hrange.1, hrange.2, hreserved⟩
  rintro rfl
  have hleast := UInt16.le_iff_toNat_le.1 hrange.1
  rw [UInt16.toNat_max] at hleast
  exact absurd (le_trans (le_max_right _ _) hleast) (by decide)

/-- A port that a table gives to a flow was one that it may hand out. -/
theorem allocatable_newSession {table : SessionTable} (hwell : table.WellFormed) {tuple : Tuple}
    {now : Nat} {port : UInt16} (hport : (table.newSession tuple now).1 = .ok port) :
    table.Allocatable port := by
  let step : Step := ⟨.newSession tuple, now⟩
  have hafter := hwell.apply step
  have hholds := (hafter.inverse tuple port).1 (byTuple_newSession hport)
  obtain ⟨entry, hentry, -⟩ := (tupleAt_eq_some_iff _ _ _).1 hholds
  exact (allocatable_congr (settings_apply table step) port).1 (hafter.allocatable hentry)

/-- Whatever is done to a table that starts out empty, its two maps are inverse to each other, the
ports it gives away are in the range, not zero and not reserved, no more sessions are held than
there are ports, and the sessions have distinct numbers, given out in the order they are made. The
last four parts say that no difference, sum or increment that the table computes in a bounded
number leaves the bounds: each comes out as it does for natural numbers. -/
theorem run_fresh_bijective (lowest highest first : UInt16) (reserved : List UInt16)
    (linger idleTimeout : Nat) (steps : List Step) :
    let least := max lowest 1
    let greatest := max highest least
    let start := fresh lowest highest first reserved linger idleTimeout
    let table := start.run steps
    (∀ tuple port, table.byTuple[tuple]? = some port ↔
      ∃ entry : SessionEntry, table.byPort[port]? = some entry ∧ entry.tuple = tuple) ∧
    (∀ port, table.byPort[port]?.isSome ∨
        (∃ tuple now, (table.newSession tuple now).1 = .ok port) →
      port ≠ 0 ∧ least ≤ port ∧ port ≤ greatest ∧ port ∉ reserved) ∧
    table.size ≤ table.capacity ∧
    (least ≤ table.cursor ∧ table.cursor ≤ greatest) ∧
    (∀ (port other : UInt16) (entry rival : SessionEntry), table.byPort[port]? = some entry →
      table.byPort[other]? = some rival → port ≠ other → entry.id ≠ rival.id) ∧
    (∀ (port : UInt16) (entry : SessionEntry), table.byPort[port]? = some entry →
      entry.id < table.nextId) ∧
    table.nextId = start.made steps + 1 ∧
    (table.highest - table.lowest).toNat + 1 = table.span ∧
    table.capacity + table.reserved.countP table.inRange = table.span ∧
    ∀ port, (table.successor port).toNat =
      if table.highest ≤ port then table.lowest.toNat else port.toNat + 1 := by
  intro least greatest start table
  have hwell : table.WellFormed := (wellFormed_fresh _ _ _ _ _ _).run steps
  have hsettings : table.settings = start.settings := settings_run start steps
  have hstart : start.lowest = least ∧ start.highest = greatest ∧ start.nextId = 1 :=
    bounds_fresh lowest highest first reserved linger idleTimeout
  have hallocatable : ∀ port, table.Allocatable port →
      port ≠ 0 ∧ least ≤ port ∧ port ≤ greatest ∧ port ∉ reserved := by
    intro port hport
    exact allocatable_fresh ((allocatable_congr hsettings port).1 hport)
  refine ⟨?_, ?_, size_le_capacity hwell, ?_, ?_, ?_, ?_, ?_, capacity_add_reserved hwell,
    toNat_successor table⟩
  · intro tuple port
    rw [hwell.inverse, tupleAt_eq_some_iff]
  · rintro port (hheld | ⟨tuple, now, hgiven⟩)
    · obtain ⟨entry, hentry⟩ := Option.isSome_iff_exists.1 hheld
      exact hallocatable port (hwell.allocatable hentry)
    · exact hallocatable port (allocatable_newSession hwell hgiven)
  · have hcursor := hwell.cursor_inRange
    simp only [settings, Prod.mk.injEq] at hsettings
    simpa only [inRange, Bool.and_eq_true, decide_eq_true_eq, hsettings, hstart] using hcursor
  · intro port other entry rival hentry hrival hne hid
    exact hne (hwell.id_injective hentry hrival hid)
  · intro port entry hentry
    exact hwell.id_lt hentry
  · rw [nextId_run, hstart.2.2, Nat.add_comm]
  · rw [UInt16.toNat_sub_of_le _ _ hwell.lowest_le, span]

end PortalNat.SessionTable
