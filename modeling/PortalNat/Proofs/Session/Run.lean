import PortalNat.Session.Table

/-!
# Runs of a session table

A session table lives through operations that come in any order and at any times. This module says
once what an operation does to the entry of a port: it keeps the entry with its flow and number,
removes it, or makes it as a new one. The laws of whole runs are drawn from these lemmas, and none
of them looks into the two maps again.
-/

namespace PortalNat

namespace SessionEntry

def touched (now : Nat) (entry : SessionEntry) : SessionEntry :=
  { entry with lastActive := now }

def attached (now : Nat) (entry : SessionEntry) : SessionEntry :=
  { entry with state := .active, lastActive := now }

/-- An entry at whose port a session is released: only the active session of that number begins to
linger. -/
def released (id now : Nat) (entry : SessionEntry) : SessionEntry :=
  if entry.id = id ∧ entry.state = .active then { entry with state := .lingering now } else entry

/-- Two entries of one session, at two moments of its life. -/
structure SameSession (former entry : SessionEntry) : Prop where
  tuple : entry.tuple = former.tuple
  id : entry.id = former.id
  createdAt : entry.createdAt = former.createdAt

theorem SameSession.refl (entry : SessionEntry) : SameSession entry entry := ⟨rfl, rfl, rfl⟩

theorem SameSession.trans {first second third : SessionEntry} (hfirst : SameSession first second)
    (hsecond : SameSession second third) : SameSession first third :=
  ⟨hsecond.tuple.trans hfirst.tuple, hsecond.id.trans hfirst.id,
    hsecond.createdAt.trans hfirst.createdAt⟩

theorem sameSession_touched (now : Nat) (entry : SessionEntry) :
    SameSession entry (entry.touched now) := ⟨rfl, rfl, rfl⟩

theorem sameSession_attached (now : Nat) (entry : SessionEntry) :
    SameSession entry (entry.attached now) := ⟨rfl, rfl, rfl⟩

theorem sameSession_released (id now : Nat) (entry : SessionEntry) :
    SameSession entry (entry.released id now) := by
  simp only [released]
  split <;> exact ⟨rfl, rfl, rfl⟩

end SessionEntry

namespace SessionTable

open SessionEntry (SameSession touched attached released sameSession_touched sameSession_attached
  sameSession_released)

inductive Operation where
  | newSession (tuple : Tuple)
  | portOf (tuple : Tuple)
  | tupleOf (port : UInt16)
  | attach (port : UInt16)
  | release (port : UInt16) (id : Nat)
  | evict (tuple : Tuple)
  | sweep
  | clear
deriving DecidableEq, Repr

structure Step where
  operation : Operation
  now : Nat
deriving DecidableEq, Repr

def Step.apply (table : SessionTable) (step : Step) : SessionTable :=
  match step.operation with
  | .newSession tuple => (table.newSession tuple step.now).2
  | .portOf tuple => (table.portOf tuple step.now).2
  | .tupleOf port => (table.tupleOf port step.now).2
  | .attach port => (table.attach port step.now).2
  | .release port id => table.release port id step.now
  | .evict tuple => (table.evict tuple).2
  | .sweep => (table.sweep step.now).2
  | .clear => table.clear.2

def run (table : SessionTable) (steps : List Step) : SessionTable :=
  steps.foldl Step.apply table

def fresh (lowest highest first : UInt16) (reserved : List UInt16) (linger idleTimeout : Nat) :
    SessionTable :=
  { reserved.foldl reserve (create lowest highest first) with linger, idleTimeout }

def settings (table : SessionTable) : UInt16 × UInt16 × List UInt16 × Nat × Nat :=
  (table.lowest, table.highest, table.reserved, table.linger, table.idleTimeout)

/-- The ports that may ever be handed out. -/
def Allocatable (table : SessionTable) (port : UInt16) : Prop :=
  table.inRange port ∧ port ∉ table.reserved

@[simp]
theorem run_nil (table : SessionTable) : table.run [] = table := rfl

@[simp]
theorem run_cons (table : SessionTable) (step : Step) (steps : List Step) :
    table.run (step :: steps) = (step.apply table).run steps := rfl

@[simp]
theorem run_append (table : SessionTable) (earlier later : List Step) :
    table.run (earlier ++ later) = (table.run earlier).run later :=
  List.foldl_append

/-! ## Looking ports up after an operation -/

theorem byPort_touch (table : SessionTable) (port other : UInt16) (now : Nat) :
    (table.touch port now).byPort[other]? =
      if port = other then
        table.byPort[other]?.map (touched now)
      else table.byPort[other]? := by
  simp only [touch, Std.TreeMap.getElem?_modify, Std.LawfulEqOrd.compare_eq_iff_eq]
  split
  · next h =>
      rw [h]
      rfl
  · rfl

theorem byPort_enter (table : SessionTable) (tuple : Tuple) (port cursor other : UInt16)
    (now : Nat) :
    (table.enter tuple port cursor now).byPort[other]? =
      if port = other then
        some { tuple, id := table.nextId, state := .pending, createdAt := now, lastActive := now }
      else table.byPort[other]? := by
  simp only [enter, Std.TreeMap.getElem?_insert, Std.LawfulEqOrd.compare_eq_iff_eq]

theorem byPort_evictPort (table : SessionTable) (port other : UInt16) :
    (table.evictPort port).byPort[other]? =
      if port = other then none else table.byPort[other]? := by
  cases hentry : table.byPort[port]? with
  | none =>
      simp only [evictPort, hentry]
      split
      · next h => rw [← h, hentry]
      · rfl
  | some entry =>
      simp only [evictPort, hentry, Std.TreeMap.getElem?_erase, Std.LawfulEqOrd.compare_eq_iff_eq]

theorem byPort_portOf (table : SessionTable) (tuple : Tuple) (other : UInt16) (now : Nat) :
    (table.portOf tuple now).2.byPort[other]? =
      if table.byTuple[tuple]? = some other then
        table.byPort[other]?.map (touched now)
      else table.byPort[other]? := by
  cases hport : table.byTuple[tuple]? with
  | none => simp [portOf, hport]
  | some port => simp only [portOf, hport, byPort_touch, Option.some.injEq]

theorem byPort_tupleOf (table : SessionTable) (port other : UInt16) (now : Nat) :
    (table.tupleOf port now).2.byPort[other]? =
      if port = other then
        table.byPort[other]?.map (touched now)
      else table.byPort[other]? := by
  cases hentry : table.byPort[port]? with
  | none =>
      simp only [tupleOf, hentry]
      split
      · next h => rw [← h, hentry, Option.map_none]
      · rfl
  | some entry => simp only [tupleOf, hentry, byPort_touch]

theorem byPort_attach (table : SessionTable) (port other : UInt16) (now : Nat) :
    (table.attach port now).2.byPort[other]? =
      if port = other then
        table.byPort[other]?.map (attached now)
      else table.byPort[other]? := by
  cases hentry : table.byPort[port]? with
  | none =>
      simp only [attach, hentry]
      split
      · next h => rw [← h, hentry, Option.map_none]
      · rfl
  | some entry =>
      simp only [attach, hentry, Std.TreeMap.getElem?_modify, Std.LawfulEqOrd.compare_eq_iff_eq]
      split
      · next h =>
          rw [← h, hentry]
          rfl
      · rfl

theorem byPort_release (table : SessionTable) (port other : UInt16) (id now : Nat) :
    (table.release port id now).byPort[other]? =
      if port = other then table.byPort[other]?.map (released id now)
      else table.byPort[other]? := by
  cases hentry : table.byPort[port]? with
  | none =>
      simp only [release, hentry]
      split
      · next h => rw [← h, hentry, Option.map_none]
      · rfl
  | some entry =>
      simp only [release, hentry]
      by_cases howner : entry.id = id ∧ entry.state = .active
      · rw [if_pos howner]
        simp only [Std.TreeMap.getElem?_insert, Std.LawfulEqOrd.compare_eq_iff_eq]
        split
        · next h => rw [← h, hentry, Option.map_some, released, if_pos howner]
        · rfl
      · rw [if_neg howner]
        split
        · next h => rw [← h, hentry, Option.map_some, released, if_neg howner]
        · rfl

theorem byPort_evict (table : SessionTable) (tuple : Tuple) (other : UInt16) :
    (table.evict tuple).2.byPort[other]? =
      if table.byTuple[tuple]? = some other then none else table.byPort[other]? := by
  cases hport : table.byTuple[tuple]? with
  | none => simp [evict, hport]
  | some port => simp only [evict, hport, byPort_evictPort, Option.some.injEq]

theorem byPort_foldl_evictPort (ports : List UInt16) (table : SessionTable) (other : UInt16) :
    (ports.foldl evictPort table).byPort[other]? =
      if other ∈ ports then none else table.byPort[other]? := by
  induction ports generalizing table with
  | nil => simp
  | cons port ports ih =>
      rw [List.foldl_cons, ih, byPort_evictPort]
      by_cases hport : port = other
      · simp [hport]
      · simp [hport, Ne.symm hport]

theorem mem_expiredPorts_iff (table : SessionTable) (now : Nat) (port : UInt16) :
    port ∈ table.expiredPorts now ↔
      ∃ entry, table.byPort[port]? = some entry ∧
        entry.expired now table.linger table.idleTimeout := by
  simp only [expiredPorts, List.mem_map, List.mem_filter, Prod.exists,
    Std.TreeMap.mem_toList_iff_getElem?_eq_some]
  constructor
  · rintro ⟨held, entry, ⟨hentry, hexpired⟩, rfl⟩
    exact ⟨entry, hentry, hexpired⟩
  · rintro ⟨entry, hentry, hexpired⟩
    exact ⟨port, entry, ⟨hentry, hexpired⟩, rfl⟩

theorem byPort_sweep (table : SessionTable) (now : Nat) (other : UInt16) :
    (table.sweep now).2.byPort[other]? =
      table.byPort[other]?.filter fun entry =>
        !entry.expired now table.linger table.idleTimeout := by
  simp only [sweep, byPort_foldl_evictPort, mem_expiredPorts_iff]
  cases hentry : table.byPort[other]? with
  | none => simp
  | some entry =>
      cases hexpired : entry.expired now table.linger table.idleTimeout <;>
        simp [hexpired, Option.filter]

/-- What asking for the port of a flow comes to: it has one, it gets a free one, or there is
none. -/
theorem newSession_cases (table : SessionTable) (tuple : Tuple) (now : Nat) :
    (∃ port, table.byTuple[tuple]? = some port ∧ table.newSession tuple now = (.ok port, table)) ∨
    (table.byTuple[tuple]? = none ∧ ∃ port cursor,
      table.findFree table.span table.cursor = (some port, cursor) ∧
        table.newSession tuple now = (.ok port, table.enter tuple port cursor now)) ∨
    (table.byTuple[tuple]? = none ∧ ∃ cursor,
      table.findFree table.span table.cursor = (none, cursor) ∧
        table.newSession tuple now =
          (.error (.exhausted table.size), { table with cursor })) := by
  cases hport : table.byTuple[tuple]? with
  | some port => exact .inl ⟨port, rfl, by simp only [newSession, hport]⟩
  | none =>
      right
      rcases hfound : table.findFree table.span table.cursor with ⟨_ | port, cursor⟩
      · exact .inr ⟨rfl, cursor, rfl, by simp only [newSession, hport, hfound]⟩
      · exact .inl ⟨rfl, port, cursor, rfl, by simp only [newSession, hport, hfound]⟩

/-- A flow without a port that gets one gets the free port that the search found. -/
theorem newSession_made {table after : SessionTable} {tuple : Tuple} {now : Nat} {port : UInt16}
    (hnew : table.newSession tuple now = (.ok port, after))
    (hfresh : table.byTuple[tuple]? = none) :
    ∃ cursor, table.findFree table.span table.cursor = (some port, cursor) ∧
      after = table.enter tuple port cursor now := by
  rcases newSession_cases table tuple now with
    ⟨_, hheld, -⟩ | ⟨-, found, cursor, hfound, hmade⟩ | ⟨-, _, -, hfull⟩
  · rw [hfresh] at hheld
    cases hheld
  · rw [hnew] at hmade
    cases hmade
    exact ⟨cursor, hfound, rfl⟩
  · rw [hnew] at hfull
    cases hfull

/-! ## What an operation leaves alone -/

def frame (table : SessionTable) : (UInt16 × UInt16 × List UInt16 × Nat × Nat) × UInt16 × Nat :=
  (table.settings, table.cursor, table.nextId)

@[simp]
theorem frame_evictPort (table : SessionTable) (port : UInt16) :
    (table.evictPort port).frame = table.frame := by
  simp only [evictPort]
  split <;> rfl

theorem frame_foldl_evictPort (ports : List UInt16) (table : SessionTable) :
    (ports.foldl evictPort table).frame = table.frame := by
  induction ports generalizing table with
  | nil => rfl
  | cons port ports ih => rw [List.foldl_cons, ih, frame_evictPort]

/-- Only making a session moves the cursor or counts the sessions up. -/
theorem frame_apply (table : SessionTable) {step : Step}
    (hother : ∀ tuple, step.operation ≠ .newSession tuple) :
    (step.apply table).frame = table.frame := by
  rcases step with ⟨operation, now⟩
  cases operation with
  | newSession tuple => exact absurd rfl (hother tuple)
  | portOf tuple =>
      simp only [Step.apply, portOf]
      split <;> rfl
  | tupleOf port =>
      simp only [Step.apply, tupleOf]
      split <;> rfl
  | attach port =>
      simp only [Step.apply, attach]
      split <;> rfl
  | release port id =>
      simp only [Step.apply, release]
      split
      · rfl
      · split <;> rfl
  | evict tuple =>
      simp only [Step.apply, evict]
      split
      · rfl
      · exact frame_evictPort table _
  | sweep => exact frame_foldl_evictPort _ table
  | clear => rfl

/-- The settings of a table never change. -/
@[simp]
theorem settings_apply (table : SessionTable) (step : Step) :
    (step.apply table).settings = table.settings := by
  by_cases hnew : ∃ tuple, step.operation = .newSession tuple
  · obtain ⟨tuple, hoperation⟩ := hnew
    rcases newSession_cases table tuple step.now with
      ⟨_, _, hnew⟩ | ⟨_, _, _, _, hnew⟩ | ⟨_, _, _, hnew⟩ <;>
    simp only [Step.apply, hoperation, hnew] <;> rfl
  · exact congrArg Prod.fst (frame_apply table (not_exists.1 hnew))

@[simp]
theorem settings_run (table : SessionTable) (steps : List Step) :
    (table.run steps).settings = table.settings := by
  induction steps generalizing table with
  | nil => rfl
  | cons step steps ih => rw [run_cons, ih, settings_apply]

/-! ## Where an entry comes from -/

/-- A step makes the session of a port: it asks for the port of a flow that has none, and the port
is the free one that is found. -/
structure Made (table : SessionTable) (step : Step) (port : UInt16) (entry : SessionEntry) :
    Prop where
  operation : step.operation = .newSession entry.tuple
  fresh : table.byTuple[entry.tuple]? = none
  found : ∃ cursor, table.findFree table.span table.cursor = (some port, cursor)
  id : entry.id = table.nextId
  state : entry.state = .pending
  createdAt : entry.createdAt = step.now
  lastActive : entry.lastActive = step.now

private theorem former_of_map {update : SessionEntry → SessionEntry}
    (hupdate : ∀ former, SameSession former (update former)) {before? : Option SessionEntry}
    {condition : Prop} [Decidable condition] {entry : SessionEntry}
    (hentry : (if condition then before?.map update else before?) = some entry) :
    ∃ former, before? = some former ∧ SameSession former entry := by
  split at hentry
  · obtain ⟨former, hformer, rfl⟩ := Option.map_eq_some_iff.1 hentry
    exact ⟨former, hformer, hupdate former⟩
  · exact ⟨entry, hentry, SameSession.refl entry⟩

/-- An entry that stands after a session was used stood there before as one of the same session. -/
theorem former_of_touch {table : SessionTable} {port other : UInt16} {now : Nat}
    {entry : SessionEntry} (hentry : (table.touch port now).byPort[other]? = some entry) :
    ∃ former, table.byPort[other]? = some former ∧ SameSession former entry := by
  rw [byPort_touch] at hentry
  exact former_of_map (sameSession_touched now) hentry

/-- An entry that stands after a step stood there before as one of the same session, or the step
made it. -/
theorem origin_apply {table : SessionTable} {step : Step} {port : UInt16} {entry : SessionEntry}
    (hentry : (step.apply table).byPort[port]? = some entry) :
    (∃ former, table.byPort[port]? = some former ∧ SameSession former entry) ∨
      Made table step port entry := by
  rcases step with ⟨operation, now⟩
  cases operation with
  | newSession tuple =>
      rcases newSession_cases table tuple now with
        ⟨_, _, hnew⟩ | ⟨hfresh, found, cursor, hfound, hnew⟩ | ⟨_, _, _, hnew⟩ <;>
      simp only [Step.apply, hnew] at hentry
      · exact .inl ⟨entry, hentry, SameSession.refl entry⟩
      · rw [byPort_enter] at hentry
        split at hentry
        · next hport =>
            cases hentry
            subst hport
            exact .inr ⟨rfl, hfresh, ⟨cursor, hfound⟩, rfl, rfl, rfl, rfl⟩
        · exact .inl ⟨entry, hentry, SameSession.refl entry⟩
      · exact .inl ⟨entry, hentry, SameSession.refl entry⟩
  | portOf tuple =>
      rw [Step.apply, byPort_portOf] at hentry
      exact .inl (former_of_map (sameSession_touched now) hentry)
  | tupleOf held =>
      rw [Step.apply, byPort_tupleOf] at hentry
      exact .inl (former_of_map (sameSession_touched now) hentry)
  | attach held =>
      rw [Step.apply, byPort_attach] at hentry
      exact .inl (former_of_map (sameSession_attached now) hentry)
  | release held id =>
      rw [Step.apply, byPort_release] at hentry
      exact .inl (former_of_map (sameSession_released id now) hentry)
  | evict tuple =>
      rw [Step.apply, byPort_evict] at hentry
      split at hentry
      · cases hentry
      · exact .inl ⟨entry, hentry, SameSession.refl entry⟩
  | sweep =>
      rw [Step.apply, byPort_sweep] at hentry
      exact .inl ⟨entry, (Option.filter_eq_some_iff.1 hentry).1, SameSession.refl entry⟩
  | clear => simp [Step.apply, clear] at hentry

/-- Only asking for the port of a flow can make a session. -/
theorem former_of_apply {table : SessionTable} {step : Step} {port : UInt16} {entry : SessionEntry}
    (hold : ∀ tuple, step.operation ≠ .newSession tuple)
    (hentry : (step.apply table).byPort[port]? = some entry) :
    ∃ former, table.byPort[port]? = some former ∧ SameSession former entry :=
  (origin_apply hentry).resolve_right fun hmade => hold _ hmade.operation

def Step.makes (table : SessionTable) (step : Step) : Bool :=
  match step.operation with
  | .newSession tuple =>
      table.byTuple[tuple]?.isNone && (table.findFree table.span table.cursor).1.isSome
  | _ => false

def made (table : SessionTable) : List Step → Nat
  | [] => 0
  | step :: steps => (step.makes table).toNat + made (step.apply table) steps

/-- Sessions are numbered as they are made. -/
theorem nextId_apply (table : SessionTable) (step : Step) :
    (step.apply table).nextId = table.nextId + (step.makes table).toNat := by
  by_cases hnew : ∃ tuple, step.operation = .newSession tuple
  · obtain ⟨tuple, hoperation⟩ := hnew
    rcases newSession_cases table tuple step.now with
      ⟨_, hport, hnew⟩ | ⟨hport, _, _, hfound, hnew⟩ | ⟨hport, _, hfound, hnew⟩
    · simp [Step.apply, Step.makes, hoperation, hnew, hport]
    · simp [Step.apply, Step.makes, hoperation, hnew, hport, hfound, enter]
    · simp [Step.apply, Step.makes, hoperation, hnew, hport, hfound]
  · have hmakes : step.makes table = false := by
      simp only [Step.makes]
      split
      · next tuple hoperation => exact absurd ⟨tuple, hoperation⟩ hnew
      · rfl
    rw [hmakes]
    exact congrArg (·.2.2) (frame_apply table (not_exists.1 hnew))

theorem nextId_run (table : SessionTable) (steps : List Step) :
    (table.run steps).nextId = table.nextId + table.made steps := by
  induction steps generalizing table with
  | nil => rfl
  | cons step steps ih => rw [run_cons, ih, nextId_apply, made, Nat.add_assoc]

end SessionTable

end PortalNat
