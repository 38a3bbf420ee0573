import PortalNat.Proofs.Session.Search
import PortalNat.Redirector

/-!
# The port of a flow

Before a segment is redirected the session port of its flow is looked up, and a connection request
of a flow without a session gets a new one. Either way the table only takes a step or two, and the
port that comes out holds the session of the flow.
-/

namespace PortalNat.Redirector

open SessionTable (Step WellFormed)
open SessionEntry (SameSession touched)

variable {table after : SessionTable} {tuple : Tuple} {request stopped : Bool} {now : Nat}
  {port : UInt16}

/-- Looking up a port is a run of the table, whatever it comes to. -/
theorem portFor_run (table : SessionTable) (tuple : Tuple) (request stopped : Bool) (now : Nat) :
    ∃ steps, (portFor table tuple request stopped now).2 = table.run steps := by
  cases hheld : table.byTuple[tuple]? with
  | some held =>
      refine ⟨[⟨.portOf tuple, now⟩], ?_⟩
      simp only [portFor, SessionTable.portOf, hheld, SessionTable.run_cons,
        SessionTable.run_nil, Step.apply]
  | none =>
      simp only [portFor, SessionTable.portOf, hheld]
      cases request <;> cases stopped
      case true.false =>
        exact ⟨[⟨.newSession tuple, now⟩], rfl⟩
      all_goals exact ⟨[], rfl⟩

/-- A lookup that comes to a port finds the session of the flow, which thereby counts as used, or
makes a new one for a connection request. -/
theorem portFor_cases (hport : portFor table tuple request stopped now = (.ok port, after)) :
    (table.byTuple[tuple]? = some port ∧ after = table.touch port now) ∨
      (table.newSession tuple now = (.ok port, after) ∧ table.byTuple[tuple]? = none ∧
        request = true ∧ stopped = false) := by
  cases hheld : table.byTuple[tuple]? with
  | some held =>
      simp only [portFor, SessionTable.portOf, hheld, Prod.mk.injEq, Except.ok.injEq] at hport
      obtain ⟨rfl, rfl⟩ := hport
      exact .inl ⟨rfl, rfl⟩
  | none =>
      simp only [portFor, SessionTable.portOf, hheld] at hport
      cases request <;> cases stopped
      case true.false =>
        right
        simp only [Bool.not_true, Bool.false_eq_true, if_false, Prod.mk.injEq] at hport
        refine ⟨?_, rfl, rfl, rfl⟩
        rcases hnew : table.newSession tuple now with ⟨result, made⟩
        rw [hnew] at hport
        obtain ⟨hresult, rfl⟩ := hport
        cases result with
        | error error => cases hresult
        | ok given =>
            cases hresult
            rfl
      all_goals simp at hport

/-- A lookup that comes to no port was for a segment that asks for no connection, or the listener is
lost, or no port is left. -/
theorem portFor_error_cases {error : NatError}
    (hport : portFor table tuple request stopped now = (.error error, after)) :
    (after = table ∧ (error = .session (.noSession tuple.toText) ∨ error = .listener .stopped)) ∨
      (table.newSession tuple now = (.error (.exhausted table.size), after) ∧
        error = .session (.exhausted table.size)) := by
  cases hheld : table.byTuple[tuple]? with
  | some held =>
      simp only [portFor, SessionTable.portOf, hheld] at hport
      cases hport
  | none =>
      simp only [portFor, SessionTable.portOf, hheld] at hport
      cases request <;> cases stopped
      case true.false =>
        right
        simp only [Bool.not_true, Bool.false_eq_true, if_false, Prod.mk.injEq] at hport
        rcases SessionTable.newSession_cases table tuple now with
          ⟨_, _, hnew⟩ | ⟨_, _, _, _, hnew⟩ | ⟨_, _, _, hnew⟩ <;>
        rw [hnew] at hport <;> obtain ⟨herror, rfl⟩ := hport <;> cases herror
        exact ⟨hnew, rfl⟩
      case true.true =>
        cases hport
        exact .inl ⟨rfl, .inr rfl⟩
      all_goals
        cases hport
        exact .inl ⟨rfl, .inl rfl⟩

/-- A lookup that comes to no port changes nothing. -/
theorem portFor_error {error : NatError} (hcursor : table.inRange table.cursor)
    (hport : portFor table tuple request stopped now = (.error error, after)) :
    after = table := by
  rcases portFor_error_cases hport with ⟨hsame, -⟩ | ⟨hnew, -⟩
  · exact hsame
  · have hsame := (SessionTable.newSession_error hcursor (congrArg Prod.fst hnew)).2
    rwa [hnew] at hsame

/-- A lookup that comes to no port makes no session. -/
theorem byPort_portFor_error {error : NatError}
    (hport : portFor table tuple request stopped now = (.error error, after)) :
    after.byPort = table.byPort := by
  rcases portFor_error_cases hport with ⟨rfl, -⟩ | ⟨hfull, -⟩
  · rfl
  · rcases SessionTable.newSession_cases table tuple now with
      ⟨_, _, hnew⟩ | ⟨_, _, _, _, hnew⟩ | ⟨_, _, _, hnew⟩ <;>
    rw [hfull] at hnew <;> cases hnew
    rfl

/-- A lookup comes to a port exactly when the flow has a session, or a connection request finds the
listener there and room for a new session. -/
theorem portFor_ok_iff (hwell : table.WellFormed) (now : Nat) :
    (∃ port, (portFor table tuple request stopped now).1 = .ok port) ↔
      (∃ port, table.byTuple[tuple]? = some port) ∨
        (request = true ∧ stopped = false ∧ table.HasRoom) := by
  cases hheld : table.byTuple[tuple]? with
  | some held =>
      simp only [portFor, SessionTable.portOf, hheld]
      exact iff_of_true ⟨held, rfl⟩ (.inl ⟨held, rfl⟩)
  | none =>
      have hnew := SessionTable.newSession_ok_iff hwell hheld now
      simp only [portFor, SessionTable.portOf, hheld]
      cases request <;> cases stopped
      case true.false =>
        simp only [Bool.not_true, Bool.false_eq_true, if_false, true_and, ← hnew]
        rcases table.newSession tuple now with ⟨error | port, made⟩ <;>
          simp [Except.mapError]
      all_goals simp

theorem portFor_wellFormed (hwell : table.WellFormed)
    (hport : portFor table tuple request stopped now = (.ok port, after)) :
    after.WellFormed ∧ after.settings = table.settings := by
  obtain ⟨steps, hsteps⟩ := portFor_run table tuple request stopped now
  rw [hport] at hsteps
  rw [show after = table.run steps from hsteps]
  exact ⟨hwell.run steps, SessionTable.settings_run table steps⟩

/-- A lookup that comes to a port leaves it with the flow. -/
theorem byTuple_portFor (hport : portFor table tuple request stopped now = (.ok port, after)) :
    after.byTuple[tuple]? = some port := by
  rcases portFor_cases hport with ⟨hheld, rfl⟩ | ⟨hnew, -⟩
  · exact hheld
  · have hgiven := SessionTable.byTuple_newSession (congrArg Prod.fst hnew)
    rwa [hnew] at hgiven

/-- What stands in the table after a lookup stood there as one of the same session, unless the
lookup made it. -/
theorem portFor_origin (hport : portFor table tuple request stopped now = (.ok port, after))
    {other : UInt16} {entry : SessionEntry} (hentry : after.byPort[other]? = some entry) :
    (∃ former, table.byPort[other]? = some former ∧ SameSession former entry) ∨
      (other = port ∧ entry.tuple = tuple ∧ request = true ∧ stopped = false) := by
  rcases portFor_cases hport with ⟨-, rfl⟩ | ⟨hnew, hfresh, hrequest, hrunning⟩
  · exact .inl (SessionTable.former_of_touch hentry)
  · obtain ⟨cursor, -, rfl⟩ := SessionTable.newSession_made hnew hfresh
    rw [SessionTable.byPort_enter] at hentry
    split at hentry
    · next hport =>
        cases hentry
        exact .inr ⟨hport.symm, rfl, hrequest, hrunning⟩
    · exact .inl ⟨entry, hentry, .refl entry⟩

/-- The session that a segment is redirected through is that of its flow, and is either new or the
one that stood there, in the state it was in. -/
theorem portFor_entry (hwell : table.WellFormed)
    (hport : portFor table tuple request stopped now = (.ok port, after)) :
    ∃ entry : SessionEntry, after.byPort[port]? = some entry ∧ entry.tuple = tuple ∧
      entry.lastActive = now ∧ (table.byPort[port]? = none ∧ entry.state = .pending ∨
        ∃ former : SessionEntry,
          table.byPort[port]? = some former ∧ former.state = entry.state) := by
  rcases portFor_cases hport with ⟨hheld, rfl⟩ | ⟨hnew, hfresh, -⟩
  · obtain ⟨former, hformer, htuple⟩ :=
      (SessionTable.tupleAt_eq_some_iff _ _ _).1 ((hwell.inverse tuple port).1 hheld)
    refine ⟨former.touched now, ?_, htuple, rfl, .inr ⟨former, hformer, rfl⟩⟩
    rw [SessionTable.byPort_touch, if_pos rfl, hformer, Option.map_some]
  · have hfree := SessionTable.byPort_of_newSession hwell hfresh hnew
    obtain ⟨cursor, -, rfl⟩ := SessionTable.newSession_made hnew hfresh
    have hentered := SessionTable.byPort_enter table tuple port cursor port now
    rw [if_pos rfl] at hentered
    exact ⟨_, hentered, rfl, rfl, .inl ⟨hfree, rfl⟩⟩

end PortalNat.Redirector
