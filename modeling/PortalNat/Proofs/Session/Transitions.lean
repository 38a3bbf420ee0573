import PortalNat.Proofs.Session.Lifecycle

/-!
# How sessions change and end

A session is made pending, becomes active when a connection is accepted from its port, lingers when
it is released under its own number and becomes active again when another connection is accepted.
There are no other changes of state. It ends when its flow is evicted, when the table is cleared, or
in a sweep that finds that it has outstayed its time, and a sweep ends all of these and no other.
-/

namespace PortalNat

namespace SessionEntry

/-- A session has outstayed its time: it is pending and has not been used for the idle time, or it
lingers and has done so for the linger time. A moment that is yet to come is no time ago. -/
def Outstays (entry : SessionEntry) (now linger idleTimeout : Nat) : Prop :=
  match entry.state with
  | .pending => (idleTimeout : Int) ≤ max 0 ((now : Int) - entry.lastActive)
  | .active => False
  | .lingering since => (linger : Int) ≤ max 0 ((now : Int) - since)

theorem expired_iff (entry : SessionEntry) (now linger idleTimeout : Nat) :
    entry.expired now linger idleTimeout = true ↔ entry.Outstays now linger idleTimeout := by
  cases hstate : entry.state with
  | pending =>
      simp only [expired, Outstays, hstate, decide_eq_true_eq]
      omega
  | active => simp [expired, Outstays, hstate]
  | lingering since =>
      simp only [expired, Outstays, hstate, decide_eq_true_eq]
      omega

instance (entry : SessionEntry) (now linger idleTimeout : Nat) :
    Decidable (entry.Outstays now linger idleTimeout) :=
  decidable_of_iff _ (expired_iff entry now linger idleTimeout)

end SessionEntry

namespace SessionTable

open SessionEntry (SameSession touched)

/-! ## Sweeps -/

/-- What a sweep does to a table. -/
structure Sweeps (table : SessionTable) (now : Nat) : Prop where
  removed : ∀ (port : UInt16) (entry : SessionEntry), table.byPort[port]? = some entry →
    entry.Outstays now table.linger table.idleTimeout →
      (table.sweep now).2.byPort[port]? = none ∧ (table.sweep now).2.byTuple[entry.tuple]? = none
  kept : ∀ (port : UInt16) (entry : SessionEntry), table.byPort[port]? = some entry →
    ¬entry.Outstays now table.linger table.idleTimeout →
      (table.sweep now).2.byPort[port]? = some entry ∧
        (table.sweep now).2.byTuple[entry.tuple]? = some port
  unused : ∀ port : UInt16, table.byPort[port]? = none →
    (table.sweep now).2.byPort[port]? = none
  unknown : ∀ tuple : Tuple, table.byTuple[tuple]? = none →
    (table.sweep now).2.byTuple[tuple]? = none
  /-- The sweep tells how many sessions it has removed. -/
  count : (table.sweep now).1 = table.toList.countP fun session =>
    session.Outstays now table.linger table.idleTimeout
  /-- Cursor, next number and settings stay. -/
  frame : (table.sweep now).2.frame = table.frame

theorem sweep_fst (table : SessionTable) (now : Nat) :
    (table.sweep now).1 = table.toList.countP fun session =>
      session.Outstays now table.linger table.idleTimeout := by
  rw [sweep, expiredPorts, List.length_map, ← List.countP_eq_length_filter, toList,
    List.countP_map]
  apply List.countP_congr
  intro held _
  simp only [SessionEntry.expired_iff, Function.comp_apply, decide_eq_true_eq]

section

variable {table : SessionTable} (hwell : table.WellFormed) {port : UInt16} {entry : SessionEntry}
include hwell

/-- A flow has no port when none is held for it. -/
theorem byTuple_eq_none {tuple : Tuple}
    (hnone : ∀ (port : UInt16) (entry : SessionEntry), table.byPort[port]? = some entry →
      entry.tuple ≠ tuple) : table.byTuple[tuple]? = none := by
  cases hheld : table.byTuple[tuple]? with
  | none => rfl
  | some port =>
      rw [hwell.inverse, tupleAt_eq_some_iff] at hheld
      obtain ⟨entry, hentry, htuple⟩ := hheld
      exact absurd htuple (hnone port entry hentry)

theorem byTuple_of_byPort (hentry : table.byPort[port]? = some entry) :
    table.byTuple[entry.tuple]? = some port := by
  rw [hwell.inverse, tupleAt, hentry, Option.map_some]

theorem WellFormed.sweeps (now : Nat) : table.Sweeps now := by
  have hafter : (table.sweep now).2.WellFormed := hwell.apply ⟨.sweep, now⟩
  have hlookup := byPort_sweep table now
  -- What stands after the sweep stood there before and has not outstayed its time.
  have hformer (place : UInt16) (found : SessionEntry)
      (hfound : (table.sweep now).2.byPort[place]? = some found) :
      table.byPort[place]? = some found ∧
        ¬found.Outstays now table.linger table.idleTimeout := by
    rw [hlookup, Option.filter_eq_some_iff, Bool.not_eq_true', Bool.eq_false_iff] at hfound
    exact ⟨hfound.1, fun houtstays => hfound.2 ((SessionEntry.expired_iff ..).2 houtstays)⟩
  constructor
  case removed =>
    intro port entry hentry houtstays
    constructor
    · rw [hlookup, hentry, Option.filter_some, (SessionEntry.expired_iff ..).2 houtstays]
      rfl
    · apply byTuple_eq_none hafter
      intro place found hfound htuple
      obtain ⟨hheld, hstays⟩ := hformer place found hfound
      have hsame := byTuple_of_byPort hwell hheld
      rw [htuple, byTuple_of_byPort hwell hentry, Option.some.injEq] at hsame
      rw [← hsame, hentry, Option.some.injEq] at hheld
      exact hstays (hheld ▸ houtstays)
  case kept =>
    intro port entry hentry hstays
    have hkept : (table.sweep now).2.byPort[port]? = some entry := by
      rw [hlookup, hentry, Option.filter_some,
        Bool.eq_false_iff.2 (mt (SessionEntry.expired_iff ..).1 hstays)]
      rfl
    exact ⟨hkept, byTuple_of_byPort hafter hkept⟩
  case unused =>
    intro port hnone
    rw [hlookup, hnone, Option.filter_none]
  case unknown =>
    intro tuple hnone
    apply byTuple_eq_none hafter
    intro place found hfound htuple
    have hheld := byTuple_of_byPort hwell (hformer place found hfound).1
    rw [htuple, hnone] at hheld
    cases hheld
  case count => exact sweep_fst table now
  case frame => exact frame_foldl_evictPort _ table

end

/-! ## Steps -/

/-- The changes of state that a step can bring about in the session of a port. -/
inductive Step.Edge (step : Step) (port : UInt16) (id : Nat) : SessionState → SessionState → Prop
    where
  | accepted (hattach : step.operation = .attach port) : Edge step port id .pending .active
  | acceptedAgain (since : Nat) (hattach : step.operation = .attach port) :
      Edge step port id (.lingering since) .active
  | closed (hrelease : step.operation = .release port id) :
      Edge step port id .active (.lingering step.now)

structure Step.Evolves (table : SessionTable) (step : Step) : Prop where
  /-- A session that is still there has its flow, number, port and time of creation, and is in
  the state it was in or in one that an edge leads to. -/
  kept : ∀ (port other : UInt16) (entry later : SessionEntry),
    table.byPort[port]? = some entry → (step.apply table).byPort[other]? = some later →
      later.id = entry.id → other = port ∧ SameSession entry later ∧
        (later.state = entry.state ∨ step.Edge port entry.id entry.state later.state)
  gone_iff : ∀ (port : UInt16) (entry : SessionEntry), table.byPort[port]? = some entry →
    ((∀ (other : UInt16) (later : SessionEntry),
        (step.apply table).byPort[other]? = some later → later.id ≠ entry.id) ↔
      step.operation = .evict entry.tuple ∨
        (step.operation = .sweep ∧
          entry.Outstays step.now table.linger table.idleTimeout) ∨
        step.operation = .clear)
  /-- A session that was not there before is pending and has the next number. -/
  made : ∀ (port : UInt16) (entry : SessionEntry),
    (step.apply table).byPort[port]? = some entry →
      (∀ (other : UInt16) (former : SessionEntry),
        table.byPort[other]? = some former → former.id ≠ entry.id) →
      ∃ tuple, step.operation = .newSession tuple ∧
        entry = ⟨tuple, table.nextId, .pending, step.now, step.now⟩
  /-- To look up a flow or a port changes nothing but when a session was last used, and to be told a
  session (`session?`) changes nothing. -/
  lookedUp : (∃ tuple, step.operation = .portOf tuple) ∨
      (∃ port, step.operation = .tupleOf port) →
    (step.apply table).byTuple = table.byTuple ∧ (step.apply table).frame = table.frame ∧
      ∀ port : UInt16, (step.apply table).byPort[port]? = table.byPort[port]? ∨
        (step.apply table).byPort[port]? = table.byPort[port]?.map (touched step.now)

section

variable {step : Step} {linger idleTimeout : Nat} {port : UInt16} {entry later : SessionEntry}

/-- The state machine of a session has no changes of state but the edges. -/
theorem edge_of_effect (heffect : step.effect linger idleTimeout port entry = some later) :
    later.state = entry.state ∨ step.Edge port entry.id entry.state later.state := by
  rcases step with ⟨operation, now⟩
  cases operation with
  | newSession tuple =>
      cases heffect
      exact .inl rfl
  | portOf tuple =>
      cases heffect
      left
      split <;> rfl
  | tupleOf held =>
      cases heffect
      left
      split <;> rfl
  | attach held =>
      cases heffect
      split
      · next hport =>
          subst hport
          cases hstate : entry.state with
          | pending => exact .inr (.accepted rfl)
          | active => exact .inl rfl
          | lingering since => exact .inr (.acceptedAgain since rfl)
      · exact .inl rfl
  | release held id =>
      cases heffect
      split
      · next hport =>
          subst hport
          rw [SessionEntry.released]
          split
          · next howner =>
              obtain ⟨rfl, hactive⟩ := howner
              rw [hactive]
              exact .inr (.closed rfl)
          · exact .inl rfl
      · exact .inl rfl
  | evict tuple =>
      simp only [Step.effect] at heffect
      split at heffect <;> cases heffect
      exact .inl rfl
  | sweep =>
      simp only [Step.effect] at heffect
      split at heffect <;> cases heffect
      exact .inl rfl
  | clear => cases heffect

/-- The state machine of a session ends in three ways. -/
theorem effect_eq_none_iff :
    step.effect linger idleTimeout port entry = none ↔
      step.operation = .evict entry.tuple ∨
        (step.operation = .sweep ∧ entry.Outstays step.now linger idleTimeout) ∨
        step.operation = .clear := by
  rcases step with ⟨operation, now⟩
  cases operation with
  | evict tuple => simp [Step.effect, eq_comm]
  | sweep => simp [Step.effect, SessionEntry.expired_iff]
  | _ => simp [Step.effect]

end

theorem lookedUp_apply (table : SessionTable) {step : Step}
    (hlooks : (∃ tuple, step.operation = .portOf tuple) ∨
      (∃ port, step.operation = .tupleOf port)) :
    (step.apply table).byTuple = table.byTuple ∧ (step.apply table).frame = table.frame ∧
      ∀ port : UInt16, (step.apply table).byPort[port]? = table.byPort[port]? ∨
        (step.apply table).byPort[port]? = table.byPort[port]?.map (touched step.now) := by
  have hframe : (step.apply table).frame = table.frame := by
    apply frame_apply
    intro made hmade
    rcases hlooks with hlooks | hlooks <;> obtain ⟨held, hheld⟩ := hlooks <;>
      rw [hheld] at hmade <;> cases hmade
  rcases step with ⟨operation, now⟩
  rcases hlooks with hlooks | hlooks
  · obtain ⟨tuple, rfl⟩ := hlooks
    refine ⟨?_, hframe, fun port => ?_⟩
    · simp only [Step.apply, portOf]
      split <;> rfl
    · simp only [Step.apply, byPort_portOf]
      split
      · exact .inr rfl
      · exact .inl rfl
  · obtain ⟨held, rfl⟩ := hlooks
    refine ⟨?_, hframe, fun port => ?_⟩
    · simp only [Step.apply, tupleOf]
      split <;> rfl
    · simp only [Step.apply, byPort_tupleOf]
      split
      · exact .inr rfl
      · exact .inl rfl

section

variable {table : SessionTable} (hwell : table.WellFormed) {step : Step}
include hwell

/-- Sessions do not change their ports. -/
theorem eq_of_id_eq {port other : UInt16} {entry later : SessionEntry}
    (hentry : table.byPort[port]? = some entry)
    (hlater : (step.apply table).byPort[other]? = some later) (hid : later.id = entry.id) :
    other = port ∧ step.effect table.linger table.idleTimeout port entry = some later := by
  rcases origin_apply hlater with hformer | hmade
  · obtain ⟨former, hheld, hsame⟩ := hformer
    have hport : other = port := hwell.id_injective hheld hentry (hsame.id.symm.trans hid)
    rw [hport, byPort_apply hwell step hentry] at hlater
    exact ⟨hport, hlater⟩
  · have hlt := hwell.id_lt hentry
    rw [← hid, hmade.id] at hlt
    exact absurd hlt (Nat.lt_irrefl _)

/-- A session is gone exactly if its state machine ends. -/
theorem gone_iff_effect_eq_none {port : UInt16} {entry : SessionEntry}
    (hentry : table.byPort[port]? = some entry) :
    (∀ (other : UInt16) (later : SessionEntry),
        (step.apply table).byPort[other]? = some later → later.id ≠ entry.id) ↔
      step.effect table.linger table.idleTimeout port entry = none := by
  constructor
  · intro hgone
    cases heffect : step.effect table.linger table.idleTimeout port entry with
    | none => rfl
    | some later =>
        have hlater := (byPort_apply hwell step hentry).trans heffect
        exact absurd (sameSession_effect heffect).id (hgone port later hlater)
  · intro hends other later hlater hid
    have hgoesOn := (eq_of_id_eq hwell hentry hlater hid).2
    rw [hends] at hgoesOn
    cases hgoesOn

theorem WellFormed.evolves (step : Step) : step.Evolves table where
  kept port other entry later hentry hlater hid := by
    obtain ⟨hport, heffect⟩ := eq_of_id_eq hwell hentry hlater hid
    exact ⟨hport, sameSession_effect heffect, edge_of_effect heffect⟩
  gone_iff port entry hentry :=
    (gone_iff_effect_eq_none hwell hentry).trans effect_eq_none_iff
  made port entry hentry hnew := by
    rcases origin_apply hentry with hformer | hmade
    · obtain ⟨former, hheld, hsame⟩ := hformer
      exact absurd hsame.id.symm (hnew port former hheld)
    · rcases entry with ⟨tuple, id, state, createdAt, lastActive⟩
      refine ⟨tuple, hmade.operation, ?_⟩
      rw [SessionEntry.mk.injEq]
      exact ⟨rfl, hmade.id, hmade.state, hmade.createdAt, hmade.lastActive⟩
  lookedUp := lookedUp_apply table

end

/-- Whatever was done to a table that started out empty, a sweep at any time, be it before times
that were recorded, removes the sessions that have outstayed their time from both directions, tells
how many these were, and leaves all else alone. The next step keeps every session what it is, takes
it along an edge of its life at most, and ends it in three ways only. -/
theorem sweeps_and_evolves (lowest highest first : UInt16) (reserved : List UInt16)
    (linger idleTimeout : Nat) (steps : List Step) :
    let table := (fresh lowest highest first reserved linger idleTimeout).run steps
    (∀ now, table.Sweeps now) ∧ ∀ step : Step, step.Evolves table := by
  intro table
  have hwell : table.WellFormed := (wellFormed_fresh _ _ _ _ _ _).run steps
  exact ⟨hwell.sweeps, hwell.evolves⟩

end SessionTable

end PortalNat
