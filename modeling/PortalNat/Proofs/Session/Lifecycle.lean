import Mathlib.Tactic
import PortalNat.Proofs.Session.Bijection

/-!
# The life of a session

A session that holds a port goes through its states without leaving that port. `Step.effect` is the
state machine of one session: what a step makes of its entry, or nothing if the step removes it. It
does not look at the table, and `byPort_apply` says that the table does to every held port what the
state machine says.
-/

namespace PortalNat.SessionTable

open SessionEntry (SameSession touched attached released sameSession_touched sameSession_attached
  sameSession_released)

def Step.effect (step : Step) (linger idleTimeout : Nat) (port : UInt16) (entry : SessionEntry) :
    Option SessionEntry :=
  match step.operation with
  | .newSession _ => some entry
  | .portOf tuple => some (if entry.tuple = tuple then entry.touched step.now else entry)
  | .tupleOf held => some (if held = port then entry.touched step.now else entry)
  | .attach held => some (if held = port then entry.attached step.now else entry)
  | .release held id => some (if held = port then entry.released id step.now else entry)
  | .evict tuple => if entry.tuple = tuple then none else some entry
  | .sweep => if entry.expired step.now linger idleTimeout then none else some entry
  | .clear => none

/-- A held port goes on as the state machine of its session says. -/
theorem byPort_apply {table : SessionTable} (hwell : table.WellFormed) (step : Step)
    {port : UInt16} {entry : SessionEntry} (hentry : table.byPort[port]? = some entry) :
    (step.apply table).byPort[port]? =
      step.effect table.linger table.idleTimeout port entry := by
  rcases step with ⟨operation, now⟩
  have hholder (tuple : Tuple) : table.byTuple[tuple]? = some port ↔ entry.tuple = tuple := by
    rw [hwell.inverse, tupleAt, hentry, Option.map_some, Option.some.injEq]
  cases operation with
  | newSession tuple =>
      rcases newSession_cases table tuple now with
        ⟨_, _, hnew⟩ | ⟨_, found, cursor, hfound, hnew⟩ | ⟨_, _, _, hnew⟩ <;>
      simp only [Step.apply, Step.effect, hnew]
      · exact hentry
      · have hsearch := findFree_inRange hwell.lowest_le table.span hwell.cursor_inRange
        have hfree := (isFree_iff table found).1 (hsearch.2 found (by rw [hfound])).2
        have hne : found ≠ port := by
          rintro rfl
          rw [hfree.2] at hentry
          cases hentry
        rw [byPort_enter, if_neg hne, hentry]
      · exact hentry
  | portOf tuple =>
      simp only [Step.apply, Step.effect, byPort_portOf, hholder, hentry, Option.map_some]
      split <;> rfl
  | tupleOf held =>
      simp only [Step.apply, Step.effect, byPort_tupleOf, hentry, Option.map_some]
      split <;> rfl
  | attach held =>
      simp only [Step.apply, Step.effect, byPort_attach, hentry, Option.map_some]
      split <;> rfl
  | release held id =>
      simp only [Step.apply, Step.effect, byPort_release, hentry, Option.map_some]
      split <;> rfl
  | evict tuple =>
      simp only [Step.apply, Step.effect, byPort_evict, hholder, hentry]
  | sweep =>
      simp only [Step.apply, Step.effect, byPort_sweep, hentry]
      by_cases hexpired : entry.expired now table.linger table.idleTimeout <;>
        simp [Option.filter, hexpired]
  | clear => simp [Step.apply, Step.effect, clear]

/-- Attaching tells the session of a held port, active from then on. -/
theorem attach_fst (table : SessionTable) (port : UInt16) (now : Nat) :
    (table.attach port now).1 =
      table.byPort[port]?.map fun entry => { entry.attached now with port } := by
  cases hentry : table.byPort[port]? with
  | none => simp only [attach, hentry, Option.map_none]
  | some entry =>
      have hafter := byPort_attach table port port now
      simp only [attach, hentry, if_true] at hafter
      simp only [attach, hentry, session?, hafter, Option.map_some]

/-- Whatever becomes of a session, its entry stays one of the same session. -/
theorem sameSession_effect {step : Step} {linger idleTimeout : Nat} {port : UInt16}
    {entry later : SessionEntry}
    (heffect : step.effect linger idleTimeout port entry = some later) :
    SameSession entry later := by
  have hite {condition : Prop} [Decidable condition] {changed : SessionEntry}
      (hchanged : SameSession entry changed) :
      SameSession entry (if condition then changed else entry) := by
    split
    · exact hchanged
    · exact SameSession.refl entry
  rcases step with ⟨operation, now⟩
  cases operation with
  | newSession tuple =>
      cases heffect
      exact SameSession.refl entry
  | portOf tuple =>
      cases heffect
      exact hite (sameSession_touched now entry)
  | tupleOf held =>
      cases heffect
      exact hite (sameSession_touched now entry)
  | attach held =>
      cases heffect
      exact hite (sameSession_attached now entry)
  | release held id =>
      cases heffect
      exact hite (sameSession_released id now entry)
  | evict tuple =>
      simp only [Step.effect] at heffect
      split at heffect <;> cases heffect
      exact SameSession.refl entry
  | sweep =>
      simp only [Step.effect] at heffect
      split at heffect <;> cases heffect
      exact SameSession.refl entry
  | clear => cases heffect

/-- A session that is found at its port again, however much later, is still that of its flow. Its
number cannot have gone to another session in between, since numbers are given out once. -/
theorem sameSession_run {table : SessionTable} {port : UInt16} {entry later : SessionEntry}
    (hwell : table.WellFormed) (hentry : table.byPort[port]? = some entry) (steps : List Step)
    (hlater : (table.run steps).byPort[port]? = some later) (hid : later.id = entry.id) :
    SameSession entry later := by
  have hlt : entry.id < table.nextId := hwell.id_lt hentry
  have hsame : ∀ found : SessionEntry, table.byPort[port]? = some found → found.id = entry.id →
      SameSession entry found := by
    intro found hfound _
    rw [hentry] at hfound
    cases hfound
    exact SameSession.refl entry
  clear hwell hentry
  induction steps generalizing table with
  | nil => exact hsame later hlater hid
  | cons step steps ih =>
      refine ih hlater ?_ ?_
      · rw [nextId_apply]
        exact Nat.lt_add_right _ hlt
      · intro found hfound hfoundId
        rcases origin_apply hfound with ⟨former, hformer, hkept⟩ | hmade
        · exact (hsame former hformer (by rw [← hkept.id, hfoundId])).trans hkept
        · rw [← hfoundId, hmade.id] at hlt
          exact absurd hlt (Nat.lt_irrefl _)

def sampleFlow (clientPort : UInt16) : Tuple :=
  Tuple.of (Endpoint.of (.v4 ⟨10, 0, 0, 2⟩) clientPort) (Endpoint.of (.v4 ⟨1, 2, 3, 4⟩) 443)

end PortalNat.SessionTable
