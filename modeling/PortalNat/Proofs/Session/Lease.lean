import PortalNat.Proofs.Session.Lifecycle

/-!
# Streams and their sessions

Accepting a connection attaches its session and opens a stream, which gives the session back when
it is dropped. While its only stream is open a session is active, so that no sweep takes its port
away. A client that reconnects on the same flow before its old stream is dropped has two streams on
one session, and dropping the first of them lets the session linger under the second. The main
statement says that this is the only way for an open stream to lose its session.
-/

namespace PortalNat.SessionTable

/-- What an open stream holds: the port of its session and the number that the session had. -/
structure Lease where
  port : UInt16
  id : Nat
deriving DecidableEq, Repr

structure Leased where
  table : SessionTable
  leases : List Lease := []

namespace Leased

def outstanding (state : Leased) (id : Nat) : Nat :=
  state.leases.countP (·.id = id)

/-- A successful attach opens a stream, and a release is the drop of one. -/
def apply (state : Leased) (step : Step) : Leased where
  table := step.apply state.table
  leases :=
    match step.operation with
    | .attach port =>
        ((state.table.attach port step.now).1.map fun session => ⟨session.port, session.id⟩).toList
          ++ state.leases
    | .release port id => state.leases.erase ⟨port, id⟩
    | _ => state.leases

/-- The steps of a table that nobody empties by force: a stream has to be open to be dropped. -/
def Admits (state : Leased) (step : Step) : Prop :=
  match step.operation with
  | .release port id => ⟨port, id⟩ ∈ state.leases
  | .evict _ | .clear => False
  | _ => True

def run (state : Leased) (steps : List Step) : Leased :=
  steps.foldl apply state

def Valid : Leased → List Step → Prop
  | _, [] => True
  | state, step :: steps => state.Admits step ∧ (state.apply step).Valid steps

def Backed (state : Leased) : Prop :=
  ∀ lease ∈ state.leases, ∃ entry : SessionEntry,
    state.table.byPort[lease.port]? = some entry ∧ entry.id = lease.id ∧ entry.state = .active

/-- A stream is dropped while another one of its session is open. -/
def Overlaps (state : Leased) (step : Step) : Prop :=
  ∃ port id, step.operation = .release port id ∧ 1 < state.outstanding id

end Leased

/-! ## One step -/

section

variable {state : Leased} (hwell : state.table.WellFormed)

/-- A stream that is open after a step was open before it, or the step opened it on the session that
holds the port now. -/
theorem Leased.mem_apply {step : Step} {lease : Lease}
    (hlease : lease ∈ (state.apply step).leases) :
    lease ∈ state.leases ∨ ∃ entry : SessionEntry, step.operation = .attach lease.port ∧
      state.table.byPort[lease.port]? = some entry ∧ entry.id = lease.id := by
  rcases step with ⟨operation, now⟩
  cases operation with
  | attach port =>
      simp only [Leased.apply, attach_fst] at hlease
      rcases List.mem_append.1 hlease with hnew | hold
      · cases hentry : state.table.byPort[port]? with
        | none => simp [hentry] at hnew
        | some entry =>
            simp only [hentry, Option.map_some, Option.toList_some, List.mem_singleton] at hnew
            subst hnew
            exact .inr ⟨entry, rfl, hentry, rfl⟩
      · exact .inl hold
  | release port id => exact .inl (List.mem_of_mem_erase hlease)
  | _ => exact .inl hlease

/-- Dropping a stream leaves one stream less on its session. -/
theorem Leased.outstanding_eq {port : UInt16} {id : Nat}
    (hmem : (⟨port, id⟩ : Lease) ∈ state.leases) :
    state.outstanding id = (state.leases.erase ⟨port, id⟩).countP (·.id = id) + 1 := by
  have hpos : 0 < state.leases.countP fun lease => decide (lease.id = id) :=
    List.countP_pos_iff.2 ⟨_, hmem, decide_eq_true rfl⟩
  rw [Leased.outstanding, List.countP_erase, if_pos ⟨hmem, decide_eq_true rfl⟩]
  omega

include hwell

/-- A step that drops no stream beside another one of its session leaves every open stream its
session. -/
theorem Leased.Backed.apply (hbacked : state.Backed) {step : Step} (hadmits : state.Admits step)
    (halone : ¬state.Overlaps step) : (state.apply step).Backed := by
  intro lease hlease
  have hattached (entry : SessionEntry) (hoperation : step.operation = .attach lease.port)
      (hentry : state.table.byPort[lease.port]? = some entry) :
      (step.apply state.table).byPort[lease.port]? = some (entry.attached step.now) := by
    rw [byPort_apply hwell step hentry, Step.effect, hoperation]
    simp
  rcases Leased.mem_apply hlease with hold | ⟨entry, hoperation, hentry, hid⟩
  · obtain ⟨entry, hentry, hid, hactive⟩ := hbacked lease hold
    have hafter := byPort_apply hwell step hentry
    suffices hkept : ∃ later, step.effect state.table.linger state.table.idleTimeout lease.port
        entry = some later ∧ later.state = .active by
      obtain ⟨later, heffect, hlater⟩ := hkept
      exact ⟨later, hafter.trans heffect, (sameSession_effect heffect).id.trans hid, hlater⟩
    rcases step with ⟨operation, now⟩
    cases operation with
    | newSession tuple => exact ⟨entry, rfl, hactive⟩
    | portOf tuple =>
        refine ⟨_, rfl, ?_⟩
        split <;> exact hactive
    | tupleOf port =>
        refine ⟨_, rfl, ?_⟩
        split <;> exact hactive
    | attach port =>
        refine ⟨_, rfl, ?_⟩
        split
        · rfl
        · exact hactive
    | release port id =>
        refine ⟨_, rfl, ?_⟩
        split
        · -- The released session would have to be the one this stream still holds.
          have hother : entry.id ≠ id := by
            rintro rfl
            apply halone
            refine ⟨port, entry.id, rfl, ?_⟩
            rw [Leased.outstanding_eq hadmits]
            apply Nat.succ_lt_succ
            exact List.countP_pos_iff.2 ⟨lease, hlease, decide_eq_true hid.symm⟩
          rw [SessionEntry.released, if_neg (fun howner => hother howner.1)]
          exact hactive
        · exact hactive
    | evict tuple => exact hadmits.elim
    | sweep =>
        refine ⟨entry, ?_, hactive⟩
        simp [Step.effect, SessionEntry.expired, hactive]
    | clear => exact hadmits.elim
  · exact ⟨_, hattached entry hoperation hentry, hid, rfl⟩

/-- Dropping a stream beside another one of its session takes the session away from the other. -/
theorem Leased.not_backed_of_overlaps (hbacked : state.Backed) {step : Step}
    (hadmits : state.Admits step) (hoverlaps : state.Overlaps step) :
    ¬(state.apply step).Backed := by
  intro hafter
  obtain ⟨port, id, hoperation, hmany⟩ := hoverlaps
  rcases step with ⟨operation, now⟩
  subst hoperation
  rw [Leased.outstanding_eq hadmits] at hmany
  obtain ⟨lease, hlease, hleaseId⟩ := List.countP_pos_iff.1 (Nat.succ_lt_succ_iff.1 hmany)
  rw [decide_eq_true_eq] at hleaseId
  obtain ⟨entry, hentry, hid, hactive⟩ := hbacked _ hadmits
  obtain ⟨rival, hrival, hrivalId, -⟩ := hbacked lease (List.mem_of_mem_erase hlease)
  have hport : lease.port = port :=
    hwell.id_injective hrival hentry (by rw [hrivalId, hleaseId, hid])
  obtain ⟨later, hlater, -, hstill⟩ := hafter lease hlease
  rw [hport] at hlater
  have hlingers := byPort_apply hwell ⟨.release port id, now⟩ hentry
  rw [show (state.apply ⟨.release port id, now⟩).table =
    Step.apply state.table ⟨.release port id, now⟩ from rfl, hlingers] at hlater
  simp only [Step.effect, if_true, SessionEntry.released, hid, hactive, and_self,
    Option.some.injEq] at hlater
  rw [← hlater] at hstill
  cases hstill

/-- Among states whose streams all have their sessions, only an overlap leads out. -/
theorem Leased.backed_apply_iff (hbacked : state.Backed) {step : Step}
    (hadmits : state.Admits step) : (state.apply step).Backed ↔ ¬state.Overlaps step :=
  ⟨fun hafter hoverlaps => not_backed_of_overlaps hwell hbacked hadmits hoverlaps hafter,
    Leased.Backed.apply hwell hbacked hadmits⟩

end

/-! ## Whole runs -/

theorem Leased.backed_run_iff {state : Leased} (hwell : state.table.WellFormed)
    (hbacked : state.Backed) {steps : List Step} (hvalid : state.Valid steps) :
    (∀ earlier later, steps = earlier ++ later → (state.run earlier).Backed) ↔
      ∀ earlier step later, steps = earlier ++ step :: later →
        ¬(state.run earlier).Overlaps step := by
  induction steps generalizing state with
  | nil =>
      constructor
      · intro _ earlier step later hsplit
        simp at hsplit
      · intro _ earlier later hsplit
        rw [(List.append_eq_nil_iff.1 hsplit.symm).1]
        exact hbacked
  | cons step steps ih =>
      obtain ⟨hadmits, hrest⟩ := hvalid
      have hwell' : (state.apply step).table.WellFormed := hwell.apply step
      constructor
      · intro hall earlier other later hsplit
        have hafter : (state.apply step).Backed := hall [step] steps rfl
        cases earlier with
        | nil =>
            cases hsplit
            exact (Leased.backed_apply_iff hwell hbacked hadmits).1 hafter
        | cons head earlier =>
            cases hsplit
            refine (ih hwell' hafter hrest).1 ?_ earlier other later rfl
            intro before after hbefore
            exact hall (step :: before) after (by rw [hbefore, List.cons_append])
      · intro hnone earlier later hsplit
        have hafter : (state.apply step).Backed :=
          (Leased.backed_apply_iff hwell hbacked hadmits).2 (hnone [] step steps rfl)
        cases earlier with
        | nil => exact hbacked
        | cons head earlier =>
            cases hsplit
            refine (ih hwell' hafter hrest).2 ?_ earlier later rfl
            intro before other after hbefore
            exact hnone (step :: before) other after (by rw [hbefore, List.cons_append])

/-- Over any run of lookups, accepts, drops and sweeps, at any times, every open stream has its
active session at every moment, exactly when no stream is ever dropped while another stream of its
session is open. A sweep removes no active session, so the port of an open stream goes to nobody
else in such a run. -/
theorem backed_throughout_iff_no_overlap (lowest highest first : UInt16) (reserved : List UInt16)
    (linger idleTimeout : Nat) (steps : List Step)
    (hvalid : (Leased.mk (fresh lowest highest first reserved linger idleTimeout) []).Valid steps) :
    let start : Leased := ⟨fresh lowest highest first reserved linger idleTimeout, []⟩
    (∀ earlier later, steps = earlier ++ later → (start.run earlier).Backed) ↔
      ∀ earlier step later, steps = earlier ++ step :: later →
        ¬(start.run earlier).Overlaps step := by
  intro start
  have hbacked : start.Backed := by
    intro lease hlease
    cases hlease
  exact Leased.backed_run_iff (wellFormed_fresh _ _ _ _ _ _) hbacked hvalid

def Leased.single : Leased :=
  ⟨fresh 5000 5000 5000 [] 1000 1000, []⟩

/-- A client reconnects on its flow and then drops its old stream. Once the session has lingered
long enough another flow asks for a port. -/
def Leased.reconnection : List Step :=
  [⟨.newSession (sampleFlow 51000), 1⟩, ⟨.attach 5000, 2⟩, ⟨.attach 5000, 3⟩,
    ⟨.release 5000 1, 4⟩, ⟨.sweep, 1004⟩, ⟨.newSession (sampleFlow 51001), 1005⟩]

theorem Leased.valid_reconnection : single.Valid reconnection := by
  refine ⟨trivial, trivial, trivial, ?_, trivial, trivial, trivial⟩
  have hopen : (single.run (reconnection.take 3)).leases = [⟨5000, 1⟩, ⟨5000, 1⟩] := by cbv
  change (⟨5000, 1⟩ : Lease) ∈ (single.run (reconnection.take 3)).leases
  rw [hopen]
  exact List.mem_cons_self

theorem backed_throughout_iff_no_overlap_reconnection :
    Leased.single.Valid Leased.reconnection ∧
      ((∀ earlier later, Leased.reconnection = earlier ++ later →
          (Leased.single.run earlier).Backed) ↔
        ∀ earlier step later, Leased.reconnection = earlier ++ step :: later →
          ¬(Leased.single.run earlier).Overlaps step) :=
  ⟨Leased.valid_reconnection,
    backed_throughout_iff_no_overlap 5000 5000 5000 [] 1000 1000 _ Leased.valid_reconnection⟩

/-- After the drop of the old stream the new one is open on a lingering session, and in the end its
port belongs to the other flow. -/
theorem reconnection_loses_session :
    Leased.single.Valid Leased.reconnection ∧
      (Leased.single.run (Leased.reconnection.take 4)).outstanding 1 = 1 ∧
      ((Leased.single.run (Leased.reconnection.take 4)).table.session? 5000).map (·.state) =
        some (.lingering 4) ∧
      (Leased.single.run Leased.reconnection).outstanding 1 = 1 ∧
      ((Leased.single.run Leased.reconnection).table.session? 5000).map (·.tuple) =
        some (sampleFlow 51001) :=
  ⟨Leased.valid_reconnection, by cbv, by cbv, by cbv, by cbv⟩

end PortalNat.SessionTable
