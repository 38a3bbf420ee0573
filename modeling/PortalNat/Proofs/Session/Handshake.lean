import PortalNat.Proofs.Session.Lifecycle
import PortalNat.Proofs.Session.Lookup

/-!
# Handshakes in flight

A connection request is redirected through a session port at one time, and its connection is
accepted from that port at a later one. In between, sessions are looked up, accepted, released and
swept. A session that is pending or active when the request comes still holds its port when the
connection is accepted within either period of grace. One that lingers goes at the end of a window
that began when its last connection closed, and a request that comes late in that window is caught
out. The main statement says exactly when.
-/

namespace PortalNat.SessionTable

open SessionEntry (SameSession)

/-- The steps that take a session away only when it has outstayed its time. -/
def Step.Gradual (step : Step) : Prop :=
  match step.operation with
  | .evict _ | .clear => False
  | _ => True

def Ordered (start finish : Nat) (steps : List Step) : Prop :=
  (start :: (steps.map (·.now) ++ [finish])).Pairwise (· ≤ ·)

/-- No sweep before the deadline takes the session away in the state it is in. -/
def StaysUntil (entry : SessionEntry) (deadline linger idleTimeout : Nat) : Prop :=
  match entry.state with
  | .active => True
  | .pending => deadline ≤ entry.lastActive + idleTimeout
  | .lingering since => deadline ≤ since + linger

theorem Ordered.le {start finish : Nat} {steps : List Step}
    (hordered : Ordered start finish steps) : start ≤ finish :=
  (List.pairwise_cons.1 hordered).1 _ (List.mem_append_right _ (List.mem_singleton.2 rfl))

theorem Ordered.bounds {start finish : Nat} {steps : List Step}
    (hordered : Ordered start finish steps) :
    ∀ step ∈ steps, start ≤ step.now ∧ step.now ≤ finish := by
  intro step hstep
  obtain ⟨hstart, hrest⟩ := List.pairwise_cons.1 hordered
  have hnow : step.now ∈ steps.map (·.now) := List.mem_map_of_mem hstep
  exact ⟨hstart _ (List.mem_append_left _ hnow),
    (List.pairwise_append.1 hrest).2.2 _ hnow finish (List.mem_singleton.2 rfl)⟩

section

variable {sent deadline linger idleTimeout : Nat}
variable (hdeadline : deadline ≤ sent + min linger idleTimeout)

include hdeadline

theorem not_expired {entry : SessionEntry} {now : Nat}
    (hstays : StaysUntil entry deadline linger idleTimeout) (hsent : sent ≤ now)
    (hbefore : now < deadline) : entry.expired now linger idleTimeout = false := by
  cases hstate : entry.state with
  | active => simp only [SessionEntry.expired, hstate]
  | pending =>
      simp only [StaysUntil, hstate] at hstays
      simp only [SessionEntry.expired, hstate, decide_eq_false_iff_not]
      omega
  | lingering since =>
      simp only [StaysUntil, hstate] at hstays
      simp only [SessionEntry.expired, hstate, decide_eq_false_iff_not]
      omega

/-- A step between the request and the deadline neither takes the session away nor brings its end
before the deadline. -/
theorem stays_effect {step : Step} (hgradual : step.Gradual) (hsent : sent ≤ step.now)
    (hbefore : step.now < deadline) {port : UInt16} {entry : SessionEntry}
    (hstays : StaysUntil entry deadline linger idleTimeout) :
    ∃ later, step.effect linger idleTimeout port entry = some later ∧
      StaysUntil later deadline linger idleTimeout := by
  have htouched : StaysUntil (entry.touched step.now) deadline linger idleTimeout := by
    cases hstate : entry.state with
    | active => simp only [StaysUntil, SessionEntry.touched, hstate]
    | pending =>
        simp only [StaysUntil, SessionEntry.touched, hstate]
        omega
    | lingering since => simpa only [StaysUntil, SessionEntry.touched, hstate] using hstays
  rcases step with ⟨operation, now⟩
  cases operation with
  | newSession tuple => exact ⟨entry, rfl, hstays⟩
  | portOf tuple =>
      refine ⟨_, rfl, ?_⟩
      split
      · exact htouched
      · exact hstays
  | tupleOf held =>
      refine ⟨_, rfl, ?_⟩
      split
      · exact htouched
      · exact hstays
  | attach held =>
      refine ⟨_, rfl, ?_⟩
      split
      · trivial
      · exact hstays
  | release held id =>
      refine ⟨_, rfl, ?_⟩
      split
      · rw [SessionEntry.released]
        split
        · have hnow : sent ≤ now := hsent
          change deadline ≤ now + linger
          omega
        · exact hstays
      · exact hstays
  | evict tuple => exact hgradual.elim
  | sweep =>
      refine ⟨entry, ?_, hstays⟩
      simp [Step.effect, not_expired hdeadline hstays hsent hbefore]
  | clear => exact hgradual.elim

end

/-- A session that stays until the deadline is found at its port after any steps before it. -/
theorem stays_run {table : SessionTable} (hwell : table.WellFormed) {sent deadline : Nat}
    (hdeadline : deadline ≤ sent + min table.linger table.idleTimeout) {steps : List Step}
    (hsteps : ∀ step ∈ steps, step.Gradual ∧ sent ≤ step.now ∧ step.now < deadline)
    {port : UInt16} {entry : SessionEntry} (hentry : table.byPort[port]? = some entry)
    (hstays : StaysUntil entry deadline table.linger table.idleTimeout) :
    ∃ later, (table.run steps).byPort[port]? = some later ∧ SameSession entry later := by
  induction steps generalizing table entry with
  | nil => exact ⟨entry, hentry, SameSession.refl entry⟩
  | cons step steps ih =>
      obtain ⟨hgradual, hsent, hbefore⟩ := hsteps step List.mem_cons_self
      obtain ⟨next, heffect, hnext⟩ := stays_effect hdeadline hgradual hsent hbefore hstays
      have hsettings := settings_apply table step
      simp only [settings, Prod.mk.injEq] at hsettings
      obtain ⟨-, -, -, hlinger, hidle⟩ := hsettings
      obtain ⟨later, hlater, hsame⟩ := ih (hwell.apply step)
        (by rw [hlinger, hidle]; exact hdeadline)
        (fun other hother => hsteps other (List.mem_cons_of_mem _ hother))
        ((byPort_apply hwell step hentry).trans heffect) (by rw [hlinger, hidle]; exact hnext)
      exact ⟨later, hlater, (sameSession_effect heffect).trans hsame⟩

/-- A session that was active at a time and has that long to linger, if it lingers, stays for the
shorter period of grace after that time. -/
theorem staysUntil_grace {entry : SessionEntry} {linger idleTimeout : Nat}
    (hlong : ∀ since, entry.state = .lingering since →
      entry.lastActive + min linger idleTimeout ≤ since + linger) :
    StaysUntil entry (entry.lastActive + min linger idleTimeout) linger idleTimeout := by
  cases hstate : entry.state with
  | active => simp only [StaysUntil, hstate]
  | pending =>
      simp only [StaysUntil, hstate]
      omega
  | lingering since =>
      simp only [StaysUntil, hstate]
      exact hlong since hstate

/-- A sweep when the linger window has closed takes a lingering session away. -/
theorem byPort_swept {table : SessionTable} (hwell : table.WellFormed) {port : UInt16}
    {entry : SessionEntry} (hentry : table.byPort[port]? = some entry) {since now : Nat}
    (hstate : entry.state = .lingering since) (hclosed : since + table.linger ≤ now) :
    (table.run [⟨.sweep, now⟩]).byPort[port]? = none := by
  have hexpired : entry.expired now table.linger table.idleTimeout = true := by
    simp only [SessionEntry.expired, hstate, decide_eq_true_eq]
    omega
  rw [run_cons, run_nil, byPort_apply hwell ⟨.sweep, now⟩ hentry]
  simp only [Step.effect, hexpired, if_true]

/-! ## Acceptance -/

/-- For any history of a table and any connection request that is redirected through a port, the
connection is attached to the session of its flow at every time within the shorter period of grace
after the request, whatever lookups, accepts, releases and sweeps come in between, exactly when the
session did not linger as the request came or had that long to linger still, or there is no grace at
all. -/
theorem attach_finds_request_iff (lowest highest first : UInt16) (reserved : List UInt16)
    (linger idleTimeout : Nat) (history : List Step) (tuple : Tuple) (stopped : Bool) (sent : Nat)
    (port : UInt16) (after : SessionTable)
    (hsent : Redirector.portFor
      ((fresh lowest highest first reserved linger idleTimeout).run history) tuple true stopped
      sent = (.ok port, after)) :
    (∀ (accepted : Nat) (later : List Step), accepted < sent + min linger idleTimeout →
      Ordered sent accepted later → (∀ step ∈ later, step.Gradual) →
        ∃ session : Session, ((after.run later).attach port accepted).1 = some session ∧
          session.tuple = tuple) ↔
      (0 < min linger idleTimeout → ∀ (entry : SessionEntry) (since : Nat),
        ((fresh lowest highest first reserved linger idleTimeout).run history).byPort[port]? =
          some entry → entry.state = .lingering since →
            sent + min linger idleTimeout ≤ since + linger) := by
  set table := (fresh lowest highest first reserved linger idleTimeout).run history with htable
  have hwell : table.WellFormed := (wellFormed_fresh _ _ _ _ _ _).run history
  obtain ⟨hafter, hsettings⟩ := Redirector.portFor_wellFormed hwell hsent
  have hgrace : after.linger = linger ∧ after.idleTimeout = idleTimeout := by
    rw [htable, settings_run, fresh_eq] at hsettings
    simp only [settings, Prod.mk.injEq] at hsettings
    exact hsettings.2.2.2
  obtain ⟨entry, hentry, htuple, hactive, hformer⟩ := Redirector.portFor_entry hwell hsent
  constructor
  · intro hall hgraced former since hheld hlingers
    by_contra hshort
    -- A sweep as soon as the window has closed takes the session away before the accept.
    let swept := max sent (since + linger)
    obtain ⟨session, hsession, -⟩ := hall swept [⟨.sweep, swept⟩] (by omega)
      (by simp [Ordered, swept]) (by simp [Step.Gradual])
    have hstate : entry.state = .lingering since := by
      rcases hformer with ⟨hfree, -⟩ | ⟨former', hheld', hsame⟩
      · rw [hfree] at hheld
        cases hheld
      · rw [hheld'] at hheld
        cases hheld
        rw [← hsame, hlingers]
    have hgone := byPort_swept hafter hentry hstate
      (show since + after.linger ≤ swept by rw [hgrace.1]; exact le_max_right _ _)
    rw [attach_fst, hgone] at hsession
    cases hsession
  · intro hlong accepted later hbefore hordered hgradual
    have hfrom := hordered.le
    have hstays : StaysUntil entry (sent + min linger idleTimeout) after.linger
        after.idleTimeout := by
      rw [hgrace.1, hgrace.2, ← hactive]
      refine staysUntil_grace fun since hlingers => ?_
      rcases hformer with ⟨-, hpending⟩ | ⟨former, hheld, hsame⟩
      · rw [hpending] at hlingers
        cases hlingers
      · rw [hactive]
        exact hlong (by omega) former since hheld (by rw [hsame, hlingers])
    have hsteps : ∀ step ∈ later, step.Gradual ∧ sent ≤ step.now ∧
        step.now < sent + min linger idleTimeout := by
      intro step hstep
      obtain ⟨hfrom, hto⟩ := hordered.bounds step hstep
      exact ⟨hgradual step hstep, hfrom, lt_of_le_of_lt hto hbefore⟩
    obtain ⟨found, hfound, hsame⟩ :=
      stays_run hafter (by rw [hgrace.1, hgrace.2]) hsteps hentry hstays
    refine ⟨{ found.attached accepted with port }, ?_, ?_⟩
    · rw [attach_fst, hfound, Option.map_some]
    · exact hsame.tuple.trans htuple

/-- A table whose one session began to linger at the time three and does so for a thousand units. -/
def lingering : SessionTable :=
  (fresh 5000 5000 5000 [] 1000 1000).run
    [⟨.newSession (sampleFlow 51000), 1⟩, ⟨.attach 5000, 2⟩, ⟨.release 5000 1, 3⟩]

def sweepAndReuse : List Step :=
  [⟨.sweep, 1003⟩, ⟨.newSession (sampleFlow 51001), 1004⟩]

theorem attach_finds_request_iff_lingering :
    (Redirector.portFor lingering (sampleFlow 51000) true false 1002).1 = .ok 5000 ∧
      ¬∀ (accepted : Nat) (later : List Step), accepted < 1002 + min 1000 1000 →
        Ordered 1002 accepted later → (∀ step ∈ later, step.Gradual) →
          ∃ session : Session,
            (((Redirector.portFor lingering (sampleFlow 51000) true false 1002).2.run
              later).attach 5000 accepted).1 = some session ∧
              session.tuple = sampleFlow 51000 := by
  have hsent : (Redirector.portFor lingering (sampleFlow 51000) true false 1002).1 = .ok 5000 := by
    cbv
  have hstate : (lingering.byPort[(5000 : UInt16)]?).map (·.state) = some (.lingering 3) := by cbv
  obtain ⟨entry, hentry, hlingers⟩ := Option.map_eq_some_iff.1 hstate
  refine ⟨hsent, fun hall => ?_⟩
  have hlong := (attach_finds_request_iff 5000 5000 5000 [] 1000 1000 _ (sampleFlow 51000) false
    1002 5000 _ (Prod.ext hsent rfl)).1 hall (by decide) entry 3 hentry hlingers
  exact absurd hlong (by decide)

/-- A request that finds the session at the end of its linger window is accepted, one unit after the
other flow got the port, as a connection of that other flow. -/
theorem late_request_reaches_other_flow :
    (Redirector.portFor lingering (sampleFlow 51000) true false 1002).1 = .ok 5000 ∧
      Ordered 1002 1005 sweepAndReuse ∧ (∀ step ∈ sweepAndReuse, step.Gradual) ∧
      1005 < 1002 + min 1000 1000 ∧
      (((Redirector.portFor lingering (sampleFlow 51000) true false 1002).2.run
        sweepAndReuse).attach 5000 1005).1.map (·.tuple) = some (sampleFlow 51001) := by
  refine ⟨by cbv, by simp [Ordered, sweepAndReuse], ?_, by decide, by cbv⟩
  simp [sweepAndReuse, Step.Gradual]

end PortalNat.SessionTable
