import PortalNat.Proofs.Session.Lifecycle

/-!
# Releases that come late

A connection releases its session under the number that it was told when it was attached. By then
the session may be gone, and its port may have gone to another session, even to one of the same
flow. Sessions are numbered in the order in which they are made and no number is given out twice, so
a release that comes too late finds no session of its number and changes nothing.
-/

namespace PortalNat.SessionTable

open SessionEntry (SameSession released)

/-- A session appears at a port that had none. -/
structure Step.Creates (table : SessionTable) (step : Step) (port : UInt16) (entry : SessionEntry) :
    Prop where
  vacant : table.byPort[port]? = none
  entered : (step.apply table).byPort[port]? = some entry

/-- In the course of a run a session was attached, and later on it no longer stood at its port. -/
def Outlived (start : SessionTable) (steps : List Step) (port : UInt16) (id : Nat) : Prop :=
  ∃ (earlier between later : List Step) (now : Nat) (session : Session),
    steps = earlier ++ ⟨.attach port, now⟩ :: between ++ later ∧
      ((start.run earlier).attach port now).1 = some session ∧
      session.port = port ∧ session.id = id ∧
      ∀ entry : SessionEntry,
        (start.run (earlier ++ ⟨.attach port, now⟩ :: between)).byPort[port]? = some entry →
          entry.id ≠ id

structure Numbered (start : SessionTable) (steps : List Step) : Prop where
  /-- A session that is gone cannot be released any more, whatever has become of its port. -/
  late : ∀ (port : UInt16) (id : Nat), Outlived start steps port id →
    ∀ now, (start.run steps).release port id now = start.run steps
  /-- A release changes at most the session of its number. -/
  own : ∀ (port : UInt16) (id now : Nat),
    ((start.run steps).release port id now).byTuple = (start.run steps).byTuple ∧
      ((start.run steps).release port id now).frame = (start.run steps).frame ∧
      ∀ other : UInt16,
        (∀ entry, (start.run steps).byPort[other]? = some entry → entry.id ≠ id) →
          ((start.run steps).release port id now).byPort[other]? =
            (start.run steps).byPort[other]?
  /-- A session has the port, the flow and the number that it was made with. -/
  created : ∀ (port : UInt16) (entry : SessionEntry),
    (start.run steps).byPort[port]? = some entry →
      ∃ earlier step later made, steps = earlier ++ step :: later ∧
        step.Creates (start.run earlier) port made ∧ SameSession made entry
  /-- Of two sessions the one that is made later has the larger number. -/
  increasing : ∀ (earlier between later : List Step) (given again : Step) (port other : UInt16)
    (entry rival : SessionEntry), steps = earlier ++ given :: between ++ again :: later →
      given.Creates (start.run earlier) port entry →
        again.Creates (start.run (earlier ++ given :: between)) other rival → entry.id < rival.id
  /-- As long as the next number fits a word of sixty-four bits, so that fewer than 2^64 sessions
  were made, every number that was given out is such a word. -/
  words : (start.run steps).nextId < 2 ^ 64 →
    ∀ (earlier later : List Step) (step : Step) (port : UInt16) (entry : SessionEntry),
      steps = earlier ++ step :: later → step.Creates (start.run earlier) port entry →
        (UInt64.ofNat entry.id).toNat = entry.id

/-! ## Releases -/

section

variable {table : SessionTable} {port : UInt16} {id : Nat}

theorem release_of_gone
    (hgone : ∀ entry : SessionEntry, table.byPort[port]? = some entry → entry.id ≠ id)
    (now : Nat) : table.release port id now = table := by
  cases hentry : table.byPort[port]? with
  | none => simp only [release, hentry]
  | some entry =>
      have hother : ¬(entry.id = id ∧ entry.state = .active) :=
        fun howner => hgone entry hentry howner.1
      simp only [release, hentry]
      exact if_neg hother

theorem byTuple_release (table : SessionTable) (port : UInt16) (id now : Nat) :
    (table.release port id now).byTuple = table.byTuple := by
  simp only [release]
  split
  · rfl
  · split <;> rfl

theorem byPort_release_of_other {other : UInt16}
    (hother : ∀ entry : SessionEntry, table.byPort[other]? = some entry → entry.id ≠ id)
    (now : Nat) : (table.release port id now).byPort[other]? = table.byPort[other]? := by
  rw [byPort_release]
  split
  · cases hentry : table.byPort[other]? with
    | none => rfl
    | some entry =>
        have hnot : ¬(entry.id = id ∧ entry.state = .active) :=
          fun howner => hother entry hentry howner.1
        rw [Option.map_some, released, if_neg hnot]
  · rfl

/-! ## Numbers -/

/-- A session that is gone does not come back. -/
theorem gone_run (hlt : id < table.nextId)
    (hgone : ∀ entry : SessionEntry, table.byPort[port]? = some entry → entry.id ≠ id)
    (steps : List Step) :
    ∀ entry : SessionEntry, (table.run steps).byPort[port]? = some entry → entry.id ≠ id := by
  induction steps generalizing table with
  | nil => exact hgone
  | cons step steps ih =>
      apply ih
      · rw [nextId_apply]
        exact Nat.lt_add_right _ hlt
      · intro entry hentry
        rcases origin_apply hentry with hformer | hmade
        · obtain ⟨former, hheld, hsame⟩ := hformer
          rw [hsame.id]
          exact hgone former hheld
        · rw [hmade.id]
          exact hlt.ne'

theorem Step.Creates.made {step : Step} {entry : SessionEntry}
    (hcreates : step.Creates table port entry) : Made table step port entry := by
  rcases origin_apply hcreates.entered with hformer | hmade
  · obtain ⟨former, hheld, -⟩ := hformer
    rw [hcreates.vacant] at hheld
    cases hheld
  · exact hmade

/-- The number of a session is used up when the session is made. -/
theorem Step.Creates.nextId {step : Step} {entry : SessionEntry}
    (hcreates : step.Creates table port entry) :
    (step.apply table).nextId = entry.id + 1 := by
  rw [nextId_apply, hcreates.made.makes, hcreates.made.id]
  rfl

/-- The session that an attach tells has a number that was given out. -/
theorem id_lt_of_attach (hwell : table.WellFormed) {now : Nat} {session : Session}
    (hsession : (table.attach port now).1 = some session) : session.id < table.nextId := by
  rw [attach_fst] at hsession
  obtain ⟨entry, hentry, rfl⟩ := Option.map_eq_some_iff.1 hsession
  have hlt : entry.id < table.nextId := hwell.id_lt hentry
  exact hlt

theorem nextId_le_run (table : SessionTable) (steps : List Step) :
    table.nextId ≤ (table.run steps).nextId := by
  rw [nextId_run]
  exact Nat.le_add_right _ _

end

theorem release_of_outlived {start : SessionTable} (hwell : start.WellFormed) {steps : List Step}
    {port : UInt16} {id : Nat} (houtlived : Outlived start steps port id) (now : Nat) :
    (start.run steps).release port id now = start.run steps := by
  obtain ⟨earlier, between, later, attachedAt, session, hsplit, hsession, -, hid, hgone⟩ :=
    houtlived
  have hgiven : id < (start.run (earlier ++ ⟨.attach port, attachedAt⟩ :: between)).nextId := by
    calc
      id < (start.run earlier).nextId := hid ▸ id_lt_of_attach (hwell.run earlier) hsession
      _ ≤ (start.run (earlier ++ ⟨.attach port, attachedAt⟩ :: between)).nextId := by
        rw [run_append]
        exact nextId_le_run _ _
  apply release_of_gone
  rw [hsplit, run_append]
  exact gone_run hgiven hgone later

theorem exists_creates {start : SessionTable} (hwell : start.WellFormed)
    (hempty : ∀ port : UInt16, start.byPort[port]? = none) {steps : List Step} {port : UInt16}
    {entry : SessionEntry} (hentry : (start.run steps).byPort[port]? = some entry) :
    ∃ earlier step later made, steps = earlier ++ step :: later ∧
      step.Creates (start.run earlier) port made ∧ SameSession made entry := by
  -- From the end of the run, since a session that is there may have been made at any step before.
  induction steps using List.reverseRecOn generalizing entry with
  | nil =>
      rw [run_nil, hempty] at hentry
      cases hentry
  | append_singleton steps step ih =>
      rw [run_append, run_cons, run_nil] at hentry
      cases hheld : (start.run steps).byPort[port]? with
      | none => exact ⟨steps, step, [], entry, rfl, ⟨hheld, hentry⟩, SameSession.refl entry⟩
      | some former =>
          obtain ⟨earlier, found, later, made, hsplit, hcreates, hsame⟩ := ih hheld
          rw [byPort_apply (hwell.run steps) step hheld] at hentry
          refine ⟨earlier, found, later ++ [step], made, ?_, hcreates,
            hsame.trans (sameSession_effect hentry)⟩
          rw [hsplit, List.append_assoc, List.cons_append]

theorem Step.Creates.id_lt {start : SessionTable} {earlier : List Step} {step : Step}
    {port : UInt16} {entry : SessionEntry} (hcreates : step.Creates (start.run earlier) port entry)
    (later : List Step) : entry.id < (start.run (earlier ++ step :: later)).nextId := by
  calc
    entry.id < (step.apply (start.run earlier)).nextId := by
      rw [hcreates.nextId]
      exact Nat.lt_succ_self _
    _ ≤ (start.run (earlier ++ step :: later)).nextId := by
      rw [run_append, run_cons]
      exact nextId_le_run _ _

/-- Whatever is done to a table that starts out empty, a connection whose session was evicted, swept
or cleared changes nothing when it is released, and every release changes at most the session of its
number. Numbers are given out in increasing order and never again, and fewer than 2^64 of them fit
words of sixty-four bits. -/
theorem numbered_fresh (lowest highest first : UInt16) (reserved : List UInt16)
    (linger idleTimeout : Nat) (steps : List Step) :
    Numbered (fresh lowest highest first reserved linger idleTimeout) steps := by
  have hwell := wellFormed_fresh lowest highest first reserved linger idleTimeout
  have hempty (port : UInt16) :
      (fresh lowest highest first reserved linger idleTimeout).byPort[port]? = none := by
    rw [fresh_eq]
    simp [create]
  constructor
  case late => exact fun port id houtlived now => release_of_outlived hwell houtlived now
  case own =>
    intro port id now
    let releasing : Step := ⟨.release port id, now⟩
    have hother (tuple : Tuple) : releasing.operation ≠ .newSession tuple := by
      intro hsame
      cases hsame
    exact ⟨byTuple_release _ port id now, frame_apply _ hother, fun other hgone =>
      byPort_release_of_other hgone now⟩
  case created => exact fun port entry hentry => exists_creates hwell hempty hentry
  case increasing =>
    intro earlier between later given again port other entry rival _ hgiven hagain
    exact hagain.made.id ▸ hgiven.id_lt between
  case words =>
    rintro hnext earlier later step port entry rfl hcreates
    exact UInt64.toNat_ofNat_of_lt' ((hcreates.id_lt later).trans hnext)

/-- A connection is attached, the table is cleared, and the only port goes to a new session of the
same flow, to which another connection is attached. -/
def reuse : List Step :=
  [⟨.newSession (sampleFlow 51000), 1⟩, ⟨.attach 5000, 2⟩, ⟨.clear, 3⟩,
    ⟨.newSession (sampleFlow 51000), 4⟩, ⟨.attach 5000, 5⟩]

theorem numbered_fresh_reuse :
    let start := fresh 5000 5000 5000 [] 1000 1000
    Outlived start reuse 5000 1 ∧
      (start.run reuse).session? 5000 =
        some ⟨⟨sampleFlow 51000, 2, .active, 4, 5⟩, 5000⟩ ∧
      ∀ now, (start.run reuse).release 5000 1 now = start.run reuse := by
  intro start
  have hcleared : (start.run (reuse.take 3)).byPort[(5000 : UInt16)]? = none := by cbv
  have houtlived : Outlived start reuse 5000 1 := by
    refine ⟨reuse.take 1, [⟨.clear, 3⟩], reuse.drop 3, 2,
      ⟨⟨sampleFlow 51000, 1, .active, 1, 2⟩, 5000⟩, rfl, by cbv, rfl, rfl, ?_⟩
    intro entry hentry
    have hnone : (start.run (reuse.take 3)).byPort[(5000 : UInt16)]? = some entry := hentry
    rw [hcleared] at hnone
    cases hnone
  exact ⟨houtlived, by cbv,
    (numbered_fresh 5000 5000 5000 [] 1000 1000 reuse).late 5000 1 houtlived⟩

end PortalNat.SessionTable
