import PortalNat.Proofs.Flow.Eviction

/-!
# Single flight

A key has one set-up at a time, and one value, as long as its calls share a cell. They cease to when
a call whose set-up failed removes the key while another call is still at the cell: that call goes
on to set up its own value, which nobody finds, and the next call for the key sets up another one
beside it. The main statement says that this is the only way.
-/

namespace PortalNat

theorem FlowPhase.Pending.entering {Failure : Type} {phase : FlowPhase Failure}
    (hpending : phase.Pending) (hstands : ¬phase.Stands) : phase = .entering := by
  cases phase with
  | entering => rfl
  | queued => exact absurd trivial hstands
  | running => exact absurd trivial hstands
  | failed failure => exact hpending.elim

namespace FlowTable

variable {Key Value Failure : Type}

/-- The steps that calls take by themselves: nothing is removed or given up. -/
def Step.OfCalls : Step Key Value Failure → Prop
  | .abandon _ | .remove _ | .removeIf _ _ => False
  | _ => True

/-- The steps by which calls come and go on until their set-ups run. -/
def Step.Begins : Step Key Value Failure → Prop
  | .arrive _ | .join _ | .resume _ => True
  | _ => False

variable [DecidableEq Key]

/-- The call of this number failed, and its key leads to its cell, where another call may still come
to a value. -/
def Strands (table : FlowTable Key Value Failure) (id : Nat) : Prop :=
  ∃ call ∈ table.calls, call.id = id ∧ (∃ failure, call.phase = .failed failure) ∧
    table.entries.lookup call.key = some call.cell ∧ (table.cell call.cell).value? = none ∧
    ∃ other ∈ table.calls, other.cell = call.cell ∧ other.phase.Pending

/-- A cell is that of a key if the key leads there or a call for the key is there. -/
def Serves (table : FlowTable Key Value Failure) (number : Nat) (key : Key) : Prop :=
  table.entries.lookup key = some number ∨ ∃ call ∈ table.calls, call.key = key ∧ call.cell = number

variable {table after : FlowTable Key Value Failure} {step : Step Key Value Failure}
  {ended? returned? : Option (FlowOutcome Key Value Failure)}

omit [DecidableEq Key] in
theorem Evicts.of_calls {key : Key} {number : Nat} (hevicts : Evicts table step key number)
    (hcalls : step.OfCalls) :
    ∃ call ∈ table.calls, step = .cleanUp call.id ∧ (∃ failure, call.phase = .failed failure) ∧
      call.key = key ∧ call.cell = number ∧ (table.cell number).value? = none := by
  cases hevicts with
  | remove => exact hcalls.elim
  | removeIf => exact hcalls.elim
  | @cleanUp call failure hcall hphase hvalue =>
      exact ⟨call, hcall, rfl, ⟨failure, hphase⟩, rfl, rfl, hvalue⟩

/-- Only a call that comes makes a key lead to a cell. -/
theorem lookup_moves (hmoves : Moves table step ended? returned? after) {key : Key} {number : Nat}
    (hlookup : after.entries.lookup key = some number) :
    table.entries.lookup key = some number ∨
      step = .arrive key ∧ number = (table.enter key).1 := by
  cases hmoves with
  | arrive other =>
      change (table.enter other).2.entries.lookup key = some number at hlookup
      rw [lookup_enter] at hlookup
      split_ifs at hlookup with hkey
      · subst hkey
        cases hlookup
        exact .inr ⟨rfl, rfl⟩
      · exact .inl hlookup
  | cleanUp =>
      change (eraseCell ..).entries.lookup key = some number at hlookup
      unfold eraseCell at hlookup
      split_ifs at hlookup
      · exact .inl (lookup_of_lookup_erase hlookup)
      · exact .inl hlookup
  | remove => exact .inl (lookup_of_lookup_erase hlookup)
  | removeIf => exact .inl (lookup_of_lookup_erase hlookup)
  | _ => exact .inl hlookup

theorem serves_moves (hwell : table.WellFormed) (hmoves : Moves table step ended? returned? after)
    {number : Nat} {key : Key} (hserves : after.Serves number key) :
    table.Serves number key ∨ step = .arrive key ∧ number = (table.enter key).1 := by
  rcases hserves with hlookup | ⟨call, hcall, rfl, rfl⟩
  · exact (lookup_moves hmoves hlookup).imp .inl id
  · rcases calls_moves hwell hmoves hcall with
      ⟨hold, -⟩ | ⟨hstep, hnew, -⟩ | ⟨former, hformer, hsame, -⟩
    · exact .inl (.inr ⟨call, hold, rfl, rfl⟩)
    · exact .inr ⟨hstep, by rw [hnew]⟩
    · exact .inl (.inr ⟨former, hformer, by rw [hsame], by rw [hsame]⟩)

theorem serves_lt (hwell : table.WellFormed) {number : Nat} {key : Key}
    (hserves : table.Serves number key) : number < table.cells.length := by
  rcases hserves with hlookup | ⟨call, hcall, -, rfl⟩
  · exact hwell.stored key number hlookup
  · exact hwell.attached call hcall

/-- A set-up that runs goes on while calls come and go on. -/
theorem running_moves (hwell : table.WellFormed) (hmoves : Moves table step ended? returned? after)
    (hbegins : step.Begins) {call : FlowCall Key Failure} (hcall : call ∈ table.calls)
    (hphase : call.phase = .running) : call ∈ after.calls := by
  have hother {other : FlowCall Key Failure} (hmem : other ∈ table.calls)
      (hrests : other.phase ≠ .running) : call.id ≠ other.id := by
    intro hid
    rw [← hwell.call_eq hmem hcall hid] at hrests
    exact hrests hphase
  cases hmoves with
  | idle => exact hcall
  | arrive key =>
      rw [arrive_eq]
      exact List.mem_append_left _ hcall
  | join hmem hentering =>
      exact (mem_setPhase _).2 (.inl ⟨hcall, hother hmem (by rw [hentering]; nofun)⟩)
  | found hmem hqueued =>
      exact (mem_forget _).2 ⟨hcall, hother hmem (by rw [hqueued]; nofun)⟩
  | start hmem hqueued =>
      exact (mem_setPhase _).2 (.inl ⟨hcall, hother hmem (by rw [hqueued]; nofun)⟩)
  | _ => exact hbegins.elim

/-- A key that arrives gets a cell of its own, which nobody else has. -/
theorem serves_enter (hwell : table.WellFormed) {key other : Key}
    (hserves : table.Serves (table.enter key).1 other) :
    table.Serves (table.enter key).1 key := by
  cases hlookup : table.entries.lookup key with
  | some number =>
      rw [table.enter_of_some hlookup]
      exact .inl hlookup
  | none =>
      have hlt := serves_lt hwell hserves
      rw [table.enter_of_none hlookup] at hlt
      exact absurd hlt (lt_irrefl _)

end FlowTable

namespace FlowRun

open FlowTable (Step Moves)

variable {Key Value Failure : Type} [DecidableEq Key]

/-- At most one set-up runs for a key, and every value that was returned for a key is the one that
the key has. -/
structure Single (run : FlowRun Key Value Failure) : Prop where
  alone : ∀ call ∈ run.table.calls, ∀ other ∈ run.table.calls,
    call.phase = .running → other.phase = .running → call.key = other.key → call = other
  kept : ∀ outcome ∈ run.returned, ∀ value, outcome.result = .ok value →
    run.table.get? outcome.key = some value
  alike : ∀ outcome ∈ run.returned, ∀ other ∈ run.returned, outcome.key = other.key →
    ∀ value another, outcome.result = .ok value → other.result = .ok another → value = another

/-- Every call that may come to a value is at the cell that its key leads to. -/
structure Together (run : FlowRun Key Value Failure) : Prop where
  recorded : run.Recorded
  led : ∀ call ∈ run.table.calls, call.phase.Pending →
    run.table.entries.lookup call.key = some call.cell
  kept : ∀ outcome ∈ run.returned, ∀ value, outcome.result = .ok value →
    run.table.get? outcome.key = some value

variable {run : FlowRun Key Value Failure}

theorem Together.single (htogether : run.Together) : run.Single where
  alone call hcall other hother hphase hphase' hkey := by
    have hwell := htogether.recorded.wellFormed
    have hcell := htogether.led call hcall (by rw [hphase]; trivial)
    have hcell' := htogether.led other hother (by rw [hphase']; trivial)
    rw [hkey, hcell', Option.some.injEq] at hcell
    have hholder := hwell.runs call hcall hphase
    rw [← hcell, hwell.runs other hother hphase', Option.some.injEq] at hholder
    exact (hwell.call_eq hcall hother hholder).symm
  kept := htogether.kept
  alike outcome houtcome other hother hkey value another hvalue hanother := by
    have hstored := htogether.kept outcome houtcome value hvalue
    rw [hkey, htogether.kept other hother another hanother] at hstored
    exact (Option.some.inj hstored).symm

/-- A step of the calls keeps them together if it strands nobody. -/
theorem Together.apply (htogether : run.Together) {step : Step Key Value Failure}
    (hcalls : step.OfCalls) (hstays : ∀ id, step = .cleanUp id → ¬run.table.Strands id) :
    (run.apply step).Together := by
  obtain ⟨ended?, returned?, hmoves, -, hreturned⟩ := run.exists_moves step
  have hwell := htogether.recorded.wellFormed
  -- Only a clean-up takes a key away, and it finds a cell without a value and nobody left there.
  have hled (call : FlowCall Key Failure) (hcall : call ∈ run.table.calls)
      (hpending : call.phase.Pending) :
      (run.apply step).table.entries.lookup call.key = some call.cell := by
    have hlookup := htogether.led call hcall hpending
    by_contra hgone
    obtain ⟨failed, hfailed, rfl, hphase, hkey, hcell, hvalue⟩ :=
      (FlowTable.evicts_of_moves hmoves hlookup hgone).of_calls hcalls
    exact hstays failed.id rfl ⟨failed, hfailed, rfl, hphase, by rw [hkey, hlookup, hcell],
      by rw [hcell, hvalue], call, hcall, hcell.symm, hpending⟩
  constructor
  case recorded => exact htogether.recorded.apply step
  case led =>
    intro call hcall hpending
    rcases FlowTable.calls_moves hwell hmoves hcall with
      ⟨hold, -⟩ | ⟨rfl, hnew, -⟩ | ⟨former, hformer, hsame, hformerPending, -⟩
    · exact hled call hold hpending
    · rw [hnew]
      change (run.table.enter call.key).2.entries.lookup call.key = _
      rw [FlowTable.lookup_enter, if_pos rfl]
    · rw [hsame]
      exact hled former hformer hformerPending
  case kept =>
    intro outcome hmem value hresult
    rw [hreturned] at hmem
    rcases List.mem_append.1 hmem with hold | hnew
    · obtain ⟨number, hlookup, hstored⟩ :=
        FlowTable.get?_eq_some_iff.1 (htogether.kept outcome hold value hresult)
      refine FlowTable.get?_eq_some_iff.2
        ⟨number, ?_, FlowTable.value?_moves hwell hmoves hstored⟩
      by_contra hgone
      obtain ⟨-, -, -, -, -, -, hvalue⟩ :=
        (FlowTable.evicts_of_moves hmoves hlookup hgone).of_calls hcalls
      rw [hstored] at hvalue
      cases hvalue
    · obtain ⟨call, hcall, ⟨failure, -, rfl⟩ | ⟨other, hpending, rfl, hstored⟩⟩ :=
        FlowTable.returned_moves hwell hmoves (Option.mem_toList.1 hnew)
      · cases hresult
      · cases hresult
        exact FlowTable.get?_eq_some_iff.2 ⟨call.cell, hled call hcall hpending, hstored⟩

theorem together_start : Together ({} : FlowRun Key Value Failure) where
  recorded := recorded_start
  led _ hcall := by cases hcall
  kept _ hmem := by cases hmem

/-- Calls that are together stay so over steps of which none strands anyone. -/
theorem Together.further (htogether : run.Together) {steps : List (Step Key Value Failure)}
    (hcalls : ∀ step ∈ steps, step.OfCalls)
    (hstays : ∀ earlier id later, steps = earlier ++ .cleanUp id :: later →
      ¬(run.further earlier).table.Strands id) : (run.further steps).Together := by
  induction steps generalizing run with
  | nil => exact htogether
  | cons step steps ih =>
      refine ih (htogether.apply (hcalls step List.mem_cons_self) ?_) ?_ ?_
      · rintro id rfl
        exact hstays [] id steps rfl
      · exact fun other hother => hcalls other (List.mem_cons_of_mem step hother)
      · rintro earlier id later rfl
        exact hstays (step :: earlier) id later rfl

/-! ## Two set-ups at once -/

/-- A cell is that of one key only. -/
theorem serves_unique (steps : List (Step Key Value Failure)) :
    ∀ number key other, (after steps).table.Serves number key →
      (after steps).table.Serves number other → key = other := by
  refine (after_induction (motive := fun run => run.table.WellFormed ∧ ∀ number key other,
    run.table.Serves number key → run.table.Serves number other → key = other)
    ⟨FlowTable.wellFormed_empty, ?_⟩ ?_ steps).2
  · rintro number key other (hlookup | ⟨call, hcall, -⟩) -
    · cases hlookup
    · cases hcall
  · rintro run step ⟨hwell, hunique⟩
    obtain ⟨ended?, returned?, hmoves, -⟩ := run.exists_moves step
    refine ⟨hwell.moves hmoves, ?_⟩
    intro number key other hkey hother
    rcases FlowTable.serves_moves hwell hmoves hkey with hformer | ⟨rfl, rfl⟩
    · rcases FlowTable.serves_moves hwell hmoves hother with hformer' | ⟨rfl, rfl⟩
      · exact hunique number key other hformer hformer'
      · exact hunique _ key other hformer (FlowTable.serves_enter hwell hformer)
    · rcases FlowTable.serves_moves hwell hmoves hother with hformer' | ⟨hstep, -⟩
      · exact hunique _ key other (FlowTable.serves_enter hwell hformer') hformer'
      · cases hstep
        rfl

/-- A call that holds its cell runs its set-up once it goes on. -/
theorem apply_resume (hwell : run.table.WellFormed) {call : FlowCall Key Failure}
    (hcall : call ∈ run.table.calls) (hphase : call.phase = .queued)
    (hvalue : (run.table.cell call.cell).value? = none)
    (hholder : (run.table.cell call.cell).holder? = some call.id) :
    (run.apply (.resume call.id)).table = run.table.setPhase call.id .running := by
  change (run.table.resume call.id).2 = _
  simp only [FlowTable.resume, hwell.call? hcall, hphase, hvalue, hholder, if_true]

theorem apply_join (hwell : run.table.WellFormed) {call : FlowCall Key Failure}
    (hcall : call ∈ run.table.calls) (hphase : call.phase = .entering) :
    (run.apply (.join call.id)).table =
      (run.table.modifyCell call.cell (·.join call.id)).setPhase call.id .queued := by
  change run.table.join call.id = _
  simp only [FlowTable.join, hwell.call? hcall, hphase]

theorem running_further (hwell : run.table.WellFormed) {steps : List (Step Key Value Failure)}
    (hbegins : ∀ step ∈ steps, step.Begins) {call : FlowCall Key Failure}
    (hcall : call ∈ run.table.calls) (hphase : call.phase = .running) :
    call ∈ (run.further steps).table.calls := by
  induction steps generalizing run with
  | nil => exact hcall
  | cons step steps ih =>
      obtain ⟨_, _, hmoves, -⟩ := run.exists_moves step
      refine ih (hwell.moves hmoves) ?_ ?_
      · exact fun other hother => hbegins other (List.mem_cons_of_mem step hother)
      · exact FlowTable.running_moves hwell hmoves (hbegins step List.mem_cons_self) hcall hphase

/-- Where a call may come to a value and there is none yet, some set-up runs once calls go on. -/
theorem exists_running (hwell : run.table.WellFormed) {call : FlowCall Key Failure}
    (hcall : call ∈ run.table.calls) (hpending : call.phase.Pending)
    (hvalue : (run.table.cell call.cell).value? = none) :
    ∃ starts : List (Step Key Value Failure), (∀ step ∈ starts, step.Begins) ∧
      (run.further starts).table.entries = run.table.entries ∧
      ∃ other ∈ run.table.calls, other.cell = call.cell ∧
        { other with phase := .running } ∈ (run.further starts).table.calls := by
  cases hholder : (run.table.cell call.cell).holder? with
  | some id =>
      have hmem : id ∈ (run.table.cell call.cell).line := by simp [FlowCell.line, hholder]
      obtain ⟨-, other, hother, rfl, hcell, hstands⟩ := (hwell.lined _ _).1 hmem
      rw [← hcell] at hvalue hholder
      cases hphase : other.phase with
      | running =>
          refine ⟨[], by simp, rfl, other, hother, hcell, ?_⟩
          rw [← hphase]
          exact hother
      | queued =>
          refine ⟨[.resume other.id], by simp [Step.Begins], ?_, other, hother, hcell, ?_⟩
          · change (run.apply (.resume other.id)).table.entries = _
            rw [apply_resume hwell hother hphase hvalue hholder]
            rfl
          · change _ ∈ (run.apply (.resume other.id)).table.calls
            rw [apply_resume hwell hother hphase hvalue hholder]
            exact (FlowTable.mem_setPhase _).2 (.inr ⟨other, hother, rfl, rfl⟩)
      | entering =>
          rw [hphase] at hstands
          exact hstands.elim
      | failed failure =>
          rw [hphase] at hstands
          exact hstands.elim
  | none =>
      have hline : (run.table.cell call.cell).line = [] := by
        simp [FlowCell.line, hholder, (hwell.sound call.cell).held hholder]
      have hentering : call.phase = .entering := by
        refine hpending.entering fun hstands => ?_
        have hmem := (hwell.lined call.cell call.id).2 ⟨hvalue, call, hcall, rfl, rfl, hstands⟩
        rw [hline] at hmem
        cases hmem
      let joined : FlowCall Key Failure := { call with phase := .queued }
      have htable := apply_join hwell hcall hentering
      have hjoined : joined ∈ (run.apply (.join call.id)).table.calls := by
        rw [htable]
        exact (FlowTable.mem_setPhase _).2 (.inr ⟨call, hcall, rfl, rfl⟩)
      have hcell : (run.apply (.join call.id)).table.cell call.cell =
          (run.table.cell call.cell).join call.id := by
        rw [htable]
        exact (FlowTable.cell_turn hwell hcall _ (some .queued) call.cell).trans (if_pos rfl)
      have hwell' : (run.apply (.join call.id)).table.WellFormed :=
        wellFormed_further hwell [.join call.id]
      have hresume := apply_resume hwell' hjoined rfl
        (by rw [show joined.cell = call.cell from rfl, hcell, FlowCell.value?_join, hvalue])
        (by
          rw [show joined.cell = call.cell from rfl, hcell, FlowCell.join]
          simp [hvalue, hholder, joined])
      refine ⟨[.join call.id, .resume call.id], by simp [Step.Begins], ?_, call, hcall, rfl, ?_⟩
      · change ((run.apply (.join call.id)).apply (.resume joined.id)).table.entries = _
        rw [hresume, htable]
        rfl
      · change _ ∈ ((run.apply (.join call.id)).apply (.resume joined.id)).table.calls
        rw [hresume]
        exact (FlowTable.mem_setPhase _).2 (.inr ⟨joined, hjoined, rfl, rfl⟩)

/-- A failed call takes its key away. -/
theorem apply_cleanUp (hwell : run.table.WellFormed) {call : FlowCall Key Failure}
    {failure : Failure} (hcall : call ∈ run.table.calls) (hphase : call.phase = .failed failure)
    (hlookup : run.table.entries.lookup call.key = some call.cell)
    (hvalue : (run.table.cell call.cell).value? = none) :
    (run.apply (.cleanUp call.id)).table = (run.table.erase call.key).forget call.id := by
  change (run.table.cleanUp call.id).2 = _
  simp only [FlowTable.cleanUp, hwell.call? hcall, hphase, FlowTable.eraseCell, hlookup, hvalue,
    Option.isNone_none, and_self, if_true]

/-- A newcomer for a key that leads nowhere gets a cell of its own and comes to run its set-up. -/
theorem exists_newcomer (earlier : List (Step Key Value Failure)) {key : Key}
    (hnone : (after earlier).table.entries.lookup key = none) :
    ∃ starts : List (Step Key Value Failure), (∀ step ∈ starts, step.Begins) ∧
      ∃ call : FlowCall Key Failure, call.key = key ∧
        call.cell = (after earlier).table.cells.length ∧
        { call with phase := .running } ∈ ((after earlier).further starts).table.calls := by
  let come := earlier ++ [.arrive key]
  let number := (after earlier).table.cells.length
  have harrive : (after come).table = ((after earlier).table.arrive key).2 := by
    rw [after_append]
    rfl
  have hcome : ⟨(after earlier).table.nextCall, key, number, .entering⟩ ∈
      (after come).table.calls := by
    rw [harrive, FlowTable.arrive_eq, (after earlier).table.enter_of_none hnone]
    exact List.mem_append_right _ (List.mem_singleton_self _)
  have hempty : ((after come).table.cell number).value? = none := by
    rw [harrive]
    change ((((after earlier).table.enter key).2).cell number).value? = none
    rw [FlowTable.cell_enter]
    simp [FlowTable.cell, number]
  obtain ⟨starts, hstarts, -, call, hcall, hcell, hruns⟩ :=
    exists_running (wellFormed_after come) hcome trivial hempty
  have hkey : call.key = key := serves_unique come number call.key key
    (.inr ⟨call, hcall, rfl, hcell⟩) (.inr ⟨_, hcome, rfl, rfl⟩)
  refine ⟨.arrive key :: starts, ?_, call, hkey, hcell, ?_⟩
  · intro step hstep
    rcases List.mem_cons.1 hstep with rfl | hlater
    · trivial
    · exact hstarts step hlater
  · rwa [show (after come).further starts = (after earlier).further (.arrive key :: starts) by
      rw [after_append]
      rfl] at hruns

/-- Once a call is stranded, its set-up and that of a newcomer can run at the same time. -/
theorem not_single_of_strands {earlier : List (Step Key Value Failure)} {id : Nat}
    (hstrands : (after earlier).table.Strands id) :
    ∃ starts : List (Step Key Value Failure), (∀ step ∈ starts, step.Begins) ∧
      ¬(after (earlier ++ [.cleanUp id] ++ starts)).Single := by
  obtain ⟨call, hcall, rfl, ⟨failure, hphase⟩, hlookup, hvalue, other, hother, hcell, hpending⟩ :=
    hstrands
  have hwell := wellFormed_after earlier
  let cleaned := earlier ++ [.cleanUp call.id]
  have htable : (after cleaned).table = ((after earlier).table.erase call.key).forget call.id := by
    rw [after_append]
    exact apply_cleanUp hwell hcall hphase hlookup hvalue
  have hkept : other ∈ (after cleaned).table.calls := by
    rw [htable]
    refine (FlowTable.mem_forget _).2 ⟨hother, fun hid => ?_⟩
    rw [hwell.call_eq hcall hother hid, hphase] at hpending
    exact hpending
  have hkey : other.key = call.key := serves_unique earlier call.cell other.key call.key
    (.inr ⟨other, hother, rfl, hcell⟩) (.inr ⟨call, hcall, rfl, rfl⟩)
  have hstillEmpty : ((after cleaned).table.cell other.cell).value? = none := by
    rw [hcell, htable]
    exact hvalue
  -- First the stranded call, or one that is before it in line, comes to run its set-up.
  obtain ⟨starts, hstarts, hentries, first, hfirst, hfirstCell, hfirstRuns⟩ :=
    exists_running (wellFormed_after cleaned) hkept hpending hstillEmpty
  let gone := cleaned ++ starts
  rw [show (after cleaned).further starts = after gone from (after_append cleaned starts).symm]
    at hentries hfirstRuns
  have hfirstKey : first.key = call.key :=
    (serves_unique cleaned other.cell first.key other.key (.inr ⟨first, hfirst, rfl, hfirstCell⟩)
      (.inr ⟨other, hkept, rfl, rfl⟩)).trans hkey
  -- Then a newcomer finds nothing under the key, and the first set-up goes on beside its own.
  have hnone : (after gone).table.entries.lookup call.key = none := by
    rw [hentries, htable]
    exact ((after earlier).table.lookup_erase call.key call.key).trans (if_pos rfl)
  obtain ⟨starts', hstarts', second, hsecondKey, hsecondCell, hsecondRuns⟩ :=
    exists_newcomer gone hnone
  have hstill := running_further (wellFormed_after gone) hstarts' hfirstRuns rfl
  refine ⟨starts ++ starts', ?_, fun hsingle => ?_⟩
  · intro step hstep
    rcases List.mem_append.1 hstep with hearlier | hlater
    · exact hstarts step hearlier
    · exact hstarts' step hlater
  · rw [← List.append_assoc, after_append] at hsingle
    have hsame := hsingle.alone _ hstill _ hsecondRuns rfl rfl (hfirstKey.trans hsecondKey.symm)
    have hbelow := (wellFormed_after gone).attached _ hfirstRuns
    have hplace : first.cell = (after gone).table.cells.length :=
      (FlowCall.mk.inj hsame).2.2.1.trans hsecondCell
    change first.cell < _ at hbelow
    exact absurd hplace hbelow.ne

/-- In a run of calls, none of which is removed or given up, single flight holds at every moment,
and goes on to hold while calls come and start their set-ups, exactly when no call whose set-up
failed ever takes its key away from another call that may still come to a value. -/
theorem single_iff_strands_nobody (steps : List (Step Key Value Failure))
    (hcalls : ∀ step ∈ steps, step.OfCalls) :
    (∀ earlier later, steps = earlier ++ later → ∀ starts : List (Step Key Value Failure),
        (∀ step ∈ starts, step.Begins) → (after (earlier ++ starts)).Single) ↔
      ∀ earlier id later, steps = earlier ++ .cleanUp id :: later →
        ¬(after earlier).table.Strands id := by
  constructor
  · intro hsingle earlier id later hsplit hstrands
    obtain ⟨starts, hbegins, hdouble⟩ := not_single_of_strands hstrands
    refine hdouble (hsingle (earlier ++ [.cleanUp id]) later ?_ starts hbegins)
    rw [hsplit, List.append_assoc]
    rfl
  · rintro hstays earlier later rfl starts hbegins
    refine (together_start.further ?_ ?_).single
    · intro step hstep
      rcases List.mem_append.1 hstep with hearlier | hstart
      · exact hcalls step (List.mem_append_left later hearlier)
      · have hbegin := hbegins step hstart
        cases step <;> trivial
    · intro before id rest hsplit
      rcases List.append_eq_append_iff.1 hsplit with ⟨added, -, hrest⟩ | ⟨left, hearlier, hrest⟩
      · exact (hbegins (.cleanUp id) (by simp [hrest])).elim
      · cases left with
        | nil =>
            refine (hbegins (.cleanUp id) ?_).elim
            rw [← show .cleanUp id :: rest = starts from hrest]
            exact List.mem_cons_self
        | cons head left =>
            obtain ⟨rfl, -⟩ := List.cons.inj hrest
            exact hstays before id (left ++ later) (by rw [hearlier, List.append_assoc]; rfl)

/-- A call fails while a second one waits for it, and a third comes after it has removed the key. -/
def overtaken : List (Step Nat Nat String) :=
  [.arrive 53, .join 0, .resume 0, .arrive 53, .join 1, .endSetUp 0 (.error "refused"), .cleanUp 0,
    .resume 1, .arrive 53, .join 2, .resume 2, .endSetUp 1 (.ok 1), .endSetUp 2 (.ok 2)]

theorem ofCalls_overtaken : ∀ step ∈ overtaken, step.OfCalls := by
  simp [overtaken, Step.OfCalls]

theorem single_iff_strands_nobody_overtaken :
    (∀ step ∈ overtaken, step.OfCalls) ∧
      ((∀ earlier later, overtaken = earlier ++ later → ∀ starts : List (Step Nat Nat String),
          (∀ step ∈ starts, step.Begins) → (after (earlier ++ starts)).Single) ↔
        ∀ earlier id later, overtaken = earlier ++ .cleanUp id :: later →
          ¬(after earlier).table.Strands id) :=
  ⟨ofCalls_overtaken, single_iff_strands_nobody overtaken ofCalls_overtaken⟩

/-- The second and the third call run their set-ups at the same time and return different values,
and only the later one is to be found under the key. -/
theorem overtaken_sets_up_twice :
    (∀ step ∈ overtaken, step.OfCalls) ∧
      (after (overtaken.take 11)).table.calls = [⟨1, 53, 0, .running⟩, ⟨2, 53, 1, .running⟩] ∧
      (after overtaken).returned =
        [⟨0, 53, 0, .error "refused"⟩, ⟨1, 53, 0, .ok 1⟩, ⟨2, 53, 1, .ok 2⟩] ∧
      (after (overtaken.take 12)).table.get? 53 = none ∧
      (after overtaken).table.get? 53 = some 2 ∧
      ¬(after (overtaken.take 11)).Single ∧ ¬(after overtaken).Single := by
  have hrunning : (after (overtaken.take 11)).table.calls =
      [⟨1, 53, 0, .running⟩, ⟨2, 53, 1, .running⟩] := rfl
  have hreturned : (after overtaken).returned =
      [⟨0, 53, 0, .error "refused"⟩, ⟨1, 53, 0, .ok 1⟩, ⟨2, 53, 1, .ok 2⟩] := rfl
  refine ⟨ofCalls_overtaken, hrunning, hreturned, rfl, rfl, fun hsingle => ?_, fun hsingle => ?_⟩
  · have hsame := hsingle.alone ⟨1, 53, 0, .running⟩ (by rw [hrunning]; simp)
      ⟨2, 53, 1, .running⟩ (by rw [hrunning]; simp) rfl rfl rfl
    cases hsame
  · have hsame := hsingle.alike ⟨1, 53, 0, .ok 1⟩ (by rw [hreturned]; simp) ⟨2, 53, 1, .ok 2⟩
      (by rw [hreturned]; simp) rfl 1 2 rfl rfl
    cases hsame

end FlowRun

end PortalNat
