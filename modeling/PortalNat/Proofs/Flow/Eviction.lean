import PortalNat.Proofs.Flow.Order

/-!
# What leaves a flow table

A cell gets one value, from one set-up, and every call that returns a value from the cell returns
that one. An error that a call returns is that of its own set-up. A key loses its cell only when it
is removed, when its value is accepted for removal, or when a call whose set-up failed finds the
cell still without a value. The main statement puts this together for every run: nobody's value is
removed by anyone who did not mean that very value.
-/

namespace PortalNat

def FlowOutcome.successes {Key Value Failure : Type}
    (outcomes : List (FlowOutcome Key Value Failure)) (cell : Nat) : List Value :=
  (outcomes.filter (·.cell = cell)).filterMap (·.result.toOption)

theorem FlowOutcome.successes_append {Key Value Failure : Type}
    (earlier later : List (FlowOutcome Key Value Failure)) (cell : Nat) :
    successes (earlier ++ later) cell = successes earlier cell ++ successes later cell := by
  simp [successes]

theorem FlowOutcome.mem_successes {Key Value Failure : Type}
    {outcomes : List (FlowOutcome Key Value Failure)} {cell : Nat} {value : Value} :
    value ∈ successes outcomes cell ↔
      ∃ outcome ∈ outcomes, outcome.cell = cell ∧ outcome.result = .ok value := by
  simp only [successes, List.mem_filterMap, List.mem_filter, decide_eq_true_eq]
  constructor
  · rintro ⟨outcome, ⟨hmem, hcell⟩, hvalue⟩
    cases hresult : outcome.result with
    | ok other =>
        rw [hresult] at hvalue
        cases hvalue
        exact ⟨outcome, hmem, hcell, hresult⟩
    | error failure =>
        rw [hresult] at hvalue
        cases hvalue
  · rintro ⟨outcome, hmem, hcell, hresult⟩
    exact ⟨outcome, ⟨hmem, hcell⟩, by rw [hresult]; rfl⟩

namespace FlowTable

variable {Key Value Failure : Type} [DecidableEq Key]

/-- The ways in which a key loses its cell. -/
inductive Evicts (table : FlowTable Key Value Failure) :
    Step Key Value Failure → Key → Nat → Prop
  | remove (key : Key) (number : Nat) : Evicts table (.remove key) key number
  | removeIf {number : Nat} {value : Value} (key : Key) (accept : Value → Bool)
      (hvalue : (table.cell number).value? = some value) (haccept : accept value = true) :
      Evicts table (.removeIf key accept) key number
  | cleanUp {call : FlowCall Key Failure} {failure : Failure} (hcall : call ∈ table.calls)
      (hphase : call.phase = .failed failure)
      (hvalue : (table.cell call.cell).value? = none) :
      Evicts table (.cleanUp call.id) call.key call.cell

section

variable {table after : FlowTable Key Value Failure} {step : Step Key Value Failure}
  {ended? returned? : Option (FlowOutcome Key Value Failure)}

theorem get?_eq_some_iff {key : Key} {value : Value} :
    table.get? key = some value ↔
      ∃ number, table.entries.lookup key = some number ∧
        (table.cell number).value? = some value := by
  simp [get?, Option.bind_eq_some_iff]

theorem evicts_of_moves (hmoves : Moves table step ended? returned? after) {key : Key}
    {number : Nat} (hlookup : table.entries.lookup key = some number)
    (hafter : after.entries.lookup key ≠ some number) : Evicts table step key number := by
  cases hmoves with
  | arrive other =>
      refine absurd ?_ hafter
      change (table.enter other).2.entries.lookup key = some number
      rw [lookup_enter]
      split_ifs with hkey
      · rw [hkey] at hlookup
        rw [table.enter_of_some hlookup]
      · exact hlookup
  | @cleanUp call failure hcall hphase =>
      change (table.eraseCell call.key call.cell).entries.lookup key ≠ some number at hafter
      unfold eraseCell at hafter
      split_ifs at hafter with herase
      · rw [lookup_erase] at hafter
        split_ifs at hafter with hkey
        · subst hkey
          rw [hlookup, Option.isNone_iff_eq_none] at herase
          obtain ⟨⟨⟩, hvalue⟩ := herase
          exact .cleanUp hcall hphase hvalue
        · exact absurd hlookup hafter
      · exact absurd hlookup hafter
  | remove other =>
      rw [lookup_erase] at hafter
      split_ifs at hafter with hkey
      · rw [hkey]
        exact .remove other number
      · exact absurd hlookup hafter
  | @removeIf other accept value hvalue haccept =>
      rw [lookup_erase] at hafter
      split_ifs at hafter with hkey
      · subst hkey
        obtain ⟨stored, hstored, hvalue⟩ := get?_eq_some_iff.1 hvalue
        rw [hlookup] at hstored
        cases hstored
        exact .removeIf key accept hvalue haccept
      · exact absurd hlookup hafter
  | _ => exact absurd hlookup hafter

variable (hwell : table.WellFormed)
include hwell

theorem value?_of_running {call : FlowCall Key Failure} (hcall : call ∈ table.calls)
    (hphase : call.phase = .running) : (table.cell call.cell).value? = none := by
  have hmem : call.id ∈ (table.cell call.cell).line := by
    simp [FlowCell.line, hwell.runs call hcall hphase]
  exact FlowCell.value?_of_mem_line (hwell.sound call.cell) hmem

theorem value?_fill {call : FlowCall Key Failure} (hcall : call ∈ table.calls) (value : Value) :
    (((table.modifyCell call.cell fun _ => FlowCell.fill value).forget call.id).cell
      call.cell).value? = some value := by
  have hcell : ((table.modifyCell call.cell fun _ => FlowCell.fill value).forget
      call.id).cell call.cell = _ :=
    cell_turn hwell hcall (fun _ => FlowCell.fill value) none call.cell
  rw [hcell, if_pos rfl]
  rfl

/-- A cell gets a value when a set-up on it succeeds, which it does only on a cell without one. -/
theorem values_moves (hmoves : Moves table step ended? returned? after) (number : Nat) :
    (after.cell number).value?.toList =
      (table.cell number).value?.toList ++ FlowOutcome.successes ended?.toList number := by
  have hkept (hsame : (after.cell number).value? = (table.cell number).value?) :
      (after.cell number).value?.toList =
        (table.cell number).value?.toList ++
          FlowOutcome.successes ([] : List (FlowOutcome Key Value Failure)) number := by
    rw [hsame]
    exact (List.append_nil _).symm
  cases hmoves with
  | idle => exact hkept rfl
  | arrive key => exact hkept (congrArg (·.value?) (congrFun (table.cell_enter key) number))
  | @join call hcall hphase =>
      exact hkept
        (value?_turn hwell hcall _ (fun cell => cell.value?_join call.id) (some .queued) _)
  | found => exact hkept rfl
  | start => exact hkept rfl
  | @succeed call value hcall hphase =>
      have hcell : ((table.modifyCell call.cell fun _ => FlowCell.fill value).forget
          call.id).cell number = _ :=
        cell_turn hwell hcall (fun _ => FlowCell.fill value) none number
      rw [hcell]
      by_cases hnumber : number = call.cell
      · subst hnumber
        rw [if_pos rfl, value?_of_running hwell hcall hphase]
        simp [FlowCell.fill, FlowOutcome.successes, FlowCall.outcome, Except.toOption]
      · rw [if_neg hnumber]
        simp [FlowOutcome.successes, FlowCall.outcome, Ne.symm hnumber]
  | @fail call failure hcall hphase =>
      have hvalue : (((table.modifyCell call.cell (·.release)).setPhase call.id
          (.failed failure)).cell number).value? = _ :=
        value?_turn hwell hcall (·.release) (fun _ => rfl) (some (.failed failure))
          number
      rw [hvalue]
      by_cases hnumber : call.cell = number <;>
        simp [FlowOutcome.successes, FlowCall.outcome, hnumber, Except.toOption]
  | @cleanUp call failure hcall hphase =>
      refine hkept ?_
      change ((table.eraseCell call.key call.cell).cell number).value? = _
      unfold eraseCell
      split_ifs <;> rfl
  | @abandon call hcall hphase =>
      exact hkept (value?_turn hwell hcall _ (fun cell => cell.value?_leave call.id) none _)
  | remove => exact hkept rfl
  | removeIf => exact hkept rfl

theorem value?_moves (hmoves : Moves table step ended? returned? after) {number : Nat}
    {value : Value} (hvalue : (table.cell number).value? = some value) :
    (after.cell number).value? = some value := by
  have hvalues := values_moves hwell hmoves number
  rw [hvalue] at hvalues
  cases hafter : (after.cell number).value? with
  | none => simp [hafter] at hvalues
  | some other =>
      rw [hafter, Option.toList_some, Option.toList_some, List.singleton_append,
        List.cons.injEq] at hvalues
      rw [hvalues.1]

/-- A call in flight stands as it stood, has just come, or has gone on: then its set-up had not
failed before, and if it has now, this is what ended. -/
theorem calls_moves (hmoves : Moves table step ended? returned? after)
    {call : FlowCall Key Failure} (hcall : call ∈ after.calls) :
    (call ∈ table.calls ∧ ∀ outcome ∈ ended?, outcome.call ≠ call.id) ∨
      (step = .arrive call.key ∧
        call = ⟨table.nextCall, call.key, (table.enter call.key).1, .entering⟩ ∧ ended? = none) ∨
      ∃ former ∈ table.calls, call = { former with phase := call.phase } ∧ former.phase.Pending ∧
        ((ended? = none ∧ call.phase.Pending) ∨
          ∃ failure, call.phase = .failed failure ∧
            ended? = some (call.outcome (.error failure))) := by
  have hstands (hold : call ∈ table.calls) :
      call ∈ table.calls ∧
        ∀ outcome ∈ (none : Option (FlowOutcome Key Value Failure)), outcome.call ≠ call.id :=
    ⟨hold, fun _ hnone => by cases hnone⟩
  cases hmoves with
  | idle => exact .inl (hstands hcall)
  | arrive key =>
      rw [arrive_eq] at hcall
      rcases List.mem_append.1 hcall with hold | hnew
      · exact .inl (hstands hold)
      · rw [List.mem_singleton.1 hnew]
        exact .inr (.inl ⟨rfl, rfl, rfl⟩)
  | @join former hformer hphase =>
      rcases (mem_turn hwell hformer _ (some .queued)).1 hcall with
        ⟨hold, -⟩ | ⟨_, ⟨⟩, rfl⟩
      · exact .inl (hstands hold)
      · exact .inr (.inr ⟨former, hformer, rfl, by rw [hphase]; trivial, .inl ⟨rfl, trivial⟩⟩)
  | found => exact .inl (hstands ((mem_forget _).1 hcall).1)
  | @start former hformer hphase =>
      rcases (mem_setPhase _).1 hcall with ⟨hold, -⟩ | ⟨other, hother, hid, rfl⟩
      · exact .inl (hstands hold)
      · rw [hwell.call_eq hformer hother hid]
        exact .inr (.inr ⟨former, hformer, rfl, by rw [hphase]; trivial, .inl ⟨rfl, trivial⟩⟩)
  | @succeed former value hformer hphase =>
      obtain ⟨hold, hid⟩ := (mem_forget _).1 hcall
      refine .inl ⟨hold, ?_⟩
      rintro outcome ⟨⟩
      exact hid.symm
  | @fail former failure hformer hphase =>
      rcases (mem_turn hwell hformer _ (some (.failed failure))).1 hcall with
        ⟨hold, hid⟩ | ⟨_, ⟨⟩, rfl⟩
      · refine .inl ⟨hold, ?_⟩
        rintro outcome ⟨⟩
        exact hid.symm
      · exact .inr (.inr ⟨former, hformer, rfl, by rw [hphase]; trivial, .inr ⟨failure, rfl, rfl⟩⟩)
  | @cleanUp former failure hformer hphase =>
      refine .inl (hstands ?_)
      have hkept := ((mem_forget _).1 hcall).1
      unfold eraseCell at hkept
      split_ifs at hkept <;> exact hkept
  | abandon => exact .inl (hstands ((mem_forget _).1 hcall).1)
  | remove => exact .inl (hstands hcall)
  | removeIf => exact .inl (hstands hcall)

/-- A call that returns has the error of its own set-up, or the value that its cell has now. -/
theorem returned_moves (hmoves : Moves table step ended? returned? after)
    {outcome : FlowOutcome Key Value Failure} (hreturned : returned? = some outcome) :
    ∃ call ∈ table.calls,
      (∃ failure, call.phase = .failed failure ∧ outcome = call.outcome (.error failure)) ∨
        ∃ value, call.phase.Pending ∧ outcome = call.outcome (.ok value) ∧
          (after.cell call.cell).value? = some value := by
  cases hmoves with
  | @found call value hcall hphase hvalue =>
      cases hreturned
      exact ⟨call, hcall, .inr ⟨value, by rw [hphase]; trivial, rfl, hvalue⟩⟩
  | @succeed call value hcall hphase =>
      cases hreturned
      exact ⟨call, hcall, .inr ⟨value, by rw [hphase]; trivial, rfl, value?_fill hwell hcall value⟩⟩
  | @cleanUp call failure hcall hphase =>
      cases hreturned
      exact ⟨call, hcall, .inl ⟨failure, hphase, rfl⟩⟩
  | _ => cases hreturned

end

/-- The numbers of calls only go up. -/
theorem nextCall_moves {table after : FlowTable Key Value Failure} {step : Step Key Value Failure}
    {ended? returned? : Option (FlowOutcome Key Value Failure)}
    (hmoves : Moves table step ended? returned? after) : table.nextCall ≤ after.nextCall := by
  cases hmoves with
  | arrive key => exact Nat.le_succ _
  | cleanUp =>
      change _ ≤ (eraseCell ..).nextCall
      unfold eraseCell
      split_ifs <;> exact le_rfl
  | _ => exact le_rfl

end FlowTable

namespace FlowRun

open FlowTable (Step Moves Evicts)

variable {Key Value Failure : Type} [DecidableEq Key]

/-- What has come of the calls of a run agrees with its table. -/
structure Recorded (run : FlowRun Key Value Failure) : Prop where
  wellFormed : run.table.WellFormed
  numbered : ∀ outcome ∈ run.ended, outcome.call < run.table.nextCall
  once : (run.ended.map (·.call)).Nodup
  past : ∀ outcome ∈ run.ended, ∀ call ∈ run.table.calls, call.id = outcome.call →
    ∃ failure, call.phase = .failed failure
  failed : ∀ call ∈ run.table.calls, ∀ failure, call.phase = .failed failure →
    call.outcome (.error failure) ∈ run.ended
  made : ∀ number, FlowOutcome.successes run.ended number = (run.table.cell number).value?.toList
  errors : ∀ outcome ∈ run.returned, ∀ failure, outcome.result = .error failure →
    outcome ∈ run.ended
  values : ∀ outcome ∈ run.returned, ∀ value, outcome.result = .ok value →
    (run.table.cell outcome.cell).value? = some value

theorem recorded_start : Recorded ({} : FlowRun Key Value Failure) where
  wellFormed := FlowTable.wellFormed_empty
  numbered _ hmem := by cases hmem
  once := List.nodup_nil
  past _ hmem := by cases hmem
  failed _ hmem := by cases hmem
  made _ := rfl
  errors _ hmem := by cases hmem
  values _ hmem := by cases hmem

/-- A set-up that ends is that of a call in flight that has not ended one before. -/
theorem Recorded.ends {run : FlowRun Key Value Failure} {step : Step Key Value Failure}
    {returned? : Option (FlowOutcome Key Value Failure)} {after : FlowTable Key Value Failure}
    {outcome : FlowOutcome Key Value Failure} (hrun : run.Recorded)
    (hmoves : Moves run.table step (some outcome) returned? after) :
    outcome.call < run.table.nextCall ∧ outcome.call ∉ run.ended.map (·.call) := by
  have hfresh {call : FlowCall Key Failure} (hcall : call ∈ run.table.calls)
      (hphase : call.phase = .running) :
      call.id < run.table.nextCall ∧ call.id ∉ run.ended.map (·.call) := by
    refine ⟨hrun.wellFormed.numbered call hcall, fun hmem => ?_⟩
    obtain ⟨former, hformer, hid⟩ := List.mem_map.1 hmem
    obtain ⟨failure, hfailed⟩ := hrun.past former hformer call hcall hid.symm
    rw [hphase] at hfailed
    cases hfailed
  cases hmoves with
  | succeed value hcall hphase => exact hfresh hcall hphase
  | fail failure hcall hphase => exact hfresh hcall hphase

theorem Recorded.apply {run : FlowRun Key Value Failure} (hrun : run.Recorded)
    (step : Step Key Value Failure) : (run.apply step).Recorded := by
  obtain ⟨ended?, returned?, hmoves, hended, hreturned⟩ := run.exists_moves step
  have hwell := hrun.wellFormed
  constructor
  case wellFormed => exact hwell.moves hmoves
  case made =>
    intro number
    rw [hended, FlowOutcome.successes_append, hrun.made, FlowTable.values_moves hwell hmoves]
  case numbered =>
    intro outcome hmem
    rw [hended] at hmem
    refine lt_of_lt_of_le ?_ (FlowTable.nextCall_moves hmoves)
    rcases List.mem_append.1 hmem with hold | hnew
    · exact hrun.numbered outcome hold
    · rw [Option.mem_toList.1 hnew] at hmoves
      exact (hrun.ends hmoves).1
  case once =>
    rw [hended, List.map_append]
    cases ended? with
    | none => simpa using hrun.once
    | some outcome =>
        refine hrun.once.append (List.nodup_singleton _) ?_
        simpa using (hrun.ends hmoves).2
  case past =>
    intro outcome hmem call hcall hid
    have hcases := FlowTable.calls_moves hwell hmoves hcall
    rw [hended] at hmem
    rcases List.mem_append.1 hmem with hold | hnew
    · rcases hcases with ⟨hstood, -⟩ | ⟨-, hnew, -⟩ | ⟨former, hformer, hsame, hpending, -⟩
      · exact hrun.past outcome hold call hstood hid
      · rw [hnew] at hid
        exact absurd hid (hrun.numbered outcome hold).ne'
      · have hformerId : former.id = outcome.call := by rw [← hid, hsame]
        obtain ⟨failure, hfailed⟩ := hrun.past outcome hold former hformer hformerId
        rw [hfailed] at hpending
        exact hpending.elim
    · have hsome := Option.mem_toList.1 hnew
      rcases hcases with
        ⟨-, hothers⟩ | ⟨-, -, hnone⟩ | ⟨-, -, -, -, ⟨hnone, -⟩ | ⟨failure, hphase, -⟩⟩
      · exact absurd hid.symm (hothers outcome hsome)
      · rw [hnone] at hsome
        cases hsome
      · rw [hnone] at hsome
        cases hsome
      · exact ⟨failure, hphase⟩
  case failed =>
    intro call hcall failure hphase
    rw [hended]
    rcases FlowTable.calls_moves hwell hmoves hcall with
      ⟨hold, -⟩ | ⟨-, hnew, -⟩ | ⟨former, hformer, -, -, ⟨-, hpending⟩ | ⟨other, hother, hnew⟩⟩
    · exact List.mem_append_left _ (hrun.failed call hold failure hphase)
    · rw [hnew] at hphase
      cases hphase
    · rw [hphase] at hpending
      exact hpending.elim
    · rw [hphase] at hother
      cases hother
      rw [hnew]
      exact List.mem_append_right _ (List.mem_singleton_self _)
  case errors =>
    intro outcome hmem failure hresult
    rw [hreturned] at hmem
    rw [hended]
    refine List.mem_append_left _ ?_
    rcases List.mem_append.1 hmem with hold | hnew
    · exact hrun.errors outcome hold failure hresult
    · obtain ⟨call, hcall, ⟨other, hphase, rfl⟩ | ⟨value, -, rfl, -⟩⟩ :=
        FlowTable.returned_moves hwell hmoves (Option.mem_toList.1 hnew)
      · exact hrun.failed call hcall other hphase
      · cases hresult
  case values =>
    intro outcome hmem value hresult
    rw [hreturned] at hmem
    rcases List.mem_append.1 hmem with hold | hnew
    · exact FlowTable.value?_moves hwell hmoves (hrun.values outcome hold value hresult)
    · obtain ⟨call, -, ⟨failure, -, rfl⟩ | ⟨other, -, rfl, hstored⟩⟩ :=
        FlowTable.returned_moves hwell hmoves (Option.mem_toList.1 hnew)
      · cases hresult
      · cases hresult
        exact hstored

theorem recorded_after (steps : List (Step Key Value Failure)) : (after steps).Recorded :=
  after_induction recorded_start (fun _ step hrun => hrun.apply step) steps

/-- What holds of every run of a flow table, however its calls, failures, removals and calls given
up interleave. -/
structure Lawful [DecidableEq Value] (run : FlowRun Key Value Failure) : Prop where
  /-- A key keeps its cell unless it is removed, its value is accepted for removal, or a call on
  this very cell failed and the cell has no value. -/
  leaves : ∀ (step : Step Key Value Failure) (key : Key) (number : Nat),
    run.table.entries.lookup key = some number →
      (run.apply step).table.entries.lookup key ≠ some number →
      Evicts run.table step key number
  /-- A value leaves the table only if its key is removed or this value is accepted for removal. -/
  valueLeaves : ∀ (step : Step Key Value Failure) (key : Key) (value : Value),
    run.table.get? key = some value → (run.apply step).table.get? key ≠ some value →
      step = .remove key ∨ ∃ accept, step = .removeIf key accept ∧ accept value = true
  /-- No call runs two set-ups. -/
  once : (run.ended.map (·.call)).Nodup
  /-- An error is returned by the call whose own set-up it ended. -/
  ownError : ∀ outcome ∈ run.returned, ∀ failure, outcome.result = .error failure →
    outcome ∈ run.ended
  /-- Where a call returned a value, exactly one set-up succeeded, and it made this value. -/
  sharedValue : ∀ outcome ∈ run.returned, ∀ value, outcome.result = .ok value →
    FlowOutcome.successes run.ended outcome.cell = [value]
  /-- Removal by a value that was made only once removes the cell that it was made in or nothing. -/
  byIdentity : ∀ outcome ∈ run.returned, ∀ value, outcome.result = .ok value →
    (∀ other ∈ run.ended, other.result = .ok value → other.cell = outcome.cell) →
    ∀ key, run.table.removeIf key (decide <| · = value) =
      if run.table.entries.lookup key = some outcome.cell then (true, run.table.erase key)
      else (false, run.table)

/-- Over every run, values are shared by the calls of one cell, errors stay with the call they
belong to, and what is in the table leaves it only by a removal that was meant for it. -/
theorem run_lawful [DecidableEq Value] (steps : List (Step Key Value Failure)) :
    (after steps).Lawful := by
  have hrun := recorded_after steps
  generalize after steps = run at hrun
  have hleaves (step : Step Key Value Failure) (key : Key) (number : Nat)
      (hlookup : run.table.entries.lookup key = some number)
      (hafter : (run.apply step).table.entries.lookup key ≠ some number) :
      Evicts run.table step key number :=
    FlowTable.evicts_of_moves (run.table.moves step) hlookup hafter
  constructor
  case leaves => exact hleaves
  case valueLeaves =>
    intro step key value hvalue hafter
    obtain ⟨number, hlookup, hstored⟩ := FlowTable.get?_eq_some_iff.1 hvalue
    have hgone : (run.apply step).table.entries.lookup key ≠ some number := fun hstill =>
      hafter (FlowTable.get?_eq_some_iff.2 ⟨number, hstill,
        FlowTable.value?_moves hrun.wellFormed (run.table.moves step) hstored⟩)
    cases hleaves step key number hlookup hgone with
    | remove => exact .inl rfl
    | removeIf _ accept hother haccept =>
        rw [hstored] at hother
        cases hother
        exact .inr ⟨accept, rfl, haccept⟩
    | cleanUp _ _ hnone =>
        rw [hstored] at hnone
        cases hnone
  case once => exact hrun.once
  case ownError => exact hrun.errors
  case sharedValue =>
    intro outcome hmem value hresult
    rw [hrun.made, hrun.values outcome hmem value hresult]
    rfl
  case byIdentity =>
    intro outcome hmem value hresult hmade key
    have hiff : run.table.get? key = some value ↔
        run.table.entries.lookup key = some outcome.cell := by
      rw [FlowTable.get?_eq_some_iff]
      constructor
      · rintro ⟨number, hlookup, hstored⟩
        have hvalue : value ∈ FlowOutcome.successes run.ended number := by
          rw [hrun.made, hstored]
          exact List.mem_singleton_self value
        obtain ⟨other, hother, hcell, hsame⟩ := FlowOutcome.mem_successes.1 hvalue
        rw [hlookup, ← hcell, hmade other hother hsame]
      · exact fun hlookup => ⟨_, hlookup, hrun.values outcome hmem value hresult⟩
    have hany : (run.table.get? key).any (decide <| · = value) = true ↔
        run.table.get? key = some value := by
      cases run.table.get? key <;> simp
    rw [FlowTable.removeIf]
    exact if_congr (hany.trans hiff) rfl rfl

end FlowRun

end PortalNat
