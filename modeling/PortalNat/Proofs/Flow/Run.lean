import Mathlib.Tactic
import PortalNat.Flow.Table

/-!
# Runs of a flow table

The calls on a flow table take their steps in any order, while keys are removed and calls are given
up. This module says once what a step can do: what has to be the case for it, which set-up it ends,
which call it lets return, and what it leaves. The laws of whole runs are drawn from this.
-/

namespace PortalNat

structure FlowOutcome (Key Value Failure : Type) where
  call : Nat
  key : Key
  cell : Nat
  result : Except Failure Value

def FlowCall.outcome {Key Value Failure : Type} (call : FlowCall Key Failure)
    (result : Except Failure Value) : FlowOutcome Key Value Failure :=
  ⟨call.id, call.key, call.cell, result⟩

def FlowPhase.Pending {Failure : Type} : FlowPhase Failure → Prop
  | .entering | .queued | .running => True
  | .failed _ => False

namespace FlowTable

variable {Key Value Failure : Type}

/-! ## Looking things up -/

section

variable (table : FlowTable Key Value Failure)

theorem cell_modifyCell (number other : Nat) (change : FlowCell Value → FlowCell Value) :
    (table.modifyCell number change).cell other =
      if other = number ∧ other < table.cells.length then change (table.cell other)
      else table.cell other := by
  simp only [cell, modifyCell, List.getD_eq_getElem?_getD, List.getElem?_modify]
  by_cases hbelow : other < table.cells.length
  · by_cases hsame : number = other <;> simp [hbelow, hsame, eq_comm]
  · simp [hbelow]

theorem mem_setPhase {id : Nat} {phase : FlowPhase Failure} {call : FlowCall Key Failure} :
    call ∈ (table.setPhase id phase).calls ↔
      (call ∈ table.calls ∧ call.id ≠ id) ∨
        ∃ former ∈ table.calls, former.id = id ∧ call = { former with phase } := by
  simp only [setPhase, List.mem_map]
  constructor
  · rintro ⟨former, hformer, rfl⟩
    by_cases hid : former.id = id
    · exact .inr ⟨former, hformer, hid, if_pos hid⟩
    · rw [if_neg hid]
      exact .inl ⟨hformer, hid⟩
  · rintro (⟨hcall, hid⟩ | ⟨former, hformer, hid, rfl⟩)
    · exact ⟨call, hcall, if_neg hid⟩
    · exact ⟨former, hformer, if_pos hid⟩

theorem mem_forget {id : Nat} {call : FlowCall Key Failure} :
    call ∈ (table.forget id).calls ↔ call ∈ table.calls ∧ call.id ≠ id := by
  simp [forget, List.mem_filter, bne_iff_ne]

theorem mem_of_call? {id : Nat} {call : FlowCall Key Failure} (hcall : table.call? id = some call) :
    call ∈ table.calls ∧ call.id = id :=
  ⟨List.mem_of_find?_eq_some hcall, by simpa using List.find?_some hcall⟩

variable [DecidableEq Key]

theorem lookup_erase (key other : Key) :
    (table.erase key).entries.lookup other =
      if other = key then none else table.entries.lookup other := by
  change (table.entries.filter _).lookup other = _
  induction table.entries with
  | nil => simp
  | cons entry entries ih =>
      rcases entry with ⟨stored, number⟩
      by_cases hstored : stored = key
      · subst hstored
        rw [List.filter_cons_of_neg (by simp), ih, List.lookup_cons]
        by_cases hother : other = stored
        · simp [hother]
        · simp [hother, beq_eq_false_iff_ne.2 hother]
      · rw [List.filter_cons_of_pos (by simpa using hstored), List.lookup_cons, List.lookup_cons,
          ih]
        by_cases hother : other = stored
        · subst hother
          simp [hstored]
        · rw [beq_eq_false_iff_ne.2 hother]

theorem enter_of_some {key : Key} {number : Nat}
    (hlookup : table.entries.lookup key = some number) : table.enter key = (number, table) := by
  rw [enter, hlookup]

theorem enter_of_none {key : Key} (hlookup : table.entries.lookup key = none) :
    table.enter key = (table.cells.length,
      { table with
        entries := (key, table.cells.length) :: table.entries
        cells := table.cells ++ [{}] }) := by
  rw [enter, hlookup]

/-- A cell that is new looks as if it had been there. -/
theorem cell_enter (key : Key) : (table.enter key).2.cell = table.cell := by
  cases hlookup : table.entries.lookup key with
  | some number => rw [table.enter_of_some hlookup]
  | none =>
      rw [table.enter_of_none hlookup]
      funext number
      simp only [cell, List.getD_eq_getElem?_getD, List.getElem?_append]
      split_ifs with hbelow
      · rfl
      · rw [List.getElem?_eq_none (Nat.le_of_not_lt hbelow)]
        cases number - table.cells.length <;> simp

theorem calls_enter (key : Key) : (table.enter key).2.calls = table.calls := by
  unfold enter
  split <;> rfl

theorem nextCall_enter (key : Key) : (table.enter key).2.nextCall = table.nextCall := by
  unfold enter
  split <;> rfl

theorem length_cells_enter (key : Key) :
    table.cells.length ≤ (table.enter key).2.cells.length := by
  unfold enter
  split <;> simp

theorem lookup_enter (key other : Key) :
    (table.enter key).2.entries.lookup other =
      if other = key then some (table.enter key).1 else table.entries.lookup other := by
  cases hlookup : table.entries.lookup key with
  | some number =>
      rw [table.enter_of_some hlookup]
      split_ifs with hother
      · rw [hother, hlookup]
      · rfl
  | none =>
      rw [table.enter_of_none hlookup, List.lookup_cons]
      split_ifs with hother
      · rw [hother, beq_self_eq_true]
      · rw [beq_eq_false_iff_ne.2 hother]

end

/-! ## Steps -/

/-- What can happen to a flow table at one stroke. Looking a value up changes nothing and may come
in between any two steps. -/
inductive Step (Key Value Failure : Type) where
  | arrive (key : Key)
  | join (id : Nat)
  | resume (id : Nat)
  | endSetUp (id : Nat) (result : Except Failure Value)
  | cleanUp (id : Nat)
  | abandon (id : Nat)
  | remove (key : Key)
  | removeIf (key : Key) (accept : Value → Bool)

def Step.ended? (table : FlowTable Key Value Failure) :
    Step Key Value Failure → Option (FlowOutcome Key Value Failure)
  | .endSetUp id result =>
    match table.call? id with
    | none => none
    | some call =>
      match call.phase with
      | .running => some (call.outcome result)
      | _ => none
  | _ => none

/-- What a call returned by an event. -/
def returned? (table : FlowTable Key Value Failure) :
    Option (FlowEvent Value Failure) → Option (FlowOutcome Key Value Failure)
  | some (.done id result) => (table.call? id).map (·.outcome result)
  | _ => none

variable [DecidableEq Key]

def Step.perform (table : FlowTable Key Value Failure) :
    Step Key Value Failure → Option (FlowEvent Value Failure) × FlowTable Key Value Failure
  | .arrive key => (none, (table.arrive key).2)
  | .join id => (none, table.join id)
  | .resume id => table.resume id
  | .endSetUp id result => table.endSetUp id result
  | .cleanUp id => table.cleanUp id
  | .abandon id => (none, table.abandon id)
  | .remove key => (none, (table.remove key).2)
  | .removeIf key accept => (none, (table.removeIf key accept).2)

/-- The steps that do something: what has to be the case for them, the set-up they end, the call
that returns, and what they leave. -/
inductive Moves (table : FlowTable Key Value Failure) : Step Key Value Failure →
    Option (FlowOutcome Key Value Failure) → Option (FlowOutcome Key Value Failure) →
    FlowTable Key Value Failure → Prop
  | idle (step : Step Key Value Failure) : Moves table step none none table
  | arrive (key : Key) : Moves table (.arrive key) none none (table.arrive key).2
  | join {call : FlowCall Key Failure} (hcall : call ∈ table.calls)
      (hphase : call.phase = .entering) :
      Moves table (.join call.id) none none
        ((table.modifyCell call.cell (·.join call.id)).setPhase call.id .queued)
  | found {call : FlowCall Key Failure} {value : Value} (hcall : call ∈ table.calls)
      (hphase : call.phase = .queued) (hvalue : (table.cell call.cell).value? = some value) :
      Moves table (.resume call.id) none (some (call.outcome (.ok value))) (table.forget call.id)
  | start {call : FlowCall Key Failure} (hcall : call ∈ table.calls) (hphase : call.phase = .queued)
      (hvalue : (table.cell call.cell).value? = none)
      (hholder : (table.cell call.cell).holder? = some call.id) :
      Moves table (.resume call.id) none none (table.setPhase call.id .running)
  | succeed {call : FlowCall Key Failure} (value : Value) (hcall : call ∈ table.calls)
      (hphase : call.phase = .running) :
      Moves table (.endSetUp call.id (.ok value)) (some (call.outcome (.ok value)))
        (some (call.outcome (.ok value)))
        ((table.modifyCell call.cell fun _ => FlowCell.fill value).forget call.id)
  | fail {call : FlowCall Key Failure} (failure : Failure) (hcall : call ∈ table.calls)
      (hphase : call.phase = .running) :
      Moves table (.endSetUp call.id (.error failure)) (some (call.outcome (.error failure))) none
        ((table.modifyCell call.cell (·.release)).setPhase call.id (.failed failure))
  | cleanUp {call : FlowCall Key Failure} {failure : Failure} (hcall : call ∈ table.calls)
      (hphase : call.phase = .failed failure) :
      Moves table (.cleanUp call.id) none (some (call.outcome (.error failure)))
        ((table.eraseCell call.key call.cell).forget call.id)
  | abandon {call : FlowCall Key Failure} (hcall : call ∈ table.calls)
      (hphase : call.phase.Pending) :
      Moves table (.abandon call.id) none none
        ((table.modifyCell call.cell (·.leave call.id)).forget call.id)
  | remove (key : Key) : Moves table (.remove key) none none (table.erase key)
  | removeIf {key : Key} {accept : Value → Bool} {value : Value}
      (hvalue : table.get? key = some value) (haccept : accept value = true) :
      Moves table (.removeIf key accept) none none (table.erase key)

theorem moves (table : FlowTable Key Value Failure) (step : Step Key Value Failure) :
    Moves table step (step.ended? table) (table.returned? (step.perform table).1)
      (step.perform table).2 := by
  cases step with
  | arrive key => exact .arrive key
  | join id =>
      simp only [Step.ended?, Step.perform, FlowTable.join, returned?]
      cases hfound : table.call? id with
      | none => exact .idle _
      | some call =>
          obtain ⟨hcall, rfl⟩ := table.mem_of_call? hfound
          cases hphase : call.phase with
          | entering => simpa only [hphase] using Moves.join hcall hphase
          | _ => simpa only [hphase] using Moves.idle _
  | resume id =>
      simp only [Step.ended?, Step.perform, FlowTable.resume]
      cases hfound : table.call? id with
      | none => exact .idle _
      | some call =>
          obtain ⟨hcall, rfl⟩ := table.mem_of_call? hfound
          cases hphase : call.phase with
          | queued =>
              cases hvalue : (table.cell call.cell).value? with
              | some value =>
                  simpa only [hphase, hvalue, returned?, hfound, Option.map_some] using
                    Moves.found hcall hphase hvalue
              | none =>
                  simp only [hphase, hvalue]
                  split_ifs with hholder
                  · exact .start hcall hphase hvalue hholder
                  · exact .idle _
          | _ => simpa only [hphase, returned?] using Moves.idle _
  | endSetUp id result =>
      simp only [Step.ended?, Step.perform, FlowTable.endSetUp]
      cases hfound : table.call? id with
      | none => exact .idle _
      | some call =>
          obtain ⟨hcall, rfl⟩ := table.mem_of_call? hfound
          cases hphase : call.phase with
          | running =>
              cases result with
              | ok value =>
                  simpa only [hphase, returned?, hfound, Option.map_some] using
                    Moves.succeed value hcall hphase
              | error failure =>
                  simpa only [hphase, returned?] using Moves.fail failure hcall hphase
          | _ => simpa only [hphase, returned?] using Moves.idle _
  | cleanUp id =>
      simp only [Step.ended?, Step.perform, FlowTable.cleanUp]
      cases hfound : table.call? id with
      | none => exact .idle _
      | some call =>
          obtain ⟨hcall, rfl⟩ := table.mem_of_call? hfound
          cases hphase : call.phase with
          | failed failure =>
              simpa only [hphase, returned?, hfound, Option.map_some] using
                Moves.cleanUp hcall hphase
          | _ => simpa only [hphase, returned?] using Moves.idle _
  | abandon id =>
      simp only [Step.ended?, Step.perform, FlowTable.abandon, returned?]
      cases hfound : table.call? id with
      | none => exact .idle _
      | some call =>
          obtain ⟨hcall, rfl⟩ := table.mem_of_call? hfound
          cases hphase : call.phase with
          | failed failure => simpa only [hphase] using Moves.idle _
          | _ =>
              simpa only [hphase] using Moves.abandon hcall (by rw [hphase]; trivial)
  | remove key => exact .remove key
  | removeIf key accept =>
      simp only [Step.ended?, Step.perform, FlowTable.removeIf, returned?]
      split_ifs with haccepted
      · obtain ⟨value, hvalue, haccept⟩ := (Option.any_eq_true _ _).1 haccepted
        exact .removeIf hvalue haccept
      · exact .idle _

end FlowTable

/-! ## Runs -/

/-- A flow table with what has come of its calls so far, the oldest first. -/
structure FlowRun (Key Value Failure : Type) where
  table : FlowTable Key Value Failure := {}
  ended : List (FlowOutcome Key Value Failure) := []
  returned : List (FlowOutcome Key Value Failure) := []

namespace FlowRun

open FlowTable (Step Moves)

variable {Key Value Failure : Type} [DecidableEq Key]

def apply (run : FlowRun Key Value Failure) (step : Step Key Value Failure) :
    FlowRun Key Value Failure :=
  let (event?, table) := step.perform run.table
  { table
    ended := run.ended ++ (step.ended? run.table).toList
    returned := run.returned ++ (run.table.returned? event?).toList }

def further (run : FlowRun Key Value Failure) (steps : List (Step Key Value Failure)) :
    FlowRun Key Value Failure :=
  steps.foldl apply run

def after (steps : List (Step Key Value Failure)) : FlowRun Key Value Failure :=
  further {} steps

theorem further_append (run : FlowRun Key Value Failure)
    (earlier later : List (Step Key Value Failure)) :
    run.further (earlier ++ later) = (run.further earlier).further later :=
  List.foldl_append

theorem after_append (earlier later : List (Step Key Value Failure)) :
    after (earlier ++ later) = (after earlier).further later :=
  further_append {} earlier later

/-- What a step adds to a run. -/
theorem exists_moves (run : FlowRun Key Value Failure) (step : Step Key Value Failure) :
    ∃ ended? returned?, Moves run.table step ended? returned? (run.apply step).table ∧
      (run.apply step).ended = run.ended ++ ended?.toList ∧
      (run.apply step).returned = run.returned ++ returned?.toList :=
  ⟨_, _, run.table.moves step, rfl, rfl⟩

/-- What holds at the start and is kept by every step holds of every run. -/
theorem after_induction {motive : FlowRun Key Value Failure → Prop} (hstart : motive {})
    (hstep : ∀ run step, motive run → motive (run.apply step))
    (steps : List (Step Key Value Failure)) : motive (after steps) :=
  List.foldlRecOn steps apply hstart fun run hrun step _ => hstep run step hrun

end FlowRun

end PortalNat
