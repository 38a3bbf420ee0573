import Mathlib.Data.Set.Card
import PortalNat.Proofs.Flow.SingleFlight

/-!
# Keys that are left without a value

A key gets its cell before it gets its value. A call whose set-up fails takes the key away again,
but a call that is given up does not, even if no other call is left at the cell. Then the key stands
in the table without a value and without anybody who could set it up, until a call comes for it or
it is removed. The main statement says that there is no other way to this, and counts the keys
accordingly.
-/

namespace PortalNat

namespace FlowTable

variable {Key Value Failure : Type}

/-- The keys of a table, with those whose value is still being set up. -/
def keys (table : FlowTable Key Value Failure) : List Key :=
  table.entries.map (·.1)

def Quiet (table : FlowTable Key Value Failure) (key : Key) : Prop :=
  ∀ call ∈ table.calls, call.key ≠ key

/-- A step by which a call comes for a key, or the key is removed. -/
def Step.Tends (key : Key) : Step Key Value Failure → Prop
  | .arrive other | .remove other => other = key
  | _ => False

variable [DecidableEq Key]

/-- A key leads to a cell without a value at which there is no call. -/
def Dead (table : FlowTable Key Value Failure) (key : Key) : Prop :=
  ∃ number, table.entries.lookup key = some number ∧ (table.cell number).value? = none ∧
    ∀ call ∈ table.calls, call.cell ≠ number

/-- The call of this number can be given up, and it is the only one at the cell of a key, which has
no value. -/
def Deserts (table : FlowTable Key Value Failure) (id : Nat) (key : Key) : Prop :=
  ∃ call ∈ table.calls, call.id = id ∧ call.phase.Pending ∧
    table.entries.lookup key = some call.cell ∧ (table.cell call.cell).value? = none ∧
    ∀ other ∈ table.calls, other.cell = call.cell → other = call

/-! ## Keys -/

theorem mem_keys_iff {table : FlowTable Key Value Failure} {key : Key} :
    key ∈ table.keys ↔ ∃ number, table.entries.lookup key = some number := by
  rw [← Option.isSome_iff_exists, List.lookup_isSome_iff, keys, List.mem_map]
  exact exists_congr fun entry => and_congr_right fun _ => eq_comm.trans beq_iff_eq.symm

section

variable {table after : FlowTable Key Value Failure} {step : Step Key Value Failure}
  {ended? returned? : Option (FlowOutcome Key Value Failure)}

theorem nodup_keys_erase (hnodup : table.keys.Nodup) (key : Key) : (table.erase key).keys.Nodup :=
  hnodup.sublist (List.filter_sublist.map _)

theorem nodup_keys_enter (hnodup : table.keys.Nodup) (key : Key) :
    (table.enter key).2.keys.Nodup := by
  cases hlookup : table.entries.lookup key with
  | some number =>
      rw [table.enter_of_some hlookup]
      exact hnodup
  | none =>
      have hnew : key ∉ table.keys := by
        rw [mem_keys_iff, hlookup]
        rintro ⟨number, hnumber⟩
        cases hnumber
      rw [table.enter_of_none hlookup]
      exact List.nodup_cons.2 ⟨hnew, hnodup⟩

/-- No key stands in the table twice. -/
theorem nodup_keys_moves (hmoves : Moves table step ended? returned? after)
    (hnodup : table.keys.Nodup) : after.keys.Nodup := by
  cases hmoves with
  | arrive key => exact nodup_keys_enter hnodup key
  | @cleanUp call =>
      change (table.eraseCell call.key call.cell).keys.Nodup
      unfold eraseCell
      split_ifs
      · exact nodup_keys_erase hnodup call.key
      · exact hnodup
  | remove key => exact nodup_keys_erase hnodup key
  | removeIf => exact nodup_keys_erase hnodup _
  | _ => exact hnodup

/-! ## Steps -/

variable (hwell : table.WellFormed)
include hwell

/-- A call in flight stays at its cell until it returns or is given up. -/
theorem stays_moves (hmoves : Moves table step ended? returned? after)
    {call : FlowCall Key Failure} (hcall : call ∈ table.calls) :
    (∃ kept ∈ after.calls, kept.cell = call.cell) ∨
      (∃ result, returned? = some (call.outcome result)) ∨
        step = .abandon call.id ∧ call.phase.Pending := by
  have hforgets {other : FlowCall Key Failure} (hother : other ∈ table.calls) :
      (call ∈ table.calls ∧ call.id ≠ other.id) ∨ call = other := by
    by_cases hid : call.id = other.id
    · exact .inr (hwell.call_eq hother hcall hid)
    · exact .inl ⟨hcall, hid⟩
  have hturns {other : FlowCall Key Failure} (hother : other ∈ table.calls)
      (change : FlowCell Value → FlowCell Value) (phase : FlowPhase Failure) :
      ∃ kept ∈ (table.turn other change (some phase)).calls, kept.cell = call.cell := by
    rcases hforgets hother with hstays | rfl
    · exact ⟨call, (mem_turn hwell hother _ _).2 (.inl hstays), rfl⟩
    · exact ⟨_, (mem_turn hwell hother _ _).2 (.inr ⟨phase, rfl, rfl⟩), rfl⟩
  cases hmoves with
  | idle => exact .inl ⟨call, hcall, rfl⟩
  | arrive key =>
      rw [arrive_eq]
      exact .inl ⟨call, List.mem_append_left _ hcall, rfl⟩
  | join hother => exact .inl (hturns hother _ _)
  | @found other value hother hphase hvalue =>
      rcases hforgets hother with hstays | rfl
      · exact .inl ⟨call, (mem_forget _).2 hstays, rfl⟩
      · exact .inr (.inl ⟨_, rfl⟩)
  | start hother =>
      have hkept := hturns hother (fun cell => cell) .running
      rw [turn, modifyCell_id] at hkept
      exact .inl hkept
  | succeed value hother =>
      rcases hforgets hother with hstays | rfl
      · exact .inl ⟨call, (mem_forget _).2 hstays, rfl⟩
      · exact .inr (.inl ⟨_, rfl⟩)
  | fail failure hother => exact .inl (hturns hother _ _)
  | @cleanUp other failure hother hphase =>
      have hcalls : (table.eraseCell other.key other.cell).calls = table.calls := by
        unfold eraseCell
        split_ifs <;> rfl
      rcases hforgets hother with hstays | rfl
      · exact .inl ⟨call, (mem_forget _).2 (by rw [hcalls]; exact hstays), rfl⟩
      · exact .inr (.inl ⟨_, rfl⟩)
  | abandon hother hphase =>
      rcases hforgets hother with hstays | rfl
      · exact .inl ⟨call, (mem_forget _).2 hstays, rfl⟩
      · exact .inr (.inr ⟨rfl, hphase⟩)
  | remove => exact .inl ⟨call, hcall, rfl⟩
  | removeIf => exact .inl ⟨call, hcall, rfl⟩

/-- A call that is given up leaves its key as it is. -/
theorem dead_abandon {id : Nat} {key : Key} (hdeserts : table.Deserts id key) :
    (table.abandon id).Dead key := by
  obtain ⟨call, hcall, rfl, hpending, hlookup, hvalue, halone⟩ := hdeserts
  have habandon : table.abandon call.id = table.turn call (·.leave call.id) none := by
    rw [abandon, hwell.call? hcall]
    cases hphase : call.phase with
    | failed failure =>
        rw [hphase] at hpending
        exact hpending.elim
    | _ => simp only [hphase, turn]
  rw [habandon]
  refine ⟨call.cell, hlookup, ?_, ?_⟩
  · rw [value?_turn hwell hcall _ (fun cell => cell.value?_leave call.id), hvalue]
  · intro other hother hcell
    rcases (mem_turn hwell hcall _ none).1 hother with ⟨hold, hid⟩ | ⟨_, ⟨⟩, -⟩
    exact hid (by rw [halone other hold hcell])

variable (hunique : ∀ number key other, table.Serves number key → table.Serves number other →
  key = other)
include hunique

/-- A key without a value and without calls stays so unless someone tends to it. -/
theorem Dead.moves {key : Key} (hdead : table.Dead key)
    (hmoves : Moves table step ended? returned? after) (htends : ¬step.Tends key) :
    after.Dead key := by
  obtain ⟨number, hlookup, hvalue, hcalls⟩ := hdead
  refine ⟨number, ?_, ?_, ?_⟩
  · by_contra hgone
    cases evicts_of_moves hmoves hlookup hgone with
    | remove => exact htends rfl
    | removeIf _ _ hsome =>
        rw [hvalue] at hsome
        cases hsome
    | cleanUp hcall => exact hcalls _ hcall rfl
  · have hvalues := values_moves hwell hmoves number
    rw [hvalue, Option.toList_none, List.nil_append] at hvalues
    -- Only a call at the cell could give it a value.
    have hnone : FlowOutcome.successes ended?.toList number = [] := by
      rw [List.eq_nil_iff_forall_not_mem]
      intro value hmade
      obtain ⟨outcome, hended, hcell, -⟩ := FlowOutcome.mem_successes.1 hmade
      cases hmoves with
      | succeed _ hcall =>
          rw [List.mem_singleton.1 hended] at hcell
          exact hcalls _ hcall hcell
      | fail _ hcall =>
          rw [List.mem_singleton.1 hended] at hcell
          exact hcalls _ hcall hcell
      | _ => cases hended
    rw [hnone] at hvalues
    exact Option.toList_eq_nil_iff.1 hvalues
  · intro call hcall hcell
    rcases calls_moves hwell hmoves hcall with
      ⟨hold, -⟩ | ⟨rfl, hnew, -⟩ | ⟨former, hformer, hsame, -⟩
    · exact hcalls call hold hcell
    · -- A newcomer for another key has another cell.
      have hentered : (table.enter call.key).1 = number := by
        rw [← hcell, hnew]
      have hserves : table.Serves (table.enter call.key).1 key := by
        rw [hentered]
        exact .inl hlookup
      exact htends (hunique _ _ _ (serves_enter hwell hserves) hserves)
    · exact hcalls former hformer (by rw [← hcell, hsame])

/-- As a call returns, its cell has a value or no key leads there. -/
theorem value?_of_returned (hmoves : Moves table step ended? returned? after)
    {call : FlowCall Key Failure} (hcall : call ∈ table.calls) {result : Except Failure Value}
    (hreturned : returned? = some (call.outcome result)) {key : Key}
    (hlookup : after.entries.lookup key = some call.cell) :
    ∃ value, (after.cell call.cell).value? = some value := by
  have hsame {other : FlowCall Key Failure} {own : Except Failure Value}
      (hother : other ∈ table.calls) (houtcome : some (other.outcome own) = returned?) :
      call = other := by
    rw [hreturned] at houtcome
    exact hwell.call_eq hother hcall (congrArg (·.call) (Option.some.inj houtcome)).symm
  cases hmoves with
  | found hother hphase hvalue =>
      obtain rfl := hsame hother rfl
      exact ⟨_, hvalue⟩
  | succeed value hother =>
      obtain rfl := hsame hother rfl
      exact ⟨value, value?_fill hwell hcall value⟩
  | cleanUp hother =>
      obtain rfl := hsame hother rfl
      change (table.eraseCell call.key call.cell).entries.lookup key = _ at hlookup
      change ∃ value, ((table.eraseCell call.key call.cell).cell call.cell).value? = some value
      unfold eraseCell at hlookup ⊢
      split_ifs at hlookup ⊢ with herase
      · obtain ⟨hleads, -⟩ := herase
        have hformer := lookup_of_lookup_erase hlookup
        rw [hunique call.cell key call.key (.inl hformer) (.inl hleads), lookup_erase,
          if_pos rfl] at hlookup
        cases hlookup
      · have hkey := hunique call.cell key call.key (.inl hlookup) (.inr ⟨call, hcall, rfl, rfl⟩)
        rw [hkey] at hlookup
        rw [not_and, Option.isNone_iff_eq_none] at herase
        exact Option.ne_none_iff_exists'.1 (herase hlookup)
  | _ => cases hreturned

/-- A key that nobody tends to comes to be without a value and without calls only as the last call
at its cell is given up. -/
theorem Dead.of_moves {key : Key} (hdead : after.Dead key)
    (hmoves : Moves table step ended? returned? after) (htends : ¬step.Tends key) :
    table.Dead key ∨ ∃ id, step = .abandon id ∧ table.Deserts id key := by
  obtain ⟨number, hlookup, hvalue, hcalls⟩ := hdead
  have hformer : table.entries.lookup key = some number := by
    rcases lookup_moves hmoves hlookup with hformer | ⟨rfl, -⟩
    · exact hformer
    · exact absurd rfl htends
  have hempty : (table.cell number).value? = none := by
    by_contra hsome
    obtain ⟨value, hstored⟩ := Option.ne_none_iff_exists'.1 hsome
    rw [value?_moves hwell hmoves hstored] at hvalue
    cases hvalue
  -- Whoever was at the cell has left it, and has not returned.
  have hgiven (call : FlowCall Key Failure) (hcall : call ∈ table.calls)
      (hcell : call.cell = number) : step = .abandon call.id ∧ call.phase.Pending := by
    subst hcell
    rcases stays_moves hwell hmoves hcall with ⟨kept, hkept, hsame⟩ | ⟨result, hreturned⟩ | hgiven
    · exact absurd hsame (hcalls kept hkept)
    · obtain ⟨value, hstored⟩ :=
        value?_of_returned hwell hunique hmoves hcall hreturned hlookup
      rw [hstored] at hvalue
      cases hvalue
    · exact hgiven
  by_cases hany : ∃ call ∈ table.calls, call.cell = number
  · obtain ⟨call, hcall, rfl⟩ := hany
    obtain ⟨hstep, hpending⟩ := hgiven call hcall rfl
    refine .inr ⟨call.id, hstep, call, hcall, rfl, hpending, hformer, hempty, ?_⟩
    intro other hother hcell
    have hid : Step.abandon call.id = .abandon other.id :=
      hstep.symm.trans (hgiven other hother hcell).1
    exact hwell.call_eq hcall hother (Step.abandon.inj hid).symm
  · push Not at hany
    exact .inl ⟨number, hformer, hempty, hany⟩

end

/-- Someone who tends to a key leaves a call for it or no such key. -/
theorem not_dead_of_tends (table : FlowTable Key Value Failure) {step : Step Key Value Failure}
    {key : Key} (htends : step.Tends key) : ¬(step.perform table).2.Dead key := by
  rintro ⟨number, hlookup, -, hcalls⟩
  cases step with
  | arrive other =>
      obtain rfl : other = key := htends
      change (table.enter other).2.entries.lookup other = _ at hlookup
      rw [lookup_enter, if_pos rfl, Option.some.injEq] at hlookup
      refine hcalls ⟨table.nextCall, other, _, .entering⟩ ?_ hlookup
      rw [show (Step.perform table (.arrive other)).2 = (table.arrive other).2 from rfl, arrive_eq]
      exact List.mem_append_right _ (List.mem_singleton_self _)
  | remove other =>
      obtain rfl : other = key := htends
      change (table.erase other).entries.lookup other = _ at hlookup
      rw [lookup_erase, if_pos rfl] at hlookup
      cases hlookup
  | _ => exact htends

/-- A key is without a value while no call for it is in flight exactly when it leads to a cell
without a value and without calls. -/
theorem dead_iff {table : FlowTable Key Value Failure} {key : Key}
    (hunique : ∀ number key other, table.Serves number key → table.Serves number other →
      key = other) (hquiet : table.Quiet key) :
    table.Dead key ↔ key ∈ table.keys ∧ table.get? key = none := by
  constructor
  · rintro ⟨number, hlookup, hvalue, -⟩
    refine ⟨mem_keys_iff.2 ⟨number, hlookup⟩, ?_⟩
    rw [get?, hlookup]
    exact hvalue
  · rintro ⟨hkey, hvalue⟩
    obtain ⟨number, hlookup⟩ := mem_keys_iff.1 hkey
    rw [get?, hlookup] at hvalue
    refine ⟨number, hlookup, hvalue, fun call hcall hcell => hquiet call hcall ?_⟩
    exact hunique number call.key key (.inr ⟨call, hcall, rfl, hcell⟩) (.inl hlookup)

end FlowTable

/-! ## Runs -/

namespace FlowRun

open FlowTable (Step Moves)

variable {Key Value Failure : Type} [DecidableEq Key]

/-- The last call at the cell of a key without a value was given up, and nobody has tended to the
key since. -/
def Deserted (steps : List (Step Key Value Failure)) (key : Key) : Prop :=
  ∃ earlier id later, steps = earlier ++ .abandon id :: later ∧
    (after earlier).table.Deserts id key ∧ ∀ step ∈ later, ¬step.Tends key

theorem deserted_concat {steps : List (Step Key Value Failure)} {step : Step Key Value Failure}
    {key : Key} :
    Deserted (steps ++ [step]) key ↔
      (Deserted steps key ∧ ¬step.Tends key) ∨
        ∃ id, step = .abandon id ∧ (after steps).table.Deserts id key := by
  constructor
  · rintro ⟨earlier, id, later, hsteps, hdeserts, htends⟩
    rcases List.eq_nil_or_concat later with rfl | ⟨later, last, rfl⟩
    · obtain ⟨rfl, hlast⟩ := List.append_inj' hsteps rfl
      exact .inr ⟨id, (List.cons.inj hlast).1, hdeserts⟩
    · rw [List.concat_eq_append, ← List.cons_append, ← List.append_assoc] at hsteps
      obtain ⟨rfl, hlast⟩ := List.append_inj' hsteps rfl
      obtain ⟨rfl, -⟩ := List.cons.inj hlast
      refine .inl ⟨⟨earlier, id, later, rfl, hdeserts, ?_⟩, htends step (by simp)⟩
      exact fun other hother => htends other (by simp [hother])
  · rintro (⟨⟨earlier, id, later, rfl, hdeserts, htends⟩, hstep⟩ | ⟨id, rfl, hdeserts⟩)
    · refine ⟨earlier, id, later ++ [step], by simp, hdeserts, ?_⟩
      intro other hother
      rcases List.mem_append.1 hother with hlater | hlast
      · exact htends other hlater
      · rw [List.mem_singleton.1 hlast]
        exact hstep
    · exact ⟨steps, id, [], rfl, hdeserts, by simp⟩

/-- A key leads to a cell without a value and without calls exactly when it was deserted. -/
theorem dead_iff_deserted (steps : List (Step Key Value Failure)) (key : Key) :
    (after steps).table.Dead key ↔ Deserted steps key := by
  induction steps using List.reverseRecOn with
  | nil =>
      constructor
      · rintro ⟨number, hlookup, -⟩
        cases hlookup
      · rintro ⟨earlier, id, later, hsteps, -⟩
        simp at hsteps
  | append_singleton steps step ih =>
      have hwell := wellFormed_after steps
      have hunique := serves_unique steps
      have hmoves := (after steps).table.moves step
      have happly : (after (steps ++ [step])).table = (step.perform (after steps).table).2 := by
        rw [after_append]
        rfl
      rw [deserted_concat, ← ih, happly]
      constructor
      · intro hdead
        have htends : ¬step.Tends key := fun htends =>
          (after steps).table.not_dead_of_tends htends hdead
        rcases hdead.of_moves hwell hunique hmoves htends with hformer | hdeserts
        · exact .inl ⟨hformer, htends⟩
        · exact .inr hdeserts
      · rintro (⟨hformer, htends⟩ | ⟨id, rfl, hdeserts⟩)
        · exact hformer.moves hwell hunique hmoves htends
        · exact FlowTable.dead_abandon hwell hdeserts

theorem nodup_keys_after (steps : List (Step Key Value Failure)) :
    (after steps).table.keys.Nodup :=
  after_induction (motive := fun run => run.table.keys.Nodup) List.nodup_nil
    (fun run step hnodup => FlowTable.nodup_keys_moves (run.table.moves step) hnodup) steps

/-- What becomes of the keys over a run. -/
structure Accounted (steps : List (Step Key Value Failure)) : Prop where
  /-- While no call for a key is in flight, the key is without a value exactly when the last call
  that could set it up was given up and nobody has tended to it since. -/
  quiet : ∀ key, (after steps).table.Quiet key →
    (key ∈ (after steps).table.keys ∧ (after steps).table.get? key = none ↔ Deserted steps key)
  /-- Once no call is in flight, the keys with a value and the deserted ones make up the size. -/
  size : (after steps).table.calls = [] →
    (after steps).table.size =
      {key | ∃ value, (after steps).table.get? key = some value}.ncard +
        {key | Deserted steps key}.ncard

/-- Over every run, a key that is at rest has a value unless it was deserted, so that the size
counts the values and the deserted keys. -/
theorem accounted (steps : List (Step Key Value Failure)) : Accounted steps := by
  have hquiet (key : Key) (hrest : (after steps).table.Quiet key) :
      key ∈ (after steps).table.keys ∧ (after steps).table.get? key = none ↔
        Deserted steps key :=
    (FlowTable.dead_iff (serves_unique steps) hrest).symm.trans (dead_iff_deserted steps key)
  refine ⟨hquiet, fun hcalls => ?_⟩
  have hrest (key : Key) : (after steps).table.Quiet key := by
    intro call hcall
    rw [hcalls] at hcall
    cases hcall
  let valued : Set Key := {key | ∃ value, (after steps).table.get? key = some value}
  let deserted : Set Key := {key | Deserted steps key}
  have hkeys : ((after steps).table.keys.toFinset : Set Key) = valued ∪ deserted := by
    ext key
    rw [List.coe_toFinset]
    constructor
    · intro hkey
      rcases hvalue : (after steps).table.get? key with _ | value
      · exact .inr ((hquiet key (hrest key)).1 ⟨hkey, hvalue⟩)
      · exact .inl ⟨value, hvalue⟩
    · rintro (⟨value, hvalue⟩ | hdeserted)
      · obtain ⟨number, hlookup, -⟩ := FlowTable.get?_eq_some_iff.1 hvalue
        exact FlowTable.mem_keys_iff.2 ⟨number, hlookup⟩
      · exact ((hquiet key (hrest key)).2 hdeserted).1
  have hdisjoint : Disjoint valued deserted := by
    rw [Set.disjoint_left]
    rintro key ⟨value, hvalue⟩ hdeserted
    rw [((hquiet key (hrest key)).2 hdeserted).2] at hvalue
    cases hvalue
  have hfinite : (valued ∪ deserted).Finite := by
    rw [← hkeys]
    exact Finset.finite_toSet _
  calc (after steps).table.size
      = (after steps).table.keys.length := (List.length_map _).symm
    _ = (after steps).table.keys.toFinset.card :=
        (List.toFinset_card_of_nodup (nodup_keys_after steps)).symm
    _ = (valued ∪ deserted).ncard := by rw [← hkeys, Set.ncard_coe_finset]
    _ = valued.ncard + deserted.ncard :=
        Set.ncard_union_eq hdisjoint (hfinite.subset Set.subset_union_left)
          (hfinite.subset Set.subset_union_right)

/-- A call that is given up while its set-up runs. -/
def givenUp : List (Step Nat Nat String) :=
  [.arrive 53, .join 0, .resume 0, .abandon 0]

/-- No call is in flight any more and no key has a value, but the one that was given up counts as a
key. -/
theorem givenUp_stays :
    (after givenUp).table.calls = [] ∧ (after givenUp).table.keys = [53] ∧
      (after givenUp).table.size = 1 ∧ (∀ key, (after givenUp).table.get? key = none) ∧
      ¬∀ steps : List (Step Nat Nat String), ∀ key, (after steps).table.Quiet key →
        key ∈ (after steps).table.keys → ∃ value, (after steps).table.get? key = some value := by
  have hcalls : (after givenUp).table.calls = [] := rfl
  have hcell (number : Nat) : ((after givenUp).table.cell number).value? = none := by
    cases number <;> rfl
  have hnone (key : Nat) : (after givenUp).table.get? key = none := by
    rw [Option.eq_none_iff_forall_ne_some]
    intro value hvalue
    obtain ⟨number, -, hstored⟩ := FlowTable.get?_eq_some_iff.1 hvalue
    rw [hcell number] at hstored
    cases hstored
  refine ⟨hcalls, rfl, rfl, hnone, fun hvalued => ?_⟩
  obtain ⟨value, hvalue⟩ := hvalued givenUp 53 (by simp [FlowTable.Quiet, hcalls])
    (List.mem_singleton_self 53)
  rw [hnone 53] at hvalue
  cases hvalue

end FlowRun

end PortalNat
