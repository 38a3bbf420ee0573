import PortalNat.Proofs.Flow.Run

/-!
# Order in a flow table

The calls that hold a cell or wait for it stand in one line, only the first of them can run its
set-up, and nobody stands at a cell that has its value. Every step keeps this, so that at most one
set-up runs on a cell at any time.
-/

namespace PortalNat

/-! ## Cells -/

namespace FlowCell

variable {Value : Type}

/-- The calls at a cell, the one that holds it first. -/
def line (cell : FlowCell Value) : List Nat :=
  cell.holder?.toList ++ cell.waiting

/-- A cell that is held if anyone waits, at which no call stands twice, and none once the value is
there. -/
structure Sound (cell : FlowCell Value) : Prop where
  held : cell.holder? = none → cell.waiting = []
  distinct : cell.line.Nodup
  settled : cell.value?.isSome → cell.line = []

variable {cell : FlowCell Value} {id : Nat}

theorem sound_empty : (({} : FlowCell Value)).Sound :=
  ⟨fun _ => rfl, List.nodup_nil, fun _ => rfl⟩

theorem join_of_value (hvalue : cell.value?.isSome) : cell.join id = cell := by
  rw [join, if_pos hvalue]

theorem value?_join (cell : FlowCell Value) (id : Nat) : (cell.join id).value? = cell.value? := by
  unfold join
  split_ifs <;> rfl

theorem line_join (hsound : cell.Sound) (hvalue : cell.value? = none) :
    (cell.join id).line = cell.line ++ [id] := by
  rw [join, if_neg (by simp [hvalue])]
  split_ifs with hholder
  · rw [Option.isNone_iff_eq_none] at hholder
    simp [line, hholder, hsound.held hholder]
  · simp [line]

theorem sound_join (hsound : cell.Sound) (hnew : id ∉ cell.line) : (cell.join id).Sound := by
  cases hvalue : cell.value? with
  | some value =>
      rw [join_of_value (by rw [hvalue]; rfl)]
      exact hsound
  | none =>
      refine ⟨?_, ?_, ?_⟩
      · intro hfree
        unfold join at hfree ⊢
        split_ifs at hfree with hset hholder
        · rw [hvalue] at hset
          cases hset
        · rw [hfree] at hholder
          exact absurd rfl hholder
      · rw [line_join hsound hvalue]
        exact hsound.distinct.append (List.nodup_singleton id) (by simpa using hnew)
      · rw [value?_join, hvalue]
        intro hset
        cases hset

theorem line_release (hsound : cell.Sound) : cell.release.line = cell.line.tail := by
  cases hholder : cell.holder? with
  | none => simp [line, release, hholder, hsound.held hholder]
  | some holder => cases hwaiting : cell.waiting <;> simp [line, release, hholder, hwaiting]

theorem sound_release (hsound : cell.Sound) : cell.release.Sound where
  held hfree := by
    cases hwaiting : cell.waiting with
    | nil => simp [release, hwaiting]
    | cons next waiting => simp [release, hwaiting] at hfree
  distinct := by
    rw [line_release hsound]
    exact hsound.distinct.tail
  settled hset := by
    rw [line_release hsound, hsound.settled hset, List.tail_nil]

theorem value?_of_mem_line (hsound : cell.Sound) (hmem : id ∈ cell.line) : cell.value? = none := by
  by_contra hvalue
  rw [hsound.settled (Option.isSome_iff_ne_none.2 hvalue)] at hmem
  cases hmem

theorem mem_line_join (hsound : cell.Sound) {other : Nat} :
    other ∈ (cell.join id).line ↔ cell.value? = none ∧ (other ∈ cell.line ∨ other = id) := by
  cases hvalue : cell.value? with
  | none => simp [line_join hsound hvalue]
  | some value =>
      have hset : cell.value?.isSome := by rw [hvalue]; rfl
      simp [join_of_value hset, hsound.settled hset]

theorem holder?_join {holder : Nat} (hholder : cell.holder? = some holder) :
    (cell.join id).holder? = some holder := by
  unfold join
  split_ifs with hset hfree
  · exact hholder
  · rw [hholder] at hfree
    cases hfree
  · exact hholder

theorem value?_leave (cell : FlowCell Value) (id : Nat) : (cell.leave id).value? = cell.value? := by
  unfold leave
  split_ifs <;> rfl

theorem line_leave (hsound : cell.Sound) : (cell.leave id).line = cell.line.erase id := by
  unfold leave
  split_ifs with hholder
  · rw [line_release hsound]
    simp [line, hholder]
  · cases hheld : cell.holder? with
    | none => simp [line, hheld]
    | some holder =>
        have hother : holder ≠ id := fun hsame => hholder (by rw [hheld, hsame])
        simp [line, hheld, hother]

theorem sound_leave (hsound : cell.Sound) : (cell.leave id).Sound := by
  refine ⟨?_, ?_, ?_⟩
  · unfold leave
    split_ifs with hholder
    · exact (sound_release hsound).held
    · intro hfree
      simp [hsound.held hfree]
  · rw [line_leave hsound]
    exact hsound.distinct.erase id
  · rw [value?_leave]
    intro hset
    rw [line_leave hsound, hsound.settled hset, List.erase_nil]

theorem mem_line_leave (hsound : cell.Sound) {other : Nat} :
    other ∈ (cell.leave id).line ↔ other ∈ cell.line ∧ other ≠ id := by
  rw [line_leave hsound, hsound.distinct.mem_erase_iff, and_comm]

theorem holder?_leave {holder : Nat} (hholder : cell.holder? = some holder) (hother : holder ≠ id) :
    (cell.leave id).holder? = some holder := by
  rw [leave, if_neg (by rw [hholder]; exact fun hsame => hother (Option.some.inj hsame))]
  exact hholder

theorem leave_of_holder (hholder : cell.holder? = some id) : cell.leave id = cell.release := by
  rw [leave, if_pos hholder]

theorem sound_fill (value : Value) : (fill value).Sound :=
  ⟨fun _ => rfl, List.nodup_nil, fun _ => rfl⟩

end FlowCell

/-! ## Tables -/

/-- A call of this phase stands at its cell, and nowhere else. -/
def FlowPhase.Stands {Failure : Type} : FlowPhase Failure → Prop
  | .queued | .running => True
  | .entering | .failed _ => False

namespace FlowTable

variable {Key Value Failure : Type} [DecidableEq Key]

/-- A table whose calls have numbers of their own and cells that exist. At each cell without a value
stand the calls that have reached for it and not left it, and a set-up runs only at the head of a
line. -/
structure WellFormed (table : FlowTable Key Value Failure) : Prop where
  distinct : (table.calls.map (·.id)).Nodup
  numbered : ∀ call ∈ table.calls, call.id < table.nextCall
  attached : ∀ call ∈ table.calls, call.cell < table.cells.length
  stored : ∀ key number, table.entries.lookup key = some number → number < table.cells.length
  sound : ∀ number, (table.cell number).Sound
  lined : ∀ number id, id ∈ (table.cell number).line ↔
    (table.cell number).value? = none ∧
      ∃ call ∈ table.calls, call.id = id ∧ call.cell = number ∧ call.phase.Stands
  runs : ∀ call ∈ table.calls, call.phase = .running →
    (table.cell call.cell).holder? = some call.id

/-- The table after a call has changed its cell and then gone into another phase or away. -/
def turn (table : FlowTable Key Value Failure) (call : FlowCall Key Failure)
    (change : FlowCell Value → FlowCell Value) (phase? : Option (FlowPhase Failure)) :
    FlowTable Key Value Failure :=
  match phase? with
  | some phase => (table.modifyCell call.cell change).setPhase call.id phase
  | none => (table.modifyCell call.cell change).forget call.id

omit [DecidableEq Key] in
theorem modifyCell_congr {table : FlowTable Key Value Failure} {number : Nat}
    {change other : FlowCell Value → FlowCell Value}
    (hsame : change (table.cell number) = other (table.cell number)) :
    table.modifyCell number change = table.modifyCell number other := by
  have hcells : table.cells.modify number change = table.cells.modify number other := by
    apply List.ext_getElem?
    intro place
    rw [List.getElem?_modify, List.getElem?_modify]
    by_cases hplace : number = place
    · subst hplace
      cases hstored : table.cells[number]? with
      | none => rfl
      | some stored =>
          have hcell : table.cell number = stored := by
            rw [cell, List.getD_eq_getElem?_getD, hstored, Option.getD_some]
          rw [hcell] at hsame
          simp [hsame]
    · simp [hplace]
  rw [modifyCell, modifyCell, hcells]

omit [DecidableEq Key] in
theorem modifyCell_id (table : FlowTable Key Value Failure) (number : Nat) :
    table.modifyCell number (fun cell => cell) = table := by
  have hcells : table.cells.modify number (fun cell => cell) = table.cells := by
    apply List.ext_getElem?
    intro place
    simp [List.getElem?_modify]
  rw [modifyCell, hcells]

section

variable {table : FlowTable Key Value Failure} {call : FlowCall Key Failure}

/-- Calls with one number are one call. -/
theorem WellFormed.call_eq (hwell : table.WellFormed) {other : FlowCall Key Failure}
    (hcall : call ∈ table.calls) (hother : other ∈ table.calls) (hid : other.id = call.id) :
    other = call :=
  List.inj_on_of_nodup_map hwell.distinct hother hcall hid

theorem WellFormed.call? (hwell : table.WellFormed) (hcall : call ∈ table.calls) :
    table.call? call.id = some call := by
  cases hfound : table.call? call.id with
  | none =>
      have hnone := List.find?_eq_none.1 hfound call hcall
      simp at hnone
  | some other =>
      obtain ⟨hother, hid⟩ := table.mem_of_call? hfound
      rw [hwell.call_eq hcall hother hid]

theorem mem_turn (hwell : table.WellFormed) (hcall : call ∈ table.calls)
    (change : FlowCell Value → FlowCell Value) (phase? : Option (FlowPhase Failure))
    {other : FlowCall Key Failure} :
    other ∈ (table.turn call change phase?).calls ↔
      (other ∈ table.calls ∧ other.id ≠ call.id) ∨
        ∃ phase, phase? = some phase ∧ other = { call with phase } := by
  cases phase? with
  | none =>
      rw [turn, mem_forget]
      simp [modifyCell]
  | some phase =>
      rw [turn, mem_setPhase]
      refine or_congr Iff.rfl ⟨?_, ?_⟩
      · rintro ⟨former, hformer, hid, rfl⟩
        rw [hwell.call_eq hcall hformer hid]
        exact ⟨phase, rfl, rfl⟩
      · rintro ⟨_, ⟨⟩, rfl⟩
        exact ⟨call, hcall, rfl, rfl⟩

theorem cell_turn (hwell : table.WellFormed) (hcall : call ∈ table.calls)
    (change : FlowCell Value → FlowCell Value) (phase? : Option (FlowPhase Failure))
    (number : Nat) :
    (table.turn call change phase?).cell number =
      if number = call.cell then change (table.cell number) else table.cell number := by
  have hcell : (table.turn call change phase?).cell number =
      (table.modifyCell call.cell change).cell number := by
    cases phase? <;> rfl
  rw [hcell, cell_modifyCell]
  by_cases hnumber : number = call.cell
  · rw [if_pos ⟨hnumber, by rw [hnumber]; exact hwell.attached call hcall⟩, if_pos hnumber]
  · rw [if_neg fun hboth => hnumber hboth.1, if_neg hnumber]

theorem value?_turn (hwell : table.WellFormed) (hcall : call ∈ table.calls)
    (change : FlowCell Value → FlowCell Value) (hsame : ∀ cell, (change cell).value? = cell.value?)
    (phase? : Option (FlowPhase Failure)) (number : Nat) :
    ((table.turn call change phase?).cell number).value? = (table.cell number).value? := by
  rw [cell_turn hwell hcall]
  split_ifs
  · exact hsame _
  · rfl

/-- After a turn the others stand where they stood, and the call stands at its cell if it should. -/
theorem stands_turn (hwell : table.WellFormed) (hcall : call ∈ table.calls)
    {change : FlowCell Value → FlowCell Value} {phase? : Option (FlowPhase Failure)}
    {number id : Nat} :
    (∃ other ∈ (table.turn call change phase?).calls,
        other.id = id ∧ other.cell = number ∧ other.phase.Stands) ↔
      (id ≠ call.id ∧ ∃ other ∈ table.calls,
        other.id = id ∧ other.cell = number ∧ other.phase.Stands) ∨
      (id = call.id ∧ call.cell = number ∧ ∃ phase, phase? = some phase ∧ phase.Stands) := by
  constructor
  · rintro ⟨other, hother, rfl, hnumber, hphase⟩
    rcases (mem_turn hwell hcall _ _).1 hother with ⟨hold, hid⟩ | ⟨phase, hsome, rfl⟩
    · exact .inl ⟨hid, other, hold, rfl, hnumber, hphase⟩
    · exact .inr ⟨rfl, hnumber, phase, hsome, hphase⟩
  · rintro (⟨hid, other, hold, rfl, hnumber, hphase⟩ | ⟨rfl, hnumber, phase, hsome, hphase⟩)
    · exact ⟨other, (mem_turn hwell hcall _ _).2 (.inl ⟨hold, hid⟩), rfl, hnumber, hphase⟩
    · exact ⟨_, (mem_turn hwell hcall _ _).2 (.inr ⟨phase, hsome, rfl⟩), rfl, hnumber, hphase⟩

/-- A call that changes its cell keeps the order if the cell stays sound, the line of the other
calls stays as it is unless they find a value, and the call itself stands there if it should. -/
theorem WellFormed.turn (hwell : table.WellFormed) (hcall : call ∈ table.calls)
    {change : FlowCell Value → FlowCell Value} (phase? : Option (FlowPhase Failure))
    (hsound : (change (table.cell call.cell)).Sound)
    (hvalue : (change (table.cell call.cell)).value? = none → (table.cell call.cell).value? = none)
    (hothers : ∀ id, id ≠ call.id → (id ∈ (change (table.cell call.cell)).line ↔
      (change (table.cell call.cell)).value? = none ∧ id ∈ (table.cell call.cell).line))
    (hown : call.id ∈ (change (table.cell call.cell)).line ↔
      (change (table.cell call.cell)).value? = none ∧
        ∃ phase, phase? = some phase ∧ phase.Stands)
    (hholder : ∀ id, id ≠ call.id → (table.cell call.cell).holder? = some id →
      (change (table.cell call.cell)).holder? = some id)
    (hrunning : phase? = some .running →
      (change (table.cell call.cell)).holder? = some call.id) :
    (table.turn call change phase?).WellFormed := by
  have hlength : (table.turn call change phase?).cells.length = table.cells.length := by
    cases phase? <;> simp [FlowTable.turn, modifyCell, setPhase, forget]
  have hentries : (table.turn call change phase?).entries = table.entries := by
    cases phase? <;> rfl
  have hnext : (table.turn call change phase?).nextCall = table.nextCall := by
    cases phase? <;> rfl
  constructor
  case distinct =>
    cases phase? with
    | none => exact hwell.distinct.sublist ((List.filter_sublist).map _)
    | some phase =>
        have hids : (table.turn call change (some phase)).calls.map (·.id) =
            table.calls.map (·.id) := by
          simp only [FlowTable.turn, setPhase, modifyCell, List.map_map]
          refine List.map_congr_left fun other _ => ?_
          simp only [Function.comp_apply]
          split_ifs <;> rfl
        rw [hids]
        exact hwell.distinct
  case numbered =>
    intro other hother
    rw [hnext]
    rcases (mem_turn hwell hcall _ _).1 hother with ⟨hold, -⟩ | ⟨phase, -, rfl⟩
    · exact hwell.numbered other hold
    · exact hwell.numbered call hcall
  case attached =>
    intro other hother
    rw [hlength]
    rcases (mem_turn hwell hcall _ _).1 hother with ⟨hold, -⟩ | ⟨phase, -, rfl⟩
    · exact hwell.attached other hold
    · exact hwell.attached call hcall
  case stored =>
    intro key number hlookup
    rw [hentries] at hlookup
    rw [hlength]
    exact hwell.stored key number hlookup
  case sound =>
    intro number
    rw [cell_turn hwell hcall]
    split_ifs with hnumber
    · rw [hnumber]
      exact hsound
    · exact hwell.sound number
  case lined =>
    intro number id
    rw [stands_turn hwell hcall, cell_turn hwell hcall]
    by_cases hid : id = call.id
    · subst hid
      by_cases hnumber : number = call.cell
      · rw [if_pos hnumber, hnumber, hown]
        simp
      · rw [if_neg hnumber, hwell.lined]
        constructor
        · rintro ⟨-, other, hother, hsame, rfl, -⟩
          rw [hwell.call_eq hcall hother hsame] at hnumber
          exact absurd rfl hnumber
        · rintro ⟨-, ⟨hne, -⟩ | ⟨-, hcell, -⟩⟩
          · exact absurd rfl hne
          · exact absurd hcell.symm hnumber
    · simp only [hid, false_and, or_false, ne_eq, not_false_eq_true, true_and]
      by_cases hnumber : number = call.cell
      · rw [if_pos hnumber, hnumber, hothers id hid, hwell.lined]
        exact ⟨fun h => ⟨h.1, h.2.2⟩, fun h => ⟨h.1, hvalue h.1, h.2⟩⟩
      · rw [if_neg hnumber]
        exact hwell.lined number id
  case runs =>
    intro other hother hphase
    rw [cell_turn hwell hcall]
    rcases (mem_turn hwell hcall _ _).1 hother with ⟨hold, hid⟩ | ⟨phase, hsome, rfl⟩
    · have hheld := hwell.runs other hold hphase
      split_ifs with hcell
      · rw [hcell] at hheld ⊢
        exact hholder other.id hid hheld
      · exact hheld
    · rw [if_pos rfl]
      exact hrunning (by rw [hsome, ← hphase])

/-- Keys that lead nowhere any more disturb nothing. -/
theorem WellFormed.fewer (hwell : table.WellFormed) {entries : List (Key × Nat)}
    (hfewer : ∀ key number, entries.lookup key = some number →
      table.entries.lookup key = some number) :
    ({ table with entries } : FlowTable Key Value Failure).WellFormed where
  distinct := hwell.distinct
  numbered := hwell.numbered
  attached := hwell.attached
  stored key number hlookup := hwell.stored key number (hfewer key number hlookup)
  sound := hwell.sound
  lined := hwell.lined
  runs := hwell.runs

theorem lookup_of_lookup_erase {key other : Key} {number : Nat}
    (hlookup : (table.erase key).entries.lookup other = some number) :
    table.entries.lookup other = some number := by
  rw [lookup_erase] at hlookup
  split_ifs at hlookup
  exact hlookup

theorem WellFormed.erase (hwell : table.WellFormed) (key : Key) : (table.erase key).WellFormed :=
  hwell.fewer fun _ _ => lookup_of_lookup_erase

theorem WellFormed.eraseCell (hwell : table.WellFormed) (key : Key) (number : Nat) :
    (table.eraseCell key number).WellFormed := by
  unfold FlowTable.eraseCell
  split_ifs
  · exact hwell.erase key
  · exact hwell

theorem WellFormed.enter_lt (hwell : table.WellFormed) (key : Key) :
    (table.enter key).1 < (table.enter key).2.cells.length := by
  cases hlookup : table.entries.lookup key with
  | some number =>
      rw [table.enter_of_some hlookup]
      exact hwell.stored key number hlookup
  | none =>
      rw [table.enter_of_none hlookup]
      simp

theorem WellFormed.enter (hwell : table.WellFormed) (key : Key) :
    (table.enter key).2.WellFormed where
  distinct := by
    rw [calls_enter]
    exact hwell.distinct
  numbered := by
    rw [calls_enter, nextCall_enter]
    exact hwell.numbered
  attached call hcall := by
    rw [calls_enter] at hcall
    exact (hwell.attached call hcall).trans_le (table.length_cells_enter key)
  stored other number hlookup := by
    rw [lookup_enter] at hlookup
    split_ifs at hlookup with hother
    · cases hlookup
      exact hwell.enter_lt key
    · exact (hwell.stored other number hlookup).trans_le (table.length_cells_enter key)
  sound := by
    rw [cell_enter]
    exact hwell.sound
  lined := by
    rw [cell_enter, calls_enter]
    exact hwell.lined
  runs := by
    rw [cell_enter, calls_enter]
    exact hwell.runs

/-- A new call stands nowhere yet. -/
theorem WellFormed.begun (hwell : table.WellFormed) (key : Key) {number : Nat}
    (hnumber : number < table.cells.length) :
    ({ table with
        calls := table.calls ++ [⟨table.nextCall, key, number, .entering⟩]
        nextCall := table.nextCall + 1 } : FlowTable Key Value Failure).WellFormed where
  distinct := by
    rw [List.map_append]
    refine hwell.distinct.append (List.nodup_singleton _) ?_
    rw [List.map_singleton, List.disjoint_singleton]
    intro hmem
    obtain ⟨call, hcall, hid⟩ := List.mem_map.1 hmem
    exact (hwell.numbered call hcall).ne hid
  numbered call hcall := by
    rcases List.mem_append.1 hcall with hold | hnew
    · exact (hwell.numbered call hold).trans (Nat.lt_succ_self _)
    · rw [List.mem_singleton.1 hnew]
      exact Nat.lt_succ_self _
  attached call hcall := by
    rcases List.mem_append.1 hcall with hold | hnew
    · exact hwell.attached call hold
    · rw [List.mem_singleton.1 hnew]
      exact hnumber
  stored := hwell.stored
  sound := hwell.sound
  lined place id := by
    refine (hwell.lined place id).trans (and_congr_right fun _ => ?_)
    constructor
    · rintro ⟨call, hcall, hrest⟩
      exact ⟨call, List.mem_append_left _ hcall, hrest⟩
    · rintro ⟨call, hcall, hid, hcell, hstands⟩
      rcases List.mem_append.1 hcall with hold | hnew
      · exact ⟨call, hold, hid, hcell, hstands⟩
      · rw [List.mem_singleton.1 hnew] at hstands
        exact hstands.elim
  runs call hcall hphase := by
    rcases List.mem_append.1 hcall with hold | hnew
    · exact hwell.runs call hold hphase
    · rw [List.mem_singleton.1 hnew] at hphase
      cases hphase

theorem arrive_eq (table : FlowTable Key Value Failure) (key : Key) :
    (table.arrive key).2 =
      { (table.enter key).2 with
        calls := table.calls ++ [⟨table.nextCall, key, (table.enter key).1, .entering⟩]
        nextCall := table.nextCall + 1 } := by
  rw [← table.calls_enter key]
  rfl

theorem WellFormed.arrive (hwell : table.WellFormed) (key : Key) :
    (table.arrive key).2.WellFormed := by
  have hbegun := (hwell.enter key).begun key (hwell.enter_lt key)
  rw [calls_enter, nextCall_enter] at hbegun
  rw [arrive_eq]
  exact hbegun

/-- A call that stands nowhere may go. -/
theorem WellFormed.forget (hwell : table.WellFormed) (hcall : call ∈ table.calls)
    (habsent : call.id ∉ (table.cell call.cell).line) : (table.forget call.id).WellFormed := by
  have hturn : (table.turn call (fun cell => cell) none).WellFormed := by
    refine hwell.turn hcall _ (hwell.sound call.cell) id ?_ ?_ (fun _ _ hholder => hholder) ?_
    · intro id _
      exact ⟨fun hmem => ⟨FlowCell.value?_of_mem_line (hwell.sound _) hmem, hmem⟩, And.right⟩
    · simp [habsent]
    · intro hphase
      cases hphase
  rwa [FlowTable.turn, modifyCell_id] at hturn

theorem WellFormed.absent (hwell : table.WellFormed) (hcall : call ∈ table.calls)
    (hphase : ¬call.phase.Stands) : call.id ∉ (table.cell call.cell).line := by
  rw [hwell.lined]
  rintro ⟨-, other, hother, hid, -, hstands⟩
  rw [hwell.call_eq hcall hother hid] at hstands
  exact hphase hstands

/-- A call that leaves its cell leaves the others in order. -/
theorem WellFormed.leave (hwell : table.WellFormed) (hcall : call ∈ table.calls)
    (phase? : Option (FlowPhase Failure)) (hphase : ∀ phase, phase? = some phase → ¬phase.Stands) :
    (table.turn call (·.leave call.id) phase?).WellFormed := by
  have hsound := hwell.sound call.cell
  refine hwell.turn hcall phase? (FlowCell.sound_leave hsound) ?_ ?_ ?_ ?_ ?_
  · rw [FlowCell.value?_leave]
    exact id
  · intro id hid
    rw [FlowCell.mem_line_leave hsound, FlowCell.value?_leave]
    exact ⟨fun hmem => ⟨FlowCell.value?_of_mem_line hsound hmem.1, hmem.1⟩,
      fun hmem => ⟨hmem.2, hid⟩⟩
  · rw [FlowCell.mem_line_leave hsound]
    constructor
    · rintro ⟨-, hne⟩
      exact absurd rfl hne
    · rintro ⟨-, phase, hsome, hstands⟩
      exact absurd hstands (hphase phase hsome)
  · intro id hid hholder
    exact FlowCell.holder?_leave hholder hid
  · intro hrunning
    exact absurd trivial (hphase .running hrunning)

/-- Every step keeps the order. -/
theorem WellFormed.moves (hwell : table.WellFormed) {step : Step Key Value Failure}
    {ended? returned? : Option (FlowOutcome Key Value Failure)}
    {after : FlowTable Key Value Failure} (hmoves : Moves table step ended? returned? after) :
    after.WellFormed := by
  cases hmoves with
  | idle => exact hwell
  | arrive key => exact hwell.arrive key
  | @join call hcall hphase =>
      have hsound := hwell.sound call.cell
      have habsent := hwell.absent hcall (by rw [hphase]; exact id)
      refine hwell.turn hcall (some .queued) (FlowCell.sound_join hsound habsent)
        ?_ ?_ ?_ ?_ ?_
      · rw [FlowCell.value?_join]
        exact id
      · intro id hid
        simp [FlowCell.mem_line_join hsound, FlowCell.value?_join, hid]
      · simp [FlowCell.mem_line_join hsound, FlowCell.value?_join, FlowPhase.Stands]
      · exact fun id _ hholder => FlowCell.holder?_join hholder
      · intro hrunning
        cases hrunning
  | @found call value hcall hphase hvalue =>
      refine hwell.forget hcall fun hmem => ?_
      rw [FlowCell.value?_of_mem_line (hwell.sound _) hmem] at hvalue
      cases hvalue
  | @start call hcall hphase hvalue hholder =>
      have hturn : (table.turn call (fun cell => cell) (some .running)).WellFormed := by
        refine hwell.turn hcall _ (hwell.sound call.cell) id ?_ ?_ (fun _ _ hheld => hheld) ?_
        · intro id _
          rw [hvalue]
          simp
        · have hmem : call.id ∈ (table.cell call.cell).line :=
            (hwell.lined _ _).2 ⟨hvalue, call, hcall, rfl, rfl, by rw [hphase]; trivial⟩
          simp [hmem, hvalue, FlowPhase.Stands]
        · exact fun _ => hholder
      rwa [FlowTable.turn, modifyCell_id] at hturn
  | @succeed call value hcall hphase =>
      refine hwell.turn hcall none (FlowCell.sound_fill value) ?_ ?_ ?_ ?_ ?_
      · intro hnone
        cases hnone
      · intro id _
        simp [FlowCell.fill, FlowCell.line]
      · simp [FlowCell.fill, FlowCell.line]
      · intro id hid hholder
        rw [hwell.runs call hcall hphase] at hholder
        exact absurd (Option.some.inj hholder).symm hid
      · intro hrunning
        cases hrunning
  | @fail call failure hcall hphase =>
      have hleave := hwell.leave hcall (some (.failed failure)) (by
        rintro phase ⟨⟩
        exact id)
      have hcells : table.modifyCell call.cell (·.leave call.id) =
          table.modifyCell call.cell (·.release) :=
        modifyCell_congr (FlowCell.leave_of_holder (hwell.runs call hcall hphase))
      rwa [FlowTable.turn, hcells] at hleave
  | @cleanUp call failure hcall hphase =>
      have habsent := hwell.absent hcall (by rw [hphase]; exact id)
      have hcell : (table.eraseCell call.key call.cell).cell = table.cell := by
        unfold FlowTable.eraseCell
        split_ifs <;> rfl
      refine (hwell.eraseCell call.key call.cell).forget ?_ ?_
      · unfold FlowTable.eraseCell
        split_ifs <;> exact hcall
      · rw [hcell]
        exact habsent
  | @abandon call hcall hphase =>
      exact hwell.leave hcall none (by
        rintro phase ⟨⟩)
  | remove key => exact hwell.erase key
  | removeIf => exact hwell.erase _

end

theorem wellFormed_empty : ({} : FlowTable Key Value Failure).WellFormed where
  distinct := List.nodup_nil
  numbered _ hcall := by cases hcall
  attached _ hcall := by cases hcall
  stored _ _ hlookup := by cases hlookup
  sound _ := FlowCell.sound_empty
  lined number id := by
    constructor
    · intro hmem
      cases hmem
    · rintro ⟨-, call, hcall, -⟩
      cases hcall
  runs _ hcall := by cases hcall

end FlowTable

namespace FlowRun

open FlowTable (Step)

variable {Key Value Failure : Type} [DecidableEq Key]

theorem wellFormed_further {run : FlowRun Key Value Failure} (hwell : run.table.WellFormed)
    (steps : List (Step Key Value Failure)) : (run.further steps).table.WellFormed := by
  refine List.foldlRecOn (motive := fun run : FlowRun Key Value Failure => run.table.WellFormed)
    steps FlowRun.apply hwell fun run hrun step _ => ?_
  obtain ⟨_, _, hmoves, -⟩ := run.exists_moves step
  exact hrun.moves hmoves

theorem wellFormed_after (steps : List (Step Key Value Failure)) :
    (after steps).table.WellFormed :=
  wellFormed_further FlowTable.wellFormed_empty steps

end FlowRun

end PortalNat
