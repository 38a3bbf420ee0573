import PortalNat.Proofs.Device.Delivery

/-!
# A packet device that is shut

Once a device is closed from either side, writes that begin fail. Reads that begin can fail as well,
but as long as a packet is queued, or can still be handed in, they can also return it. The main
statement puts together what a device does in every run, and says exactly when no later read returns
a packet.
-/

namespace PortalNat

namespace DeviceRun

/-! ## Calls that begin later -/

section

variable {run next : DeviceRun} {step : Step} {capacity : ℕ+}

/-- The device is shut, and every write from some number on fails or is going to. -/
structure WritesFail (first : Nat) (run : DeviceRun) : Prop where
  shut : run.Shut
  /-- A write that waits was begun before the device was closed, or its far end is gone. -/
  waiting : ∀ write ∈ run.writes, first ≤ write.id → run.device.farGone = true
  failed : ∀ outcome ∈ run.hasWritten, first ≤ outcome.call.id →
    outcome.result = .error .deviceClosed

theorem WritesFail.moves {first : Nat} (hfail : WritesFail first run)
    (hmoves : Moves run step next) : WritesFail first next where
  shut := hfail.shut.moves hmoves
  waiting := by
    cases hmoves with
    | beginWrite packet hopen =>
        intro write hwrite hlate
        rcases List.mem_append.1 hwrite with hold | hnew
        · exact hfail.waiting write hold hlate
        · refine hfail.shut.resolve_left fun hclosed => ?_
          rw [hopen] at hclosed
          cases hclosed
    | failWrite => exact fun write hwrite => hfail.waiting write (List.mem_of_mem_filter hwrite)
    | endWrite => exact fun write hwrite => hfail.waiting write (List.mem_of_mem_filter hwrite)
    | cancelWrite => exact fun write hwrite => hfail.waiting write (List.mem_of_mem_filter hwrite)
    | dropFar => exact fun _ _ _ => rfl
    | _ => exact hfail.waiting
  failed := by
    cases hmoves with
    | refuseWrite packet hclosed =>
        exact List.forall_mem_append.2 ⟨hfail.failed, List.forall_mem_singleton.2 fun _ => rfl⟩
    | failWrite hwrite hfar =>
        exact List.forall_mem_append.2 ⟨hfail.failed, List.forall_mem_singleton.2 fun _ => rfl⟩
    | endWrite hwrite hfar hroom =>
        refine List.forall_mem_append.2 ⟨hfail.failed, List.forall_mem_singleton.2 fun hlate => ?_⟩
        rw [hfail.waiting _ hwrite hlate] at hfar
        cases hfar
    | _ => exact hfail.failed

theorem Lawful.writesFail (hlawful : run.Lawful capacity) (hshut : run.Shut) :
    WritesFail run.nextCall run where
  shut := hshut
  waiting write hwrite hlate :=
    absurd (hlawful.numbered write (by simp [calls, hwrite])) (Nat.not_lt.2 hlate)
  failed outcome hmem hlate := by
    have hcall : outcome.call ∈ run.calls := by
      exact List.mem_append_right _ (List.mem_map_of_mem hmem)
    exact absurd (hlawful.numbered outcome.call hcall) (Nat.not_lt.2 hlate)

/-- Nothing can come from the queue any more, and every read from some number on has failed. -/
structure Drained (first : Nat) (run : DeviceRun) : Prop where
  gone : run.device.farGone = true
  empty : run.device.inbound = []
  failed : ∀ outcome ∈ run.hasRead, first ≤ outcome.call.id →
    outcome.result = .error .deviceClosed

theorem Drained.moves {first : Nat} (hdrained : Drained first run)
    (hmoves : Moves run step next) : Drained first next := by
  obtain ⟨hgone, hempty, hfailed⟩ := hdrained
  cases hmoves with
  | inject packet hfar hroom =>
      rw [hgone] at hfar
      cases hfar
  | failRead choice hread hends =>
      exact ⟨hgone, hempty,
        List.forall_mem_append.2 ⟨hfailed, List.forall_mem_singleton.2 fun _ => rfl⟩⟩
  | endRead choice hread hholds hfirst =>
      rw [hempty] at hfirst
      cases hfirst
  | dropFar => exact ⟨rfl, hempty, hfailed⟩
  | _ => exact ⟨hgone, hempty, hfailed⟩

theorem Lawful.drained (hlawful : run.Lawful capacity) (hgone : run.device.farGone = true)
    (hempty : run.device.inbound = []) : Drained run.nextCall run where
  gone := hgone
  empty := hempty
  failed outcome hmem hlate := by
    have hcall : outcome.call ∈ run.calls :=
      List.mem_append_left _ (List.mem_append_right _ (List.mem_map_of_mem hmem))
    exact absurd (hlawful.numbered outcome.call hcall) (Nat.not_lt.2 hlate)

theorem find?_unused {calls : List DeviceCall} {number : Nat}
    (hbelow : ∀ call ∈ calls, call.id < number) : calls.find? (·.id = number) = none := by
  rw [List.find?_eq_none]
  intro call hcall
  simpa using (hbelow call hcall).ne

theorem find?_concat {calls : List DeviceCall} {number : Nat} (octets : Octets)
    (hbelow : ∀ call ∈ calls, call.id < number) :
    (calls ++ [(⟨number, octets⟩ : DeviceCall)]).find? (·.id = number) =
      some ⟨number, octets⟩ := by
  rw [List.find?_append, find?_unused hbelow]
  simp

theorem Lawful.find?_read (hlawful : run.Lawful capacity) (buffer : Octets) :
    (run.reads ++ [(⟨run.nextCall, buffer⟩ : DeviceCall)]).find? (·.id = run.nextCall) =
      some ⟨run.nextCall, buffer⟩ :=
  find?_concat buffer fun read hread => hlawful.numbered read (by simp [calls, hread])

theorem endRead_returns (run : DeviceRun) {read : DeviceCall} {choice : Nat}
    {result : Except IoError (Nat × Octets)} {device : Device}
    (hfind : run.reads.find? (·.id = read.id) = some read)
    (hending : (run.endings read)[choice]? = some (result, device)) :
    (run.apply (.endRead read.id choice)).device = device ∧
      (run.apply (.endRead read.id choice)).hasRead = run.hasRead ++ [⟨read, result⟩] := by
  simp only [apply, hfind, hending, and_self]

/-- A read of a closed device can fail at once, even if another read has the queue to itself. -/
theorem Lawful.read_fails (hlawful : run.Lawful capacity) (hclosed : run.device.closed = true)
    (buffer : Octets) :
    ⟨⟨run.nextCall, buffer⟩, .error .deviceClosed⟩ ∈
      (run.further [.beginRead buffer, .endRead run.nextCall 0]).hasRead := by
  have hreception :
      (run.device.receptions buffer)[0]? = some (.error .deviceClosed, run.device) := by
    rw [Device.receptions, if_pos hclosed]
    rfl
  have hending : ((run.apply (.beginRead buffer)).endings ⟨run.nextCall, buffer⟩)[0]? =
      some (.error .deviceClosed, run.device) := by
    unfold endings
    split_ifs with hholds hopen
    · exact hreception
    · rfl
    · exact absurd hclosed hopen
  have hreturns :=
    ((run.apply (.beginRead buffer)).endRead_returns (hlawful.find?_read buffer) hending).2
  change _ ∈ ((run.apply (.beginRead buffer)).apply (.endRead run.nextCall 0)).hasRead
  rw [hreturns]
  exact List.mem_append_right _ (List.mem_singleton_self _)

def holding (run : DeviceRun) (buffer : Octets) : DeviceRun :=
  { run with
    reads := run.reads ++ [⟨run.nextCall, buffer⟩]
    holder? := some run.nextCall
    nextCall := run.nextCall + 1 }

theorem further_hold (hfree : run.holder? = none) (buffer : Octets) (choice : Nat) :
    run.further [.beginRead buffer, .hold run.nextCall, .endRead run.nextCall choice] =
      (run.holding buffer).apply (.endRead run.nextCall choice) := by
  have hhold : (run.apply (.beginRead buffer)).apply (.hold run.nextCall) = run.holding buffer := by
    refine if_pos ⟨Option.isNone_iff_eq_none.2 hfree, ?_⟩
    exact List.mem_map.2 ⟨⟨run.nextCall, buffer⟩, by simp [apply], rfl⟩
  rw [← hhold]
  rfl

theorem endings_holding (run : DeviceRun) (buffer : Octets) :
    (run.holding buffer).endings ⟨run.nextCall, buffer⟩ = run.device.receptions buffer :=
  if_pos rfl

/-- A read that nobody is in the way of ends in whichever way it chooses. -/
theorem Lawful.read_returns (hlawful : run.Lawful capacity) (hfree : run.holder? = none)
    {buffer : Octets} {choice : Nat} {result : Except IoError (Nat × Octets)} {device : Device}
    (hreception : (run.device.receptions buffer)[choice]? = some (result, device)) :
    ⟨⟨run.nextCall, buffer⟩, result⟩ ∈ (run.further
      [.beginRead buffer, .hold run.nextCall, .endRead run.nextCall choice]).hasRead := by
  rw [← endings_holding] at hreception
  have hreturns :=
    ((run.holding buffer).endRead_returns (hlawful.find?_read buffer) hreception).2
  rw [further_hold hfree]
  exact hreturns ▸ List.mem_append_right _ (List.mem_singleton_self _)

/-- A read that nobody is in the way of and that takes the first way to end is one of the device
itself. -/
theorem Lawful.read_alone (hlawful : run.Lawful capacity) (hfree : run.holder? = none)
    (buffer : Octets) :
    (run.further [.beginRead buffer, .hold run.nextCall, .endRead run.nextCall 0]).device =
        (run.device.recv buffer).2 ∧
      (run.further [.beginRead buffer, .hold run.nextCall, .endRead run.nextCall 0]).hasRead =
        run.hasRead ++
          (run.device.recv buffer).1.toList.map (⟨⟨run.nextCall, buffer⟩, ·⟩) := by
  have hfind := hlawful.find?_read buffer
  have hendings := run.endings_holding buffer
  rw [further_hold hfree]
  unfold Device.recv
  cases hreceptions : run.device.receptions buffer with
  | nil =>
      rw [hreceptions] at hendings
      have hwaits : (run.holding buffer).apply (.endRead run.nextCall 0) = run.holding buffer := by
        simp only [apply, holding, hfind]
        exact hendings ▸ rfl
      rw [hwaits]
      exact ⟨rfl, (List.append_nil _).symm⟩
  | cons ending others =>
      rw [hreceptions] at hendings
      exact (run.holding buffer).endRead_returns hfind (congrArg (·[0]?) hendings)

/-- A write that nothing comes between is one of the device itself. -/
theorem Lawful.write_alone (hlawful : run.Lawful capacity) (packet : Octets) :
    (run.further [.beginWrite packet, .endWrite run.nextCall]).device =
        (run.device.send packet).2 ∧
      (run.further [.beginWrite packet, .endWrite run.nextCall]).hasWritten =
        run.hasWritten ++
          (run.device.send packet).1.toList.map (⟨⟨run.nextCall, packet⟩, ·⟩) := by
  have hbelow (write : DeviceCall) (hwrite : write ∈ run.writes) : write.id < run.nextCall :=
    hlawful.numbered write (by simp [calls, hwrite])
  rw [Device.send_eq hlawful.faultless]
  change ((run.apply (.beginWrite packet)).apply (.endWrite run.nextCall)).device = _ ∧
    ((run.apply (.beginWrite packet)).apply (.endWrite run.nextCall)).hasWritten = _
  by_cases hclosed : run.device.closed = true
  · have hrefused : run.apply (.beginWrite packet) = { run with
        nextCall := run.nextCall + 1
        hasWritten := run.hasWritten ++ [⟨⟨run.nextCall, packet⟩, .error .deviceClosed⟩] } :=
      if_pos hclosed
    rw [hrefused, if_pos hclosed]
    simp only [apply, find?_unused hbelow, true_and]
    rfl
  · have hbegun : run.apply (.beginWrite packet) = { run with
        writes := run.writes ++ [⟨run.nextCall, packet⟩], nextCall := run.nextCall + 1 } :=
      if_neg hclosed
    rw [hbegun, if_neg hclosed]
    simp only [apply, find?_concat packet hbelow]
    cases run.device.push packet with
    | none => exact ⟨rfl, (List.append_nil _).symm⟩
    | some pushed => exact ⟨rfl, rfl⟩

/-- A write to a device that is shut fails at once. -/
theorem Lawful.write_fails (hlawful : run.Lawful capacity) (hshut : run.Shut) (packet : Octets) :
    ⟨⟨run.nextCall, packet⟩, .error .deviceClosed⟩ ∈
      (run.further [.beginWrite packet, .endWrite run.nextCall]).hasWritten := by
  have hsend : run.device.send packet = (some (.error .deviceClosed), run.device) := by
    have hrefuses : (run.device.closed || run.device.farGone) = true := by
      rw [Bool.or_eq_true]
      exact hshut
    rw [Device.send, hlawful.faultless]
    exact if_pos hrefuses
  rw [(hlawful.write_alone packet).2, hsend]
  exact List.mem_append_right _ (List.mem_singleton_self _)

/-- Once the read that has the queue to itself is given up, the queue is free. -/
theorem exists_free (run : DeviceRun) :
    ∃ steps, (run.further steps).holder? = none ∧ (run.further steps).device = run.device ∧
      (run.further steps).nextCall = run.nextCall := by
  cases hholder : run.holder? with
  | none => exact ⟨[], hholder, rfl, rfl⟩
  | some id =>
      refine ⟨[.cancelRead id], ?_, rfl, rfl⟩
      change run.holder?.filter (· ≠ id) = none
      rw [hholder]
      simp

/-- As long as the far end can hand packets in, one can come to be queued. -/
theorem Lawful.exists_queued (hlawful : run.Lawful capacity)
    (hmay : run.device.farGone = false ∨ run.device.inbound ≠ []) :
    ∃ steps, (run.further steps).device.inbound ≠ [] ∧
      (run.further steps).holder? = run.holder? ∧ (run.further steps).nextCall = run.nextCall := by
  by_cases hempty : run.device.inbound = []
  · have hfar : run.device.farGone = false := hmay.resolve_right (not_not.2 hempty)
    have hroom : run.device.hasRoom run.device.inbound.length = true := by
      rw [hlawful.hasRoom_iff, hempty]
      exact capacity.pos
    have hinject : run.apply (.inject []) = { run with
        device := { run.device with inbound := run.device.inbound ++ [.ok []] }
        injected := run.injected ++ [[]] } := by
      simp only [apply, Device.inject, hfar, Bool.false_eq_true, if_false, if_pos hroom]
    refine ⟨[.inject []], ?_⟩
    change (run.apply (.inject [])).device.inbound ≠ [] ∧ (run.apply (.inject [])).holder? = _ ∧
      (run.apply (.inject [])).nextCall = _
    rw [hinject]
    exact ⟨by simp, rfl, rfl⟩
  · exact ⟨[], hempty, rfl, rfl⟩

/-- As long as a packet is queued or can be handed in, some later read can return one, on a closed
device too. -/
theorem Lawful.exists_read_succeeds (hlawful : run.Lawful capacity)
    (hmay : run.device.farGone = false ∨ run.device.inbound ≠ []) :
    ∃ later, ∃ outcome ∈ (run.further later).hasRead, run.nextCall ≤ outcome.call.id ∧
      ∃ value, outcome.result = .ok value := by
  obtain ⟨freeing, hfree, hdevice, hnext⟩ := run.exists_free
  obtain ⟨queueing, hqueued, hholder, hnext'⟩ :=
    (hlawful.further freeing).exists_queued (by rw [hdevice]; exact hmay)
  let ready := (run.further freeing).further queueing
  have hready : ready.Lawful capacity := (hlawful.further freeing).further queueing
  obtain ⟨packets, queued, -, hinbound, -⟩ := hready.delivered
  obtain ⟨packet, rest, rfl⟩ : ∃ packet rest, queued = packet :: rest := by
    cases queued with
    | nil => exact absurd hinbound hqueued
    | cons packet rest => exact ⟨packet, rest, rfl⟩
  -- If the device is closed, being found closed is the first choice and the packet the second.
  obtain ⟨choice, hreception⟩ : ∃ choice, (ready.device.receptions [])[choice]? =
      some (Except.ok (Device.received [] packet),
        { ready.device with inbound := rest.map .ok }) := by
    unfold Device.receptions
    rw [hinbound]
    by_cases hclosed : ready.device.closed = true
    · exact ⟨1, by rw [if_pos hclosed]; rfl⟩
    · exact ⟨0, by rw [if_neg hclosed]; rfl⟩
  have hreturns := hready.read_returns (hholder.trans hfree) hreception
  refine ⟨freeing ++ (queueing ++ [.beginRead [], .hold ready.nextCall,
    .endRead ready.nextCall choice]),
    ⟨⟨ready.nextCall, []⟩, .ok (Device.received [] packet)⟩, ?_, ?_, _, rfl⟩
  · rw [further_append, further_append]
    exact hreturns
  · exact (hnext'.trans hnext).ge

end

/-! ## Runs -/

/-- What holds of a device at any time, whatever comes later. -/
structure Faithful (capacity : ℕ+) (run : DeviceRun) : Prop where
  /-- Packets have come through in order, at most once and whole, and calls have failed only on a
  device that is shut. -/
  lawful : run.Lawful capacity
  /-- A read that nobody is in the way of and that takes the first way to end is one of the device
  itself. -/
  readAlone : run.holder? = none → ∀ buffer,
    (run.further [.beginRead buffer, .hold run.nextCall, .endRead run.nextCall 0]).device =
        (run.device.recv buffer).2 ∧
      (run.further [.beginRead buffer, .hold run.nextCall, .endRead run.nextCall 0]).hasRead =
        run.hasRead ++ (run.device.recv buffer).1.toList.map (⟨⟨run.nextCall, buffer⟩, ·⟩)
  /-- A write that nothing comes between is one of the device itself. -/
  writeAlone : ∀ packet,
    (run.further [.beginWrite packet, .endWrite run.nextCall]).device =
        (run.device.send packet).2 ∧
      (run.further [.beginWrite packet, .endWrite run.nextCall]).hasWritten =
        run.hasWritten ++ (run.device.send packet).1.toList.map (⟨⟨run.nextCall, packet⟩, ·⟩)
  /-- Once the device is shut, every write that begins fails. -/
  lateWrites : run.Shut → ∀ later, ∀ outcome ∈ (run.further later).hasWritten,
    run.nextCall ≤ outcome.call.id → outcome.result = .error .deviceClosed
  /-- It fails by itself: no one else has to do anything first. -/
  lateWriteEnds : run.Shut → ∀ packet, ⟨⟨run.nextCall, packet⟩, .error .deviceClosed⟩ ∈
    (run.further [.beginWrite packet, .endWrite run.nextCall]).hasWritten
  /-- Every read that begins on a closed device can fail by itself. -/
  lateReadEnds : run.device.closed = true → ∀ buffer,
    ⟨⟨run.nextCall, buffer⟩, .error .deviceClosed⟩ ∈
      (run.further [.beginRead buffer, .endRead run.nextCall 0]).hasRead
  /-- All reads that begin later are sure to fail exactly if the far end is gone and nothing is
  queued. -/
  lateReads : (∀ later, ∀ outcome ∈ (run.further later).hasRead,
      run.nextCall ≤ outcome.call.id → outcome.result = .error .deviceClosed) ↔
    run.device.farGone = true ∧ run.device.inbound = []

/-- Every run of a device is faithful, in any order of steps and whichever way each read ends. -/
theorem faithful_after (capacity : ℕ+) (steps : List Step) :
    (after capacity steps).Faithful capacity := by
  have hlawful := lawful_after capacity steps
  constructor
  case lawful => exact hlawful
  case readAlone => exact hlawful.read_alone
  case writeAlone => exact hlawful.write_alone
  case lateWrites =>
    intro hshut later
    exact (further_induction (hlawful.writesFail hshut)
      (fun run step hfail => hfail.moves (run.moves step)) later).failed
  case lateWriteEnds => exact hlawful.write_fails
  case lateReadEnds => exact hlawful.read_fails
  case lateReads =>
    constructor
    · intro hfails
      by_contra hmay
      rw [not_and_or, Bool.not_eq_true] at hmay
      obtain ⟨later, outcome, hmem, hlate, value, hvalue⟩ := hlawful.exists_read_succeeds hmay
      rw [hfails later outcome hmem hlate] at hvalue
      cases hvalue
    · rintro ⟨hgone, hempty⟩ later
      exact (further_induction (hlawful.drained hgone hempty)
        (fun run step hdrained => hdrained.moves (run.moves step)) later).failed

/-- A read that begins after the device was closed, and one that begins after the far end went, can
return a packet that is still queued. -/
theorem queued_outlives_closing :
    (after 4 [.inject [1], .close]).device.closed = true ∧
      (after 4 [.inject [1], .close, .beginRead [0xee, 0xee], .hold 0, .endRead 0 1]).hasRead =
        [⟨⟨0, [0xee, 0xee]⟩, .ok (1, [1, 0xee])⟩] ∧
      (after 4 [.inject [1], .dropFar]).device.farGone = true ∧
      (after 4 [.inject [1], .dropFar, .beginRead [0xee, 0xee], .hold 0, .endRead 0 0]).hasRead =
        [⟨⟨0, [0xee, 0xee]⟩, .ok (1, [1, 0xee])⟩] ∧
      ¬∀ (capacity : ℕ+) (steps later : List Step), (after capacity steps).Shut →
        ∀ outcome ∈ ((after capacity steps).further later).hasRead,
          (after capacity steps).nextCall ≤ outcome.call.id →
            outcome.result = .error .deviceClosed := by
  refine ⟨rfl, rfl, rfl, rfl, fun hfails => ?_⟩
  have hresult := hfails 4 [.inject [1], .close] [.beginRead [0xee, 0xee], .hold 0, .endRead 0 1]
    (.inl rfl) ⟨⟨0, [0xee, 0xee]⟩, .ok (1, [1, 0xee])⟩ (List.mem_singleton_self _) le_rfl
  cases hresult

end DeviceRun

end PortalNat
