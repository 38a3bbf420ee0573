import PortalNat.Proofs.Device.Run

/-!
# What a packet device delivers

Whatever reads and writes do at the same time, and whichever of them are given up, packets come out
of a device in the order they went in, each at most once and whole. A read takes as much of one
packet as fits its buffer and leaves the rest of the buffer alone. Reads and writes fail only on a
device that is shut. One invariant says all this; each step keeps it, and so it holds of every run.
-/

namespace PortalNat

namespace DeviceOutcome

variable {Value : Type}

def successes (outcomes : List (DeviceOutcome Value)) : List (DeviceOutcome Value) :=
  outcomes.filter (·.result.isOk)

theorem successes_error (outcomes : List (DeviceOutcome Value)) (call : DeviceCall)
    (error : IoError) : successes (outcomes ++ [⟨call, .error error⟩]) = successes outcomes := by
  rw [successes, List.filter_append]
  exact List.append_nil _

theorem successes_ok (outcomes : List (DeviceOutcome Value)) (call : DeviceCall) (value : Value) :
    successes (outcomes ++ [⟨call, .ok value⟩]) = successes outcomes ++ [⟨call, .ok value⟩] := by
  rw [successes, List.filter_append]
  rfl

end DeviceOutcome

/-- A read returned as much of a packet as fits its buffer, and the rest of the buffer is what it
was. -/
def DeviceOutcome.Brings (outcome : DeviceOutcome (Nat × Octets)) (packet : Octets) : Prop :=
  outcome.result = .ok (min packet.length outcome.call.octets.length,
    packet.take outcome.call.octets.length ++ outcome.call.octets.drop packet.length)

theorem Device.received_eq (buffer packet : Octets) :
    received buffer packet =
      (min packet.length buffer.length,
        packet.take buffer.length ++ buffer.drop packet.length) := by
  have hrest : buffer.drop (min buffer.length packet.length) = buffer.drop packet.length := by
    rcases le_total packet.length buffer.length with hfits | hlong
    · rw [Nat.min_eq_right hfits]
    · rw [Nat.min_eq_left hlong, List.drop_length, List.drop_eq_nil_of_le hlong]
  rw [received, Octets.copyInto, Octets.overwrite, List.take_zero, List.nil_append,
    Nat.zero_add, List.length_take, hrest]

namespace DeviceRun

def accepted (run : DeviceRun) : List Octets :=
  (DeviceOutcome.successes run.hasWritten).map (·.call.octets)

def calls (run : DeviceRun) : List DeviceCall :=
  run.reads ++ run.writes ++ run.hasRead.map (·.call) ++ run.hasWritten.map (·.call)

/-- The device was closed, or its far end is gone. -/
def Shut (run : DeviceRun) : Prop :=
  run.device.closed = true ∨ run.device.farGone = true

/-- What holds of every run of a device. -/
structure Lawful (capacity : ℕ+) (run : DeviceRun) : Prop where
  /-- What was handed in has been returned by the successful reads, in this order, or is queued. -/
  delivered : ∃ packets queued, run.injected = packets ++ queued ∧
    run.device.inbound = queued.map .ok ∧
    List.Forall₂ DeviceOutcome.Brings (DeviceOutcome.successes run.hasRead) packets
  /-- A read fails only on a closed device, or if the far end is gone and nothing is queued. -/
  failedReads : ∀ outcome ∈ run.hasRead, ∀ error, outcome.result = .error error →
    error = .deviceClosed ∧
      (run.device.closed = true ∨ run.device.farGone = true ∧ run.device.inbound = [])
  /-- What the successful writes brought has been fetched, in this order, or is queued, unless the
  far end went before it fetched everything. -/
  carried : ∃ lost, run.accepted = run.fetched ++ run.device.outbound ++ lost ∧
    (run.device.farGone = false → lost = [])
  /-- A write succeeds with its whole packet or fails because the device is shut. -/
  writes : ∀ outcome ∈ run.hasWritten,
    outcome.result = .ok outcome.call.octets.length ∨
      outcome.result = .error .deviceClosed ∧ run.Shut
  capped : run.device.capacity? = some (capacity : ℕ)
  faultless : run.device.writeFault? = none
  bounded : run.device.inbound.length ≤ capacity ∧ run.device.outbound.length ≤ capacity
  /-- Only a read that has not returned holds the queue. -/
  held : ∀ id, run.holder? = some id → id ∈ run.reads.map (·.id)
  numbered : ∀ call ∈ run.calls, call.id < run.nextCall
  emptied : run.device.farGone = true → run.device.outbound = []

theorem lawful_start (capacity : ℕ+) : (start capacity).Lawful capacity where
  delivered := ⟨[], [], rfl, rfl, .nil⟩
  failedReads _ hmem := by cases hmem
  carried := ⟨[], rfl, fun _ => rfl⟩
  writes _ hmem := by cases hmem
  capped := rfl
  faultless := rfl
  bounded := ⟨Nat.zero_le _, Nat.zero_le _⟩
  held _ hholder := by cases hholder
  numbered _ hmem := by cases hmem
  emptied _ := rfl

section

variable {run after : DeviceRun} {step : Step} {capacity : ℕ+}

theorem Shut.moves (hshut : run.Shut) (hmoves : Moves run step after) : after.Shut := by
  cases hmoves with
  | close => exact .inl rfl
  | dropFar => exact .inr rfl
  | _ => exact hshut

theorem delivered_moves (hlawful : run.Lawful capacity) (hmoves : Moves run step after) :
    ∃ packets queued, after.injected = packets ++ queued ∧
      after.device.inbound = queued.map .ok ∧
      List.Forall₂ DeviceOutcome.Brings (DeviceOutcome.successes after.hasRead) packets := by
  obtain ⟨packets, queued, hinjected, hinbound, hbrings⟩ := hlawful.delivered
  cases hmoves with
  | inject packet hfar hroom =>
      refine ⟨packets, queued ++ [packet], ?_, ?_, hbrings⟩
      · rw [hinjected, List.append_assoc]
      · rw [hinbound, List.map_append]
        rfl
  | failRead choice hread hends =>
      refine ⟨packets, queued, hinjected, hinbound, ?_⟩
      rw [DeviceOutcome.successes_error]
      exact hbrings
  | @endRead read first rest choice hread hholds hfirst =>
      rw [hfirst] at hinbound
      obtain ⟨packet, left, rfl, rfl, rfl⟩ := List.map_eq_cons_iff.1 hinbound.symm
      have hbrought :
          DeviceOutcome.Brings ⟨read, .ok (Device.received read.octets packet)⟩ packet :=
        congrArg Except.ok (Device.received_eq read.octets packet)
      refine ⟨packets ++ [packet], left, ?_, rfl, ?_⟩
      · rw [hinjected, List.append_assoc]
        rfl
      · simp only [Except.map, DeviceOutcome.successes_ok]
        exact List.rel_append hbrings (.cons hbrought .nil)
  | _ => exact ⟨packets, queued, hinjected, hinbound, hbrings⟩

theorem failedReads_moves (hlawful : run.Lawful capacity) (hmoves : Moves run step after) :
    ∀ outcome ∈ after.hasRead, ∀ error, outcome.result = .error error →
      error = .deviceClosed ∧
        (after.device.closed = true ∨ after.device.farGone = true ∧ after.device.inbound = []) := by
  cases hmoves with
  | inject packet hfar hroom =>
      intro outcome hmem error hresult
      obtain ⟨herror, hclosed | ⟨hgone, -⟩⟩ := hlawful.failedReads outcome hmem error hresult
      · exact ⟨herror, .inl hclosed⟩
      · rw [hfar] at hgone
        cases hgone
  | failRead choice hread hends =>
      intro outcome hmem error hresult
      rcases List.mem_append.1 hmem with hold | hnew
      · exact hlawful.failedReads outcome hold error hresult
      · rw [List.mem_singleton.1 hnew] at hresult
        cases hresult
        exact ⟨rfl, hends⟩
  | @endRead read first rest choice hread hholds hfirst =>
      intro outcome hmem error hresult
      rcases List.mem_append.1 hmem with hold | hnew
      · obtain ⟨herror, hclosed | ⟨-, hempty⟩⟩ := hlawful.failedReads outcome hold error hresult
        · exact ⟨herror, .inl hclosed⟩
        · rw [hfirst] at hempty
          cases hempty
      · -- What is queued is a packet, so that the read did not fail.
        obtain ⟨-, queued, -, hinbound, -⟩ := hlawful.delivered
        rw [hfirst] at hinbound
        obtain ⟨packet, left, -, rfl, -⟩ := List.map_eq_cons_iff.1 hinbound.symm
        rw [List.mem_singleton.1 hnew] at hresult
        cases hresult
  | close =>
      intro outcome hmem error hresult
      exact ⟨(hlawful.failedReads outcome hmem error hresult).1, .inl rfl⟩
  | dropFar =>
      intro outcome hmem error hresult
      exact (hlawful.failedReads outcome hmem error hresult).imp_right
        (Or.imp_right fun hends => ⟨rfl, hends.2⟩)
  | _ => exact hlawful.failedReads

theorem carried_moves (hlawful : run.Lawful capacity) (hmoves : Moves run step after) :
    ∃ lost, after.accepted = after.fetched ++ after.device.outbound ++ lost ∧
      (after.device.farGone = false → lost = []) := by
  obtain ⟨lost, haccepted, hlost⟩ := hlawful.carried
  have herror (call : DeviceCall) (error : IoError) :
      (DeviceOutcome.successes (run.hasWritten ++ [⟨call, .error error⟩])).map (·.call.octets) =
        run.fetched ++ run.device.outbound ++ lost := by
    rw [DeviceOutcome.successes_error]
    exact haccepted
  cases hmoves with
  | refuseWrite packet hclosed => exact ⟨lost, herror _ _, hlost⟩
  | failWrite hwrite hfar => exact ⟨lost, herror _ _, hlost⟩
  | @endWrite write hwrite hfar hroom =>
      have hadded : (DeviceOutcome.successes
          (run.hasWritten ++ [⟨write, .ok write.octets.length⟩])).map (·.call.octets) =
          run.accepted ++ [write.octets] := by
        rw [DeviceOutcome.successes_ok, List.map_append]
        rfl
      refine ⟨[], hadded.trans ?_, fun _ => rfl⟩
      rw [haccepted, hlost hfar, List.append_nil, List.append_nil, List.append_assoc]
  | @fetch packet rest hpacket =>
      refine ⟨lost, haccepted.trans ?_, hlost⟩
      rw [hpacket, List.append_cons run.fetched packet rest]
  | dropFar =>
      refine ⟨run.device.outbound ++ lost, haccepted.trans ?_, fun hfar => by cases hfar⟩
      change _ = run.fetched ++ [] ++ (run.device.outbound ++ lost)
      rw [List.append_nil, List.append_assoc]
  | _ => exact ⟨lost, haccepted, hlost⟩

theorem writes_moves (hlawful : run.Lawful capacity) (hmoves : Moves run step after) :
    ∀ outcome ∈ after.hasWritten,
      outcome.result = .ok outcome.call.octets.length ∨
        outcome.result = .error .deviceClosed ∧ after.Shut := by
  have hformer : ∀ outcome ∈ run.hasWritten,
      outcome.result = .ok outcome.call.octets.length ∨
        outcome.result = .error .deviceClosed ∧ after.Shut := fun outcome hmem =>
    (hlawful.writes outcome hmem).imp_right (And.imp_right fun hshut => hshut.moves hmoves)
  cases hmoves with
  | refuseWrite packet hclosed =>
      exact List.forall_mem_append.2
        ⟨hformer, List.forall_mem_singleton.2 (.inr ⟨rfl, .inl hclosed⟩)⟩
  | failWrite hwrite hfar =>
      exact List.forall_mem_append.2 ⟨hformer, List.forall_mem_singleton.2 (.inr ⟨rfl, .inr hfar⟩)⟩
  | endWrite hwrite hfar hroom =>
      exact List.forall_mem_append.2 ⟨hformer, List.forall_mem_singleton.2 (.inl rfl)⟩
  | _ => exact hformer

theorem capped_moves (hlawful : run.Lawful capacity) (hmoves : Moves run step after) :
    after.device.capacity? = some (capacity : ℕ) := by
  cases hmoves with
  | _ => exact hlawful.capped

theorem faultless_moves (hlawful : run.Lawful capacity) (hmoves : Moves run step after) :
    after.device.writeFault? = none := by
  cases hmoves with
  | _ => exact hlawful.faultless

theorem Lawful.hasRoom_iff (hlawful : run.Lawful capacity) {queued : Nat} :
    run.device.hasRoom queued = true ↔ queued < capacity := by
  rw [Device.hasRoom, hlawful.capped]
  exact decide_eq_true_iff

theorem bounded_moves (hlawful : run.Lawful capacity) (hmoves : Moves run step after) :
    after.device.inbound.length ≤ capacity ∧ after.device.outbound.length ≤ capacity := by
  obtain ⟨hinbound, houtbound⟩ := hlawful.bounded
  cases hmoves with
  | inject packet hfar hroom =>
      refine ⟨?_, houtbound⟩
      rw [List.length_append]
      exact hlawful.hasRoom_iff.1 hroom
  | endRead choice hread hholds hfirst =>
      rw [hfirst] at hinbound
      exact ⟨Nat.le_of_succ_le hinbound, houtbound⟩
  | endWrite hwrite hfar hroom =>
      refine ⟨hinbound, ?_⟩
      rw [List.length_append]
      exact hlawful.hasRoom_iff.1 hroom
  | fetch hpacket =>
      rw [hpacket] at houtbound
      exact ⟨hinbound, Nat.le_of_succ_le houtbound⟩
  | dropFar => exact ⟨hinbound, Nat.zero_le _⟩
  | _ => exact ⟨hinbound, houtbound⟩

theorem held_moves (hlawful : run.Lawful capacity) (hmoves : Moves run step after) :
    ∀ id, after.holder? = some id → id ∈ after.reads.map (·.id) := by
  have hleaves (gone id : Nat) (hholder : run.holder?.filter (· ≠ gone) = some id) :
      id ∈ (run.reads.filter (·.id ≠ gone)).map (·.id) := by
    obtain ⟨hholds, hother⟩ := Option.filter_eq_some_iff.1 hholder
    obtain ⟨read, hread, rfl⟩ := List.mem_map.1 (hlawful.held id hholds)
    exact List.mem_map.2 ⟨read, List.mem_filter.2 ⟨hread, hother⟩, rfl⟩
  cases hmoves with
  | beginRead buffer =>
      intro id hholder
      rw [List.map_append]
      exact List.mem_append_left _ (hlawful.held id hholder)
  | hold hread hfree =>
      rintro id ⟨⟩
      exact List.mem_map_of_mem hread
  | failRead choice hread hends => exact hleaves _
  | endRead choice hread hholds hfirst => exact hleaves _
  | cancelRead id => exact hleaves id
  | _ => exact hlawful.held

/-- Only a read or a write that begins is new. -/
theorem calls_moves (hmoves : Moves run step after) {call : DeviceCall}
    (hcall : call ∈ after.calls) :
    (call ∈ run.calls ∧ run.nextCall ≤ after.nextCall) ∨
      call.id = run.nextCall ∧ after.nextCall = run.nextCall + 1 := by
  simp only [calls, List.mem_append, List.mem_map] at hcall ⊢
  cases hmoves with
  | _ => grind

theorem emptied_moves (hlawful : run.Lawful capacity) (hmoves : Moves run step after)
    (hgone : after.device.farGone = true) : after.device.outbound = [] := by
  cases hmoves with
  | endWrite hwrite hfar hroom =>
      rw [show run.device.farGone = true from hgone] at hfar
      cases hfar
  | fetch hpacket =>
      rw [hlawful.emptied hgone] at hpacket
      cases hpacket
  | dropFar => rfl
  | _ => exact hlawful.emptied hgone

theorem Lawful.moves (hlawful : run.Lawful capacity) (hmoves : Moves run step after) :
    after.Lawful capacity where
  delivered := delivered_moves hlawful hmoves
  failedReads := failedReads_moves hlawful hmoves
  carried := carried_moves hlawful hmoves
  writes := writes_moves hlawful hmoves
  capped := capped_moves hlawful hmoves
  faultless := faultless_moves hlawful hmoves
  bounded := bounded_moves hlawful hmoves
  held := held_moves hlawful hmoves
  numbered call hcall := by
    rcases calls_moves hmoves hcall with ⟨hold, hnext⟩ | ⟨hid, hnext⟩
    · exact (hlawful.numbered call hold).trans_le hnext
    · rw [hid, hnext]
      exact Nat.lt_succ_self _
  emptied := emptied_moves hlawful hmoves

end

theorem Lawful.further {capacity : ℕ+} {run : DeviceRun} (hlawful : run.Lawful capacity)
    (steps : List Step) : (run.further steps).Lawful capacity :=
  further_induction hlawful (fun run step hlawful => hlawful.moves (run.moves step)) steps

theorem lawful_after (capacity : ℕ+) (steps : List Step) : (after capacity steps).Lawful capacity :=
  (lawful_start capacity).further steps

end DeviceRun

end PortalNat
