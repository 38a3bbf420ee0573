import Mathlib.Tactic
import PortalNat.Device

/-!
# Runs of a packet device

Reads and writes of a device take their steps in any order, among packets that the far end hands in
and fetches, reads and writes that are given up, and the closing of either side. A read first gets
the queue to itself and then takes a packet from it. On a closed device both can fail instead, and
where a packet is queued as well, either may happen. A write looks once whether the device is closed
and then waits for room.

This module says once what a step can do: what has to be the case for it and what it leaves.
-/

namespace PortalNat

namespace Device

/-- What a write that has looked whether the device is closed comes to now. It waits while there is
no room. -/
def push (device : Device) (packet : Octets) : Option (Except IoError Nat × Device) :=
  if device.farGone then some (.error .deviceClosed, device)
  else if device.hasRoom device.outbound.length then
    some (.ok packet.length, { device with outbound := device.outbound ++ [packet] })
  else none

/-- A write that nothing comes between looks whether the device is closed and goes on at once. -/
theorem send_eq {device : Device} (hwrites : device.writeFault? = none) (packet : Octets) :
    device.send packet =
      if device.closed then (some (.error .deviceClosed), device)
      else ((device.push packet).map (·.1), ((device.push packet).map (·.2)).getD device) := by
  unfold send push
  rw [hwrites]
  cases device.closed <;> cases device.farGone <;>
    cases device.hasRoom device.outbound.length <;> rfl

/-- A read comes to an error only on a closed device or once nothing more can come, and otherwise to
what is first in the queue. -/
theorem mem_receptions {device after : Device} {buffer : Octets}
    {result : Except IoError (Nat × Octets)}
    (hreception : (result, after) ∈ device.receptions buffer) :
    (result = .error .deviceClosed ∧ after = device ∧
      (device.closed = true ∨ device.farGone = true ∧ device.inbound = [])) ∨
    ∃ first rest, device.inbound = first :: rest ∧ result = first.map (received buffer) ∧
      after = { device with inbound := rest } := by
  rcases List.mem_append.1 hreception with hclosing | hreading
  · split_ifs at hclosing with hclosed
    · cases List.mem_singleton.1 hclosing
      exact .inl ⟨rfl, rfl, .inl hclosed⟩
    · cases hclosing
  · cases hinbound : device.inbound with
    | nil =>
        simp only [hinbound] at hreading
        split_ifs at hreading with hfar
        · cases List.mem_singleton.1 hreading
          exact .inl ⟨rfl, rfl, .inr ⟨hfar, rfl⟩⟩
        · cases hreading
    | cons first rest =>
        simp only [hinbound] at hreading
        cases List.mem_singleton.1 hreading
        exact .inr ⟨first, rest, rfl, rfl, rfl⟩

end Device

structure DeviceCall where
  id : Nat
  /-- The buffer of a read, or the packet of a write. -/
  octets : Octets

structure DeviceOutcome (Value : Type) where
  call : DeviceCall
  result : Except IoError Value

/-- A device with its reads and writes, and what has come through it so far, the oldest first. -/
structure DeviceRun where
  device : Device
  reads : List DeviceCall := []
  /-- The read that has the queue to itself. -/
  holder? : Option Nat := none
  writes : List DeviceCall := []
  nextCall : Nat := 0
  /-- The packets that the far end handed in. -/
  injected : List Octets := []
  /-- The packets that the far end fetched. -/
  fetched : List Octets := []
  hasRead : List (DeviceOutcome (Nat × Octets)) := []
  hasWritten : List (DeviceOutcome Nat) := []

namespace DeviceRun

/-- What can happen to a device at one stroke. Where a read can end in several ways, the step says
which one it takes. -/
inductive Step where
  | inject (packet : Octets)
  | beginRead (buffer : Octets)
  | hold (id : Nat)
  | endRead (id : Nat) (choice : Nat)
  | cancelRead (id : Nat)
  | beginWrite (packet : Octets)
  | endWrite (id : Nat)
  | cancelWrite (id : Nat)
  | fetch
  | close
  | dropFar

/-- A device whose queues hold a number of packets each. -/
def start (capacity : ℕ+) : DeviceRun :=
  { device := { capacity? := some capacity } }

/-- The ways in which a read can end now. Without the queue to itself it can only find the device
closed. -/
def endings (run : DeviceRun) (read : DeviceCall) : List (Except IoError (Nat × Octets) × Device) :=
  if run.holder? = some read.id then run.device.receptions read.octets
  else if run.device.closed then [(.error .deviceClosed, run.device)]
  else []

/-- The run after one more step. A step that cannot be taken changes nothing. A read that returns or
is given up leaves the queue to the others. -/
def apply (run : DeviceRun) : Step → DeviceRun
  | .inject packet =>
    if run.device.farGone then run
    else
      match run.device.inject packet with
      | some device => { run with device, injected := run.injected ++ [packet] }
      | none => run
  | .beginRead buffer =>
    { run with reads := run.reads ++ [⟨run.nextCall, buffer⟩], nextCall := run.nextCall + 1 }
  | .hold id =>
    if run.holder?.isNone ∧ id ∈ run.reads.map (·.id) then { run with holder? := some id } else run
  | .endRead id choice =>
    match run.reads.find? (·.id = id) with
    | none => run
    | some read =>
      match (run.endings read)[choice]? with
      | none => run
      | some (result, device) =>
        { run with
          device
          reads := run.reads.filter (·.id ≠ id)
          holder? := run.holder?.filter (· ≠ id)
          hasRead := run.hasRead ++ [⟨read, result⟩] }
  | .cancelRead id =>
    { run with reads := run.reads.filter (·.id ≠ id), holder? := run.holder?.filter (· ≠ id) }
  | .beginWrite packet =>
    let call : DeviceCall := ⟨run.nextCall, packet⟩
    if run.device.closed then
      { run with
        nextCall := run.nextCall + 1
        hasWritten := run.hasWritten ++ [⟨call, .error .deviceClosed⟩] }
    else { run with writes := run.writes ++ [call], nextCall := run.nextCall + 1 }
  | .endWrite id =>
    match run.writes.find? (·.id = id) with
    | none => run
    | some write =>
      match run.device.push write.octets with
      | none => run
      | some (result, device) =>
        { run with
          device
          writes := run.writes.filter (·.id ≠ id)
          hasWritten := run.hasWritten ++ [⟨write, result⟩] }
  | .cancelWrite id => { run with writes := run.writes.filter (·.id ≠ id) }
  | .fetch =>
    match run.device.nextWritten with
    | (some packet, device) => { run with device, fetched := run.fetched ++ [packet] }
    | (none, _) => run
  | .close => { run with device := run.device.close }
  | .dropFar => { run with device := run.device.dropFar }

/-- The steps that do something: what has to be the case for them, and what they leave. -/
inductive Moves (run : DeviceRun) : Step → DeviceRun → Prop
  | idle (step : Step) : Moves run step run
  | inject (packet : Octets) (hfar : run.device.farGone = false)
      (hroom : run.device.hasRoom run.device.inbound.length = true) :
      Moves run (.inject packet)
        { run with
          device := { run.device with inbound := run.device.inbound ++ [.ok packet] }
          injected := run.injected ++ [packet] }
  | beginRead (buffer : Octets) :
      Moves run (.beginRead buffer)
        { run with reads := run.reads ++ [⟨run.nextCall, buffer⟩], nextCall := run.nextCall + 1 }
  | hold {read : DeviceCall} (hread : read ∈ run.reads) (hfree : run.holder? = none) :
      Moves run (.hold read.id) { run with holder? := some read.id }
  | failRead {read : DeviceCall} (choice : Nat) (hread : read ∈ run.reads)
      (hends : run.device.closed = true ∨ run.device.farGone = true ∧ run.device.inbound = []) :
      Moves run (.endRead read.id choice)
        { run with
          reads := run.reads.filter (·.id ≠ read.id)
          holder? := run.holder?.filter (· ≠ read.id)
          hasRead := run.hasRead ++ [⟨read, .error .deviceClosed⟩] }
  | endRead {read : DeviceCall} {first : Except IoError Octets}
      {rest : List (Except IoError Octets)} (choice : Nat) (hread : read ∈ run.reads)
      (hholds : run.holder? = some read.id) (hfirst : run.device.inbound = first :: rest) :
      Moves run (.endRead read.id choice)
        { run with
          device := { run.device with inbound := rest }
          reads := run.reads.filter (·.id ≠ read.id)
          holder? := run.holder?.filter (· ≠ read.id)
          hasRead := run.hasRead ++ [⟨read, first.map (Device.received read.octets)⟩] }
  | cancelRead (id : Nat) :
      Moves run (.cancelRead id)
        { run with reads := run.reads.filter (·.id ≠ id), holder? := run.holder?.filter (· ≠ id) }
  | refuseWrite (packet : Octets) (hclosed : run.device.closed = true) :
      Moves run (.beginWrite packet)
        { run with
          nextCall := run.nextCall + 1
          hasWritten := run.hasWritten ++ [⟨⟨run.nextCall, packet⟩, .error .deviceClosed⟩] }
  | beginWrite (packet : Octets) (hopen : run.device.closed = false) :
      Moves run (.beginWrite packet)
        { run with writes := run.writes ++ [⟨run.nextCall, packet⟩], nextCall := run.nextCall + 1 }
  | failWrite {write : DeviceCall} (hwrite : write ∈ run.writes)
      (hfar : run.device.farGone = true) :
      Moves run (.endWrite write.id)
        { run with
          writes := run.writes.filter (·.id ≠ write.id)
          hasWritten := run.hasWritten ++ [⟨write, .error .deviceClosed⟩] }
  | endWrite {write : DeviceCall} (hwrite : write ∈ run.writes)
      (hfar : run.device.farGone = false)
      (hroom : run.device.hasRoom run.device.outbound.length = true) :
      Moves run (.endWrite write.id)
        { run with
          device := { run.device with outbound := run.device.outbound ++ [write.octets] }
          writes := run.writes.filter (·.id ≠ write.id)
          hasWritten := run.hasWritten ++ [⟨write, .ok write.octets.length⟩] }
  | cancelWrite (id : Nat) :
      Moves run (.cancelWrite id) { run with writes := run.writes.filter (·.id ≠ id) }
  | fetch {packet : Octets} {rest : List Octets} (hpacket : run.device.outbound = packet :: rest) :
      Moves run .fetch
        { run with
          device := { run.device with outbound := rest }, fetched := run.fetched ++ [packet] }
  | close : Moves run .close { run with device := run.device.close }
  | dropFar : Moves run .dropFar { run with device := run.device.dropFar }

theorem mem_of_find? {calls : List DeviceCall} {id : Nat} {call : DeviceCall}
    (hfind : calls.find? (·.id = id) = some call) : call ∈ calls ∧ call.id = id :=
  ⟨List.mem_of_find?_eq_some hfind, by simpa using List.find?_some hfind⟩

theorem mem_endings {run : DeviceRun} {read : DeviceCall}
    {result : Except IoError (Nat × Octets)} {device : Device}
    (hending : (result, device) ∈ run.endings read) :
    (result = .error .deviceClosed ∧ device = run.device ∧
      (run.device.closed = true ∨ run.device.farGone = true ∧ run.device.inbound = [])) ∨
    run.holder? = some read.id ∧ ∃ first rest, run.device.inbound = first :: rest ∧
      result = first.map (Device.received read.octets) ∧
      device = { run.device with inbound := rest } := by
  unfold endings at hending
  split_ifs at hending with hholds hclosed
  · exact (Device.mem_receptions hending).imp_right fun htakes => ⟨hholds, htakes⟩
  · cases List.mem_singleton.1 hending
    exact .inl ⟨rfl, rfl, .inl hclosed⟩
  · cases hending

theorem moves (run : DeviceRun) (step : Step) : Moves run step (run.apply step) := by
  cases step with
  | inject packet =>
      simp only [apply, Device.inject]
      by_cases hfar : run.device.farGone = true
      · rw [if_pos hfar]
        exact .idle _
      · by_cases hroom : run.device.hasRoom run.device.inbound.length = true
        · simp only [if_neg hfar, if_pos hroom]
          exact .inject packet (Bool.eq_false_iff.2 hfar) hroom
        · simp only [if_neg hfar, if_neg hroom]
          exact .idle _
  | beginRead buffer => exact .beginRead buffer
  | hold id =>
      simp only [apply]
      split_ifs with hholds
      · obtain ⟨hfree, hmem⟩ := hholds
        obtain ⟨read, hread, rfl⟩ := List.mem_map.1 hmem
        exact .hold hread (Option.isNone_iff_eq_none.1 hfree)
      · exact .idle _
  | endRead id choice =>
      cases hfind : run.reads.find? (·.id = id) with
      | none =>
          simp only [apply, hfind]
          exact .idle _
      | some read =>
          obtain ⟨hread, rfl⟩ := mem_of_find? hfind
          cases hending : (run.endings read)[choice]? with
          | none =>
              simp only [apply, hfind, hending]
              exact .idle _
          | some ending =>
              simp only [apply, hfind, hending]
              obtain ⟨result, device⟩ := ending
              rcases mem_endings (List.mem_of_getElem? hending) with
                ⟨rfl, rfl, hends⟩ | ⟨hholds, first, rest, hfirst, rfl, rfl⟩
              · exact .failRead choice hread hends
              · exact .endRead choice hread hholds hfirst
  | cancelRead id => exact .cancelRead id
  | beginWrite packet =>
      simp only [apply]
      split_ifs with hclosed
      · exact .refuseWrite packet hclosed
      · exact .beginWrite packet (Bool.eq_false_iff.2 hclosed)
  | endWrite id =>
      cases hfind : run.writes.find? (·.id = id) with
      | none =>
          simp only [apply, hfind]
          exact .idle _
      | some write =>
          obtain ⟨hwrite, rfl⟩ := mem_of_find? hfind
          simp only [apply, hfind, Device.push]
          by_cases hfar : run.device.farGone = true
          · simp only [hfar, if_true]
            exact .failWrite hwrite hfar
          · by_cases hroom : run.device.hasRoom run.device.outbound.length = true
            · simp only [if_neg hfar, if_pos hroom]
              exact .endWrite hwrite (Bool.eq_false_iff.2 hfar) hroom
            · simp only [if_neg hfar, if_neg hroom]
              exact .idle _
  | cancelWrite id => exact .cancelWrite id
  | fetch =>
      cases houtbound : run.device.outbound with
      | nil =>
          simp only [apply, Device.nextWritten, houtbound]
          exact .idle _
      | cons packet rest =>
          simp only [apply, Device.nextWritten, houtbound]
          exact .fetch houtbound
  | close => exact .close
  | dropFar => exact .dropFar

def further (run : DeviceRun) (steps : List Step) : DeviceRun :=
  steps.foldl apply run

/-- The run of some steps from an empty device. -/
def after (capacity : ℕ+) (steps : List Step) : DeviceRun :=
  (start capacity).further steps

theorem further_append (run : DeviceRun) (earlier later : List Step) :
    run.further (earlier ++ later) = (run.further earlier).further later :=
  List.foldl_append

/-- What holds at first and is kept by every step holds after any number of steps. -/
theorem further_induction {motive : DeviceRun → Prop} {run : DeviceRun} (hrun : motive run)
    (hstep : ∀ run step, motive run → motive (apply run step)) (steps : List Step) :
    motive (run.further steps) :=
  List.foldlRecOn steps apply hrun fun run hrun step _ => hstep run step hrun

end DeviceRun

end PortalNat
