import PortalNat.Error

/-!
# Packet devices

A device delivers whole packets and takes whole packets. What it will deliver, a packet or a
failure, is queued in order, and so is what it took until the far end fetches it. A queue may have a
bound. A device is closed for good, from either side.
-/

namespace PortalNat

structure Device where
  /-- The most packets that a queue holds, if there is a bound. -/
  capacity? : Option Nat := none
  /-- What the next reads come to. -/
  inbound : List (Except IoError Octets) := []
  /-- The packets that were written, the oldest first. -/
  outbound : List Octets := []
  closed : Bool := false
  /-- Whether the far end is gone. -/
  farGone : Bool := false
  /-- How every write fails, if writes fail at all. -/
  writeFault? : Option IoError := none

namespace Device

/-- Whether one more packet fits a queue of the given length. -/
def hasRoom (device : Device) (queued : Nat) : Bool :=
  device.capacity?.all (queued < ·)

/-- Queue a packet for reading, if it fits. -/
def inject (device : Device) (packet : Octets) : Option Device :=
  if device.hasRoom device.inbound.length then
    some { device with inbound := device.inbound ++ [.ok packet] }
  else none

/-- Let a read fail after what is queued. -/
def injectFault (device : Device) (error : IoError) : Device :=
  { device with inbound := device.inbound ++ [.error error] }

def close (device : Device) : Device :=
  { device with closed := true }

/-- Take the far end away, with all that it did not fetch. -/
def dropFar (device : Device) : Device :=
  { device with farGone := true, outbound := [] }

/-- How many octets of a packet a read puts into a buffer, and the buffer afterwards. -/
def received (buffer packet : Octets) : Nat × Octets :=
  (min packet.length buffer.length, Octets.copyInto buffer packet)

/-- What reading into a buffer can come to now. A read of a closed device may still find what was
queued before. There is nothing to come to if the read has to wait. -/
def receptions (device : Device) (buffer : Octets) :
    List (Except IoError (Nat × Octets) × Device) :=
  let closing := if device.closed then [(.error .deviceClosed, device)] else []
  let reading := match device.inbound with
    | result :: rest => [(result.map (received buffer), { device with inbound := rest })]
    | [] => if device.farGone then [(.error .deviceClosed, device)] else []
  closing ++ reading

/-- Read into a buffer, where a device that was closed is found closed first. A read that has to
wait has no result. -/
def recv (device : Device) (buffer : Octets) : Option (Except IoError (Nat × Octets)) × Device :=
  match device.receptions buffer with
  | [] => (none, device)
  | (result, device) :: _ => (some result, device)

/-- Write a packet. A write that has to wait for room has no result. -/
def send (device : Device) (packet : Octets) : Option (Except IoError Nat) × Device :=
  match device.writeFault? with
  | some error => (some (.error error), device)
  | none =>
    if device.closed || device.farGone then (some (.error .deviceClosed), device)
    else if device.hasRoom device.outbound.length then
      (some (.ok packet.length), { device with outbound := device.outbound ++ [packet] })
    else (none, device)

/-- Write a packet, however long that has to wait for room. It then stands behind all that was
written before. -/
def write (device : Device) (packet : Octets) : Except IoError Nat × Device :=
  match device.send packet with
  | (some result, device) => (result, device)
  | (none, device) =>
    (.ok packet.length, { device with outbound := device.outbound ++ [packet] })

/-- Why a device refuses every write, if it does. -/
def refusal? (device : Device) : Option IoError :=
  match device.writeFault? with
  | some error => some error
  | none => if device.closed || device.farGone then some .deviceClosed else none

/-- The device with more packets behind those that were written. -/
def extended (device : Device) (packets : List Octets) : Device :=
  { device with outbound := device.outbound ++ packets }

@[simp]
theorem refusal?_extended (device : Device) (packets : List Octets) :
    (device.extended packets).refusal? = device.refusal? := rfl

theorem write_eq (device : Device) (packet : Octets) :
    device.write packet =
      match device.refusal? with
      | some error => (.error error, device)
      | none => (.ok packet.length, device.extended [packet]) := by
  rcases device with ⟨capacity?, inbound, outbound, closed, farGone, _ | error⟩
  · by_cases hclosed : (closed || farGone) = true
    · simp only [write, send, refusal?, if_pos hclosed]
    · simp only [write, send, refusal?, if_neg hclosed, extended]
      generalize hasRoom _ outbound.length = room
      cases room <;> rfl
  · rfl

/-- Fetch the oldest packet that was written. -/
def nextWritten (device : Device) : Option Octets × Device :=
  (device.outbound.head?, { device with outbound := device.outbound.tail })

end Device

end PortalNat
