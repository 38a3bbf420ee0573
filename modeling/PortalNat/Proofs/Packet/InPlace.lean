import PortalNat.Proofs.Packet.Readdress

/-!
# Readdressing in the buffer

The translator has one buffer for a packet and changes it field by field, so a change that fails on
its way could leave half of its work behind. Here the endpoints of a packet are replaced in its
buffer, one field after the other, and a failure keeps what was written before it. This comes to the
same as `rewriteEndpoints`, and after a failure the buffer is as it was: all that can fail is
checked before the first write.
-/

namespace PortalNat.Packet

/-- A change of a packet in its buffer. A failure keeps what was written before it. -/
abbrev Edit := EStateM PacketError Packet

def Edit.require (check : Except PacketError Unit) : Edit Unit :=
  match check with
  | .ok () => pure ()
  | .error error => throw error

def Edit.write (change : Packet → Except PacketError Packet) : Edit Unit := do
  match change (← get) with
  | .ok after => set after
  | .error error => throw error

/-- Give a TCP or UDP packet new endpoints and renew every checksum it carries, in its buffer. -/
def editEndpoints (source destination : Endpoint) : Edit Unit := do
  let packet ← get
  if let some address := mismatch? packet.family [source.address, destination.address] then
    throw (.familyMismatch address)
  Edit.require (checkPorts packet.protocol packet.payload)
  Edit.write (·.setSource source.address)
  Edit.write (·.setDestination destination.address)
  modify fun moved =>
    moved.withPayload (rewritePorts packet.protocol source destination moved.payload)
  modify fillChecksum

theorem Edit.run_require (check : Except PacketError Unit) (packet : Packet) :
    (require check).run packet =
      match check with
      | .ok () => .ok () packet
      | .error error => .error error packet := by
  cases check <;> rfl

theorem Edit.run_write (change : Packet → Except PacketError Packet) (packet : Packet) :
    (write change).run packet =
      match change packet with
      | .ok after => .ok () after
      | .error error => .error error packet := by
  rw [write, EStateM.run_bind, EStateM.run_get]
  simp only []
  cases change packet <;> rfl

/-- Readdressing in the buffer succeeds when `rewriteEndpoints` does and then leaves the readdressed
packet there. When it fails the buffer is as it was. -/
theorem run_editEndpoints (packet : Packet) (source destination : Endpoint) :
    (editEndpoints source destination).run packet =
      match packet.rewriteEndpoints source destination with
      | .ok after => .ok () after
      | .error error => .error error packet := by
  rw [editEndpoints, EStateM.run_bind, EStateM.run_get]
  simp only []
  cases hmatch : mismatch? packet.family [source.address, destination.address] with
  | some address =>
      simp only [rewriteEndpoints, hmatch]
      rfl
  | none =>
      simp only [EStateM.run_bind, Edit.run_require]
      cases hports : checkPorts packet.protocol packet.payload with
      | error error =>
          simp only [rewriteEndpoints, hmatch, hports]
          rfl
      | ok =>
          -- From here on nothing fails, since both addresses are of the version of the packet.
          obtain ⟨hsource, hdestination⟩ := (mismatch?_eq_none_iff packet.family _ _).1 hmatch
          have hfirst := setSource_eq packet hsource
          have hsecond : (packet.withSource source.address).setDestination destination.address =
              .ok ((packet.withSource source.address).withDestination destination.address) :=
            setDestination_eq (packet.withSource source.address) hdestination
          simp only [Edit.run_write, hfirst, hsecond, EStateM.run_modify, rewriteEndpoints, hmatch,
            hports, bind, Except.bind]
          rfl

end PortalNat.Packet
