import PortalNat.Proofs.Packet.Filling

/-!
# Segments with new ports

Giving a segment new ports changes the four octets of the ports and the two of the checksum, and
nothing else. What comes out is intact, whatever the checksum was before: the new one is computed
from the segment as it is then.
-/

namespace PortalNat.Packet

open Octets (AgreeOutside word setWord)

def checksumPlace (protocol : UInt8) : Nat :=
  if protocol = Protocol.tcp then 16 else 6

def portPlaces (protocol : UInt8) : Set Nat :=
  Set.Ico 0 4 ∪ Set.Ico (checksumPlace protocol) (checksumPlace protocol + 2)

theorem portPlaces_tcp : portPlaces Protocol.tcp = Set.Ico 0 4 ∪ Set.Ico 16 18 := rfl

theorem portPlaces_udp : portPlaces Protocol.udp = Set.Ico 0 4 ∪ Set.Ico 6 8 := rfl

/-- Whether a TCP segment or UDP datagram is intact. -/
def segmentIntact (protocol : UInt8) (source destination : Address) (segment : Octets) : Bool :=
  if protocol = Protocol.tcp then TCP.checksumOk source destination segment
  else UDP.checksumOk source destination segment

/-- A segment is another one with new ports, and intact between the new endpoints. -/
structure Reported (protocol : UInt8) (source destination : Endpoint)
    (segment after : Octets) : Prop where
  agree : AgreeOutside (portPlaces protocol) segment after
  sourcePort : word after 0 = source.port
  destinationPort : word after 2 = destination.port
  intact : segmentIntact protocol source.address destination.address after = true

/-! ## Checked segments -/

/-- A segment that can be given ports is one of TCP or of UDP. -/
theorem checkPorts_iff (protocol : UInt8) (segment : Octets) :
    checkPorts protocol segment = .ok () ↔
      protocol = Protocol.tcp ∧ TCP.check segment = .ok () ∨
        protocol = Protocol.udp ∧ UDP.check segment = .ok () := by
  unfold checkPorts
  split_ifs with htcp hudp
  · subst htcp
    simp [Protocol.tcp, Protocol.udp]
  · subst hudp
    simp [Protocol.tcp, Protocol.udp]
  · simp [htcp, hudp]

def carrier (protocol : UInt8) : Carrier :=
  if protocol = Protocol.tcp then .tcp else .udp

theorem place_carrier (protocol : UInt8) : (carrier protocol).place = checksumPlace protocol := by
  unfold carrier checksumPlace
  split_ifs <;> rfl

theorem field_carrier_subset (protocol : UInt8) :
    (carrier protocol).field ⊆ portPlaces protocol := by
  rw [Carrier.field, place_carrier]
  exact Set.subset_union_right

theorem intact_carrier (protocol : UInt8) (source destination : Address) (segment : Octets) :
    (carrier protocol).intact source destination segment =
      segmentIntact protocol source destination segment := by
  unfold carrier segmentIntact
  split_ifs <;> rfl

theorem check_carrier {protocol : UInt8} {segment : Octets}
    (hcheck : checkPorts protocol segment = .ok ()) :
    (carrier protocol).check segment = .ok () := by
  rcases (checkPorts_iff protocol segment).1 hcheck with ⟨rfl, htcp⟩ | ⟨rfl, hudp⟩
  · exact htcp
  · exact hudp

/-- Whether a segment can be given ports does not depend on its ports and its checksum. -/
theorem checkPorts_congr {protocol : UInt8} {segment other : Octets}
    (hagree : AgreeOutside (portPlaces protocol) segment other) :
    checkPorts protocol other = checkPorts protocol segment := by
  unfold checkPorts
  split_ifs with htcp hudp
  · subst htcp
    have hoffset : TCP.headerLength other = TCP.headerLength segment := by
      rw [TCP.headerLength, TCP.headerLength, hagree.octet (by simp [portPlaces_tcp])]
    rw [TCP.check, TCP.check, hoffset, hagree.length]
  · subst hudp
    have hcount : UDP.length other = UDP.length segment :=
      hagree.word (by simp [portPlaces_udp]) (by simp [portPlaces_udp])
    rw [UDP.check, UDP.check, hcount, hagree.length]
  · rfl

/-! ## New ports -/

def ported (source destination : Endpoint) (segment : Octets) : Octets :=
  setWord (setWord segment 0 source.port) 2 destination.port

/-- A segment with new ports, and with the two octets at a place cleared for its checksum. -/
def blanked (place : Nat) (source destination : Endpoint) (segment : Octets) : Octets :=
  setWord (setWord (setWord segment 0 source.port) 2 destination.port) place 0

theorem rewritePorts_eq (protocol : UInt8) (source destination : Endpoint) (segment : Octets) :
    rewritePorts protocol source destination segment =
      (carrier protocol).fill source.address destination.address
        (ported source destination segment) := by
  unfold rewritePorts carrier
  split_ifs <;> rfl

section

variable {segment : Octets} (source destination : Endpoint) (hlong : 4 ≤ segment.length)
include hlong

theorem agree_ported : AgreeOutside (Set.Ico 0 4) segment (ported source destination segment) := by
  have hfirst := AgreeOutside.setWord segment 0 (by omega) source.port
  have hsecond := AgreeOutside.setWord (setWord segment 0 source.port) 2
    (by rw [hfirst.length]; omega) destination.port
  exact (hfirst.mono (Set.Ico_subset_Ico_right (by decide))).trans
    (hsecond.mono (Set.Ico_subset_Ico_left (by decide)))

theorem sourcePort_ported : word (ported source destination segment) 0 = source.port := by
  have hfirst := AgreeOutside.setWord segment 0 (by omega) source.port
  have hsecond := AgreeOutside.setWord (setWord segment 0 source.port) 2
    (by rw [hfirst.length]; omega) destination.port
  rw [ported, hsecond.word (by simp) (by simp), Octets.word_setWord (by omega)]

theorem destinationPort_ported :
    word (ported source destination segment) 2 = destination.port := by
  have hfirst := AgreeOutside.setWord segment 0 (by omega) source.port
  exact Octets.word_setWord (by rw [hfirst.length]; omega) destination.port

end

theorem checksumPlace_ge (protocol : UInt8) : 4 ≤ checksumPlace protocol := by
  unfold checksumPlace
  split <;> decide

/-- A checked segment has room for its ports and its checksum. -/
theorem checksumPlace_within {protocol : UInt8} {segment : Octets}
    (hcheck : checkPorts protocol segment = .ok ()) :
    checksumPlace protocol + 2 ≤ segment.length := by
  rw [← place_carrier]
  exact Carrier.place_within_length (check_carrier hcheck)

section

variable {protocol : UInt8} {segment : Octets} (source destination : Endpoint)
  (hcheck : checkPorts protocol segment = .ok ())
include hcheck

theorem checkPorts_ported :
    checkPorts protocol (ported source destination segment) = .ok () := by
  have hports := checksumPlace_ge protocol
  have hwithin := checksumPlace_within hcheck
  rw [checkPorts_congr ((agree_ported source destination (by omega)).mono Set.subset_union_left)]
  exact hcheck

/-- A checked segment with new ports agrees with the old one, has the ports and is intact. -/
theorem reported_rewritePorts (hlength : segment.length ≤ 65535) :
    Reported protocol source destination segment
      (rewritePorts protocol source destination segment) := by
  have hports := checksumPlace_ge protocol
  have hwithin := checksumPlace_within hcheck
  have hlong : 4 ≤ segment.length := by omega
  have hported := agree_ported source destination hlong
  have hcarrier := check_carrier (checkPorts_ported source destination hcheck)
  have hfilled := Carrier.agree_fill source.address destination.address hcarrier
  have hcovered := (carrier protocol).length_covered_le (ported source destination segment)
  have hfield (place : Nat) (hplace : place < 4) : place ∉ (carrier protocol).field := by
    rw [Carrier.field, place_carrier, Set.mem_Ico]
    omega
  rw [rewritePorts_eq]
  exact {
    agree := (hported.mono Set.subset_union_left).trans
      (hfilled.mono (field_carrier_subset protocol))
    sourcePort := by
      rw [hfilled.word (hfield 0 (by decide)) (hfield 1 (by decide)),
        sourcePort_ported source destination hlong]
    destinationPort := by
      rw [hfilled.word (hfield 2 (by decide)) (hfield 3 (by decide)),
        destinationPort_ported source destination hlong]
    intact := by
      rw [← intact_carrier]
      exact Carrier.intact_fill _ _ hcarrier (by rw [hported.length] at hcovered; omega) }

end

/-! ## Segments after new ports -/

theorem Reported.checkPorts {protocol : UInt8} {source destination : Endpoint}
    {segment after : Octets} (hreported : Reported protocol source destination segment after)
    (hcheck : Packet.checkPorts protocol segment = .ok ()) :
    Packet.checkPorts protocol after = .ok () :=
  (checkPorts_congr hreported.agree).trans hcheck

end PortalNat.Packet
