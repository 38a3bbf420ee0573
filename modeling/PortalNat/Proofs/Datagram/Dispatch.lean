import PortalNat.Proofs.Datagram.Template
import PortalNat.Proofs.Redirection.Judgement
import PortalNat.Translator

/-!
# Datagrams for the handler

A datagram reaches the handler only if the rules let its packet in and its length field fits. Then
the handler gets its endpoints and payload as they stand in the packet, and in push mode a template
that was made from just this packet.
-/

namespace PortalNat

/-- Some octets hold a datagram that rules let in. -/
structure Rules.Dispatches (rules : Rules) (bytes : Octets) (packet : Packet)
    (datagram : Datagram) : Prop where
  admitted : rules.Admitted bytes packet
  protocol : packet.protocol = Protocol.udp
  checked : UDP.check packet.payload = .ok ()
  source : datagram.source = Endpoint.of packet.source (UDP.sourcePort packet.payload)
  destination :
    datagram.destination = Endpoint.of packet.destination (UDP.destinationPort packet.payload)
  payload : datagram.payload = UDP.payload packet.payload

section

variable {rules : Rules} {bytes : Octets} {packet : Packet} {datagram : Datagram}
  (hdispatches : rules.Dispatches bytes packet datagram)
include hdispatches

theorem Rules.Dispatches.wellFormed : packet.WellFormed :=
  (Packet.wellFormed_of_parse hdispatches.admitted.parse).2

theorem Rules.Dispatches.client_family : datagram.source.family = packet.family := by
  rw [hdispatches.source]
  exact packet.family_source

/-- Replies to a datagram that was let in come out as they should. -/
theorem Rules.Dispatches.makesReply (payload : Octets) (address : Address) (port : UInt16) :
    MakesReply (Endpoint.of address port) datagram.source payload
      ((ReplyTemplate.ofRequest packet datagram.source datagram.destination).build payload
        (Endpoint.of address port)) := by
  have hfamily := hdispatches.client_family
  have hlong := ((Packet.udp_check_iff packet.payload).1 hdispatches.checked).1
  let template := ReplyTemplate.ofRequest packet datagram.source datagram.destination
  have hclient : Endpoint.of template.client.address template.client.port = template.client := by
    change Endpoint.of datagram.source.address datagram.source.port = datagram.source
    rw [hdispatches.source]
    rfl
  have hframed (hfits : ReplyTemplate.statedLength template.client.family payload.length ≤ 65535) :
      (template.draft payload).Framed payload := by
    rw [ReplyTemplate.draft_ofRequest hfamily]
    exact ReplyTemplate.framed_draftFor hdispatches.wellFormed hlong payload (hfamily ▸ hfits)
      hdispatches.admitted.whole hdispatches.protocol
  exact ReplyTemplate.makesReply_build rfl hclient hframed

/-- A datagram that was let in is handed on, and touches no session. -/
theorem Rules.Dispatches.judge (table : SessionTable) (stopped : Bool) (now : Nat) :
    rules.judge table stopped bytes now =
      (.deliver datagram (.ofRequest packet datagram.source datagram.destination), table) := by
  have hparse := hdispatches.admitted.parse
  have hwhole := hdispatches.admitted.whole
  have hadmits := hdispatches.admitted.admits
  have hdatagram : Verdict.ofDatagram packet =
      .deliver datagram (.ofRequest packet datagram.source datagram.destination) := by
    simp only [Verdict.ofDatagram, hdispatches.checked, hdispatches.source,
      hdispatches.destination, ← hdispatches.payload]
    rw [← hdispatches.source, ← hdispatches.destination]
  simp only [Rules.judge, hparse, hwhole, hadmits, judgeAdmitted, hdispatches.protocol, hdatagram]
  rfl

end

theorem ofRedirection_ne_deliver (result : Except NatError (Direction × Packet))
    (datagram : Datagram) (template : ReplyTemplate) :
    Verdict.ofRedirection result ≠ .deliver datagram template := by
  cases result with
  | ok sent => exact fun hdeliver => nomatch hdeliver
  | error error =>
      intro hdeliver
      change Verdict.ofError error = _ at hdeliver
      unfold Verdict.ofError at hdeliver
      split at hdeliver <;> cases hdeliver

/-- A datagram is handed on exactly if the rules let it in. -/
theorem Rules.judge_eq_deliver_iff (rules : Rules) (table : SessionTable) (stopped : Bool)
    (bytes : Octets) (now : Nat) (datagram : Datagram) (template : ReplyTemplate) :
    (rules.judge table stopped bytes now).1 = .deliver datagram template ↔
      ∃ packet, rules.Dispatches bytes packet datagram ∧
        template = .ofRequest packet datagram.source datagram.destination := by
  constructor
  · intro hdeliver
    obtain ⟨verdict, after, hjudge, hjudged⟩ := rules.judged table stopped bytes now
    rw [hjudge] at hdeliver
    cases hjudged with
    | unread | fragment | excluded | unsupported => cases hdeliver
    | segment => exact absurd hdeliver (ofRedirection_ne_deliver _ datagram template)
    | control =>
        rw [Verdict.ofControl] at hdeliver
        split at hdeliver <;> cases hdeliver
    | @datagram packet hadmitted hprotocol =>
        cases hcheck : UDP.check packet.payload with
        | error error =>
            simp only [Verdict.ofDatagram, hcheck] at hdeliver
            cases hdeliver
        | ok =>
            simp only [Verdict.ofDatagram, hcheck] at hdeliver
            cases hdeliver
            exact ⟨packet, ⟨hadmitted, hprotocol, hcheck, rfl, rfl, rfl⟩, rfl⟩
  · rintro ⟨packet, hdispatches, rfl⟩
    rw [hdispatches.judge]

namespace Translator

theorem messages_write (translator : Translator) (packet : Octets) :
    (translator.write packet).messages = translator.messages := by
  rw [write_eq]
  cases translator.device.refusal? <;> rfl

/-- In push mode the handler gets a datagram only by a verdict to hand it on. -/
theorem messages_carryOut (translator : Translator) (hpush : translator.reads? = none)
    (verdict : Verdict) {message : Message}
    (hhanded : (translator.carryOut verdict).messages = translator.messages ++ [message]) :
    ∃ template, verdict = .deliver message.datagram template ∧
      message.back = .template template := by
  have hnothing : translator.messages ≠ translator.messages ++ [message] := by simp
  cases verdict with
  | write event packet =>
      rw [carryOut, messages_write] at hhanded
      exact absurd hhanded hnothing
  | ignore => exact absurd hhanded hnothing
  | drop reason report? => cases report? <;> exact absurd hhanded hnothing
  | deliver datagram template =>
      have hdelivered : (translator.carryOut (.deliver datagram template)).messages =
          translator.messages ++ [⟨datagram, .template template⟩] := by
        simp only [carryOut, deliver, record, hpush, hand]
      rw [hdelivered, List.append_cancel_left_eq] at hhanded
      cases hhanded
      exact ⟨template, rfl, rfl⟩

/-- What the handler gets in push mode is a datagram that the rules let in, and with it the way back
that belongs to its packet. -/
theorem dispatches_of_messages {translator : Translator} {bytes : Octets} {now : Nat}
    {message : Message} (hpush : translator.reads? = none)
    (hhanded : (translator.process bytes now).messages = translator.messages ++ [message]) :
    ∃ packet, translator.rules.Dispatches bytes packet message.datagram ∧
      message.back = .template
        (.ofRequest packet message.datagram.source message.datagram.destination) := by
  obtain ⟨template, hverdict, hback⟩ := messages_carryOut
    { translator with
      sessions := (translator.rules.judge translator.sessions translator.stopped bytes now).2 }
    hpush _ hhanded
  obtain ⟨packet, hdispatches, rfl⟩ := (Rules.judge_eq_deliver_iff ..).1 hverdict
  exact ⟨packet, hdispatches, hback⟩

end Translator

end PortalNat
