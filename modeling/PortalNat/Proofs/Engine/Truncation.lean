import PortalNat.Proofs.Engine.Pumping
import PortalNat.Proofs.Packet.Padding

/-!
# Packets that are read in part

The device is read into a buffer of fixed size, and the rest of a packet that is longer is lost. The
verdict on what was read depends on the octets of the packet alone, up to its declared length. So
what a read leaves out either was no part of the packet, and nothing changes, or it was, and the
packet is dropped as malformed. In the same way nothing changes if more was read than the packet.
-/

namespace PortalNat

/-! ## Verdicts -/

section

variable (padding : Octets) {packet : Packet} (hwell : packet.WellFormed)
include hwell

theorem Redirector.route_padded (redirector : Redirector) (table : SessionTable) (stopped : Bool)
    (now : Nat) :
    redirector.route table stopped (packet.padded padding) now =
      redirector.route table stopped packet now := by
  have hsender : (packet.padded padding).sender = packet.sender := by
    rw [Packet.sender, Packet.sender, Packet.payload_padded padding hwell,
      Packet.source_padded padding hwell]
  have hreceiver : (packet.padded padding).receiver = packet.receiver := by
    rw [Packet.receiver, Packet.receiver, Packet.payload_padded padding hwell,
      Packet.destination_padded padding hwell]
  simp only [route, Packet.flow, hsender, hreceiver, Packet.payload_padded padding hwell,
    (Packet.sameShape_padded padding hwell).family]

theorem Verdict.ofRedirection_padded (result : Except NatError Route) :
    ofRedirection (result.bind (packet.padded padding).follow) =
      ofRedirection (result.bind packet.follow) := by
  cases result with
  | error error => rfl
  | ok route =>
      simp only [Except.bind, Packet.follow, Packet.rewriteEndpoints_padded padding hwell]
      cases hafter : packet.rewriteEndpoints route.source route.destination with
      | error error => rfl
      | ok after =>
          obtain ⟨-, -, -, hreaddressed⟩ := Packet.readdressed_of_rewriteEndpoints hwell hafter
          exact congrArg (write (eventOf route.direction))
            (Packet.declared_padded padding (hreaddressed.wellFormed hwell))

theorem Verdict.ofDatagram_padded : ofDatagram (packet.padded padding) = ofDatagram packet := by
  simp only [ofDatagram, ReplyTemplate.ofRequest, Packet.payload_padded padding hwell,
    Packet.header_padded padding hwell, Packet.source_padded padding hwell,
    Packet.destination_padded padding hwell, (Packet.sameShape_padded padding hwell).family]

theorem Verdict.ofControl_padded (echo : EchoResponder) :
    ofControl echo (packet.padded padding) = ofControl echo packet := by
  rw [ofControl, ofControl, EchoResponder.answer?_padded padding hwell]
  cases hanswer : echo.answer? packet with
  | none => rfl
  | some answer =>
      exact congrArg (write .echo)
        (Packet.declared_padded padding (EchoResponder.wellFormed_answer hwell hanswer))

theorem Rules.judgeAdmitted_padded (rules : Rules) (table : SessionTable) (stopped : Bool)
    (now : Nat) :
    rules.judgeAdmitted table stopped (packet.padded padding) now =
      rules.judgeAdmitted table stopped packet now := by
  simp only [judgeAdmitted, (Packet.sameShape_padded padding hwell).protocol,
    Redirector.redirect_eq_route, rules.redirector.route_padded padding hwell,
    Verdict.ofRedirection_padded padding hwell, Verdict.ofDatagram_padded padding hwell,
    Verdict.ofControl_padded padding hwell]

end

namespace Rules

variable (rules : Rules) (table : SessionTable) (stopped : Bool) {bytes : Octets} {packet : Packet}
  (now : Nat)

/-- What follows a packet plays no part in the verdict on it. -/
theorem judge_append (hparse : Packet.parse bytes = .ok packet) (padding : Octets) :
    rules.judge table stopped (bytes ++ padding) now = rules.judge table stopped bytes now := by
  have hwell := (Packet.wellFormed_of_parse hparse).2
  have hadmits : rules.admits (packet.padded padding) = rules.admits packet := by
    rw [admits, admits, Packet.destination_padded padding hwell,
      (Packet.sameShape_padded padding hwell).family]
  simp only [judge, hparse, Packet.parse_append padding hparse, hadmits,
    (Packet.sameShape_padded padding hwell).isFragment,
    rules.judgeAdmitted_padded padding hwell]

/-- The verdict on the first few octets is that on all of them, unless they are no packet. -/
theorem judge_take (bytes : Octets) (count : Nat) :
    rules.judge table stopped (bytes.take count) now = rules.judge table stopped bytes now ∨
      ∃ error, Packet.parse (bytes.take count) = .error error := by
  cases hread : Packet.parse (bytes.take count) with
  | error error => exact .inr ⟨error, rfl⟩
  | ok packet =>
      have hsame := rules.judge_append table stopped now hread (bytes.drop count)
      rw [List.take_append_drop] at hsame
      exact .inl hsame.symm

end Rules

/-! ## Reading in part -/

namespace Translator

/-- What becomes of octets of which a read of the device delivers only the first. -/
structure Truncates (translator : Translator) (bytes : Octets) (now : Nat) : Prop where
  /-- A read hands on as many of the octets as its buffer has room for. -/
  read : ∀ buffer : Octets,
    translator.afterRead (.ok (Device.received buffer bytes)) now =
      ({ translator with buffer := (Device.received buffer bytes).2 }.record .read).process
        (bytes.take buffer.length) now
  /-- The first octets do what all of them do, or they are dropped as malformed and do nothing
  else. -/
  cut : ∀ count : Nat,
    translator.process (bytes.take count) now = translator.process bytes now ∨
      translator.process (bytes.take count) now = translator.record (.dropped .malformed)
  /-- A packet that is read to its declared length does what it does as a whole. -/
  whole : ∀ packet : Packet, Packet.parse bytes = .ok packet → ∀ count ≥ packet.totalLength,
    translator.process (bytes.take count) now = translator.process bytes now
  /-- A packet of which less is read is malformed. -/
  short : ∀ packet : Packet, Packet.parse bytes = .ok packet → ∀ count < packet.totalLength,
    translator.process (bytes.take count) now = translator.record (.dropped .malformed)
  /-- A packet does the same whatever is read behind it. -/
  padded : ∀ packet : Packet, Packet.parse bytes = .ok packet → ∀ padding : Octets,
    translator.process (bytes ++ padding) now = translator.process bytes now

variable (translator : Translator) {bytes other : Octets} (now : Nat)

theorem process_congr
    (hjudge : translator.rules.judge translator.sessions translator.stopped other now =
      translator.rules.judge translator.sessions translator.stopped bytes now) :
    translator.process other now = translator.process bytes now := by
  rw [process, process, hjudge]

theorem process_of_unread {error : PacketError} (hparse : Packet.parse bytes = .error error) :
    translator.process bytes now = translator.record (.dropped .malformed) := by
  rw [process, Rules.judge, hparse]
  rfl

/-- In every state of a translator, octets that are read in part either do what all of them do or
are dropped as malformed, and which of the two is told by the declared length of the packet. -/
theorem truncates (bytes : Octets) : translator.Truncates bytes now := by
  constructor
  case read =>
    intro buffer
    rw [← Device.take_received]
    rfl
  case cut =>
    intro count
    rcases translator.rules.judge_take translator.sessions translator.stopped now bytes count with
      hsame | ⟨error, hparse⟩
    · exact .inl (translator.process_congr now hsame)
    · exact .inr (translator.process_of_unread now hparse)
  case whole =>
    intro packet hparse count hcount
    have hread := Packet.parse_take hparse hcount
    have hsame := translator.rules.judge_append translator.sessions translator.stopped now hread
      (bytes.drop count)
    rw [List.take_append_drop] at hsame
    exact translator.process_congr now hsame.symm
  case short =>
    intro packet hparse count hcount
    cases hread : Packet.parse (bytes.take count) with
    | error error => exact translator.process_of_unread now hread
    | ok first =>
        obtain ⟨hwhole, hlength⟩ := Packet.parse_of_take hread
        rw [hparse, Except.ok.injEq] at hwhole
        rw [← hwhole] at hlength
        exact absurd hcount (not_lt.2 hlength)
  case padded =>
    intro packet hparse padding
    exact translator.process_congr now
      (translator.rules.judge_append translator.sessions translator.stopped now hparse padding)

end Translator

end PortalNat
