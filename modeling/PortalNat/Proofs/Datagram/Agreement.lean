import PortalNat.Proofs.Datagram.Built
import PortalNat.Proofs.Datagram.Reply

/-!
# Push and pull replies

A handler that got a datagram by push replies through the template of the datagram, and one that
read it from the queue has its reply built from the endpoints. Both ways give the client the same,
except to a client whose address is an IPv4 address in its IPv6 spelling: the template answers in
the version of IP the datagram came in, and the queue in that of the address it spells.
-/

namespace PortalNat

theorem Address.canonical_canonical (address : Address) :
    address.canonical.canonical = address.canonical := by
  apply canonical_of_not_isMapped
  intro hmapped
  cases address with
  | v4 address => exact hmapped
  | v6 address =>
      rw [canonical] at hmapped
      cases hplain : address.unmapped? with
      | some plain =>
          rw [hplain] at hmapped
          exact hmapped
      | none =>
          rw [hplain] at hmapped
          exact Option.some_ne_none _
            ((Option.some_get hmapped).trans hplain)

theorem Endpoint.canonical_canonical (endpoint : Endpoint) :
    endpoint.canonical.canonical = endpoint.canonical :=
  congrArg (Endpoint.of · endpoint.port) endpoint.address.canonical_canonical

/-- The IPv6 spelling of an IPv4 address is an IPv6 address, and in canonical form an IPv4 one. -/
theorem Address.IsMapped.families {address : Address} (hmapped : address.IsMapped) :
    address.family = .v6 ∧ address.canonical.family = .v4 := by
  cases address with
  | v4 address => exact hmapped.elim
  | v6 address =>
      obtain ⟨plain, hplain⟩ := Option.isSome_iff_exists.1 hmapped
      rw [canonical, hplain]
      exact ⟨rfl, rfl⟩

namespace Translator

/-- Replies to a client through two ways back come to the same: both are sent or neither, they count
the same, and the client gets the same payload from the same source in the same version of IP. -/
structure RepliesAlike (push pull : Translator) (first second : WriteBack) (payload : Octets)
    (source? : Option Endpoint) (client : Endpoint) : Prop where
  succeeds_iff : (∃ count, (push.reply first payload source?).1 = .ok count) ↔
    ∃ count, (pull.reply second payload source?).1 = .ok count
  sent : ∀ count count', (push.reply first payload source?).1 = .ok count →
    (pull.reply second payload source?).1 = .ok count' → count = count' ∧
      ∃ written written' packet packet' source,
        (push.reply first payload source?).2 = push.answered [written] ∧
        (pull.reply second payload source?).2 = pull.answered [written'] ∧
        Packet.Conveys written packet source client payload ∧
        Packet.Conveys written' packet' source client payload ∧ packet.family = packet'.family

/-- A reply through the queue comes out as it should between endpoints in canonical form. -/
theorem repliesTo_queue {translator : Translator} (hreads : translator.readsClosed = false)
    (client remote : Endpoint) (payload : Octets) (source? : Option Endpoint) :
    translator.RepliesTo (.queue client remote) payload source? (source?.getD remote).canonical
      client.canonical := by
  apply repliesTo_of_makesReply
  rw [hreads]
  have hmakes := makesReply_buildReply payload (source?.getD remote).canonical client
  rw [Endpoint.canonical_canonical] at hmakes
  exact hmakes

/-- A reply that is too large for the version of its source is not sent to any client. -/
theorem RepliesTo.fails {translator : Translator} {back : WriteBack} {payload : Octets}
    {source? : Option Endpoint} {source client : Endpoint}
    (hreplies : translator.RepliesTo back payload source? source client)
    (hlarge : 65535 < ReplyTemplate.statedLength source.family payload.length) :
    ¬∃ count, (translator.reply back payload source?).1 = .ok count := by
  rw [hreplies.succeeds_iff]
  rintro ⟨hsame, hfits, -⟩
  rw [← hsame] at hfits
  exact not_lt.2 hfits hlarge

theorem RepliesTo.alike {push pull : Translator} {first second : WriteBack} {payload : Octets}
    {source? : Option Endpoint} {source client : Endpoint}
    (hpush : push.RepliesTo first payload source? source client)
    (hpull : pull.RepliesTo second payload source? source client)
    (hopen : push.device.refusal? = none) (hopen' : pull.device.refusal? = none) :
    RepliesAlike push pull first second payload source? client where
  succeeds_iff := by rw [hpush.succeeds_iff, hpull.succeeds_iff, hopen, hopen']
  sent count count' hcount hcount' := by
    obtain ⟨rfl, written, packet, -, hwritten, hconveys⟩ := hpush.sent count hcount
    obtain ⟨rfl, written', packet', -, hwritten', hconveys'⟩ := hpull.sent count' hcount'
    refine ⟨rfl, written, written', packet, packet', source, hwritten, hwritten', hconveys,
      hconveys', ?_⟩
    have hsame : packet.source = packet'.source :=
      congrArg Endpoint.address (hconveys.source.trans hconveys'.source.symm)
    rw [← packet.family_source, ← packet'.family_source, hsame]

section

variable {translator : Translator} {bytes : Octets} {now : Nat} {message : Message}
  (hpush : translator.reads? = none)
  (hhanded : (translator.process bytes now).messages = translator.messages ++ [message])
include hpush hhanded

/-- A client of a handler is an endpoint without a zone. -/
theorem client_of_messages :
    Endpoint.of message.datagram.source.address message.datagram.source.port =
      message.datagram.source := by
  obtain ⟨packet, hdispatches, -⟩ := dispatches_of_messages hpush hhanded
  rw [hdispatches.source]
  rfl

/-- With device and queue open, push and pull replies to a client come to the same exactly when the
address of the client is not the IPv6 spelling of an IPv4 address, or when the reply is too large
for the version of IP that it would have to be sent in. -/
theorem repliesAlike_iff {push pull : Translator} (hopen : push.device.refusal? = none)
    (hopen' : pull.device.refusal? = none) (hreads : pull.readsClosed = false)
    (payload : Octets) (source? : Option Endpoint) :
    RepliesAlike push pull message.back
        (.queue message.datagram.source message.datagram.destination) payload source?
        message.datagram.source ↔
      ¬message.datagram.source.address.IsMapped ∨
        65535 < ReplyTemplate.statedLength
          (source?.getD message.datagram.destination).canonical.family payload.length := by
  have hfirst := repliesTo_of_messages hpush hhanded push payload source?
  have hsecond := repliesTo_queue hreads message.datagram.source message.datagram.destination
    payload source?
  set source := (source?.getD message.datagram.destination).canonical
  set client := message.datagram.source
  constructor
  · intro halike
    by_contra hapart
    obtain ⟨hmapped, hfits⟩ := not_or.1 hapart
    obtain ⟨hsix, hfour⟩ := (not_not.1 hmapped).families
    have hsucceeds := halike.succeeds_iff
    rw [hfirst.succeeds_iff, hsecond.succeeds_iff] at hsucceeds
    have hfamilies : client.family = .v6 ∧ client.canonical.family = .v4 := ⟨hsix, hfour⟩
    rw [hfamilies.1, hfamilies.2] at hsucceeds
    -- A source of either version of IP is refused by one way and accepted by the other.
    cases hfamily : source.family with
    | v4 =>
        rw [hfamily] at hfits hsucceeds
        cases (hsucceeds.2 ⟨rfl, not_lt.1 hfits, hopen'⟩).1
    | v6 =>
        rw [hfamily] at hfits hsucceeds
        cases (hsucceeds.1 ⟨rfl, not_lt.1 hfits, hopen⟩).1
  · rintro (hplain | hlarge)
    · have hclient : client.canonical = client := by
        rw [Endpoint.canonical, Address.canonical_of_not_isMapped hplain]
        exact client_of_messages hpush hhanded
      rw [hclient] at hsecond
      exact hfirst.alike hsecond hopen hopen'
    · exact {
        succeeds_iff := iff_of_false (hfirst.fails hlarge) (hsecond.fails hlarge)
        sent := fun count _ hcount => absurd ⟨count, hcount⟩ (hfirst.fails hlarge) }

end

/-- An engine in pull mode, otherwise of the default settings. -/
def pullEngine : Engine where
  translator := (({ udpMode := .pull } : NatSection).translator {} 9000 5000).postReads 4
  listener := Endpoint.of (.v6 V6.unspecified) 9000
  sweepInterval := ({} : NatSection).sweepInterval

theorem repliesAlike_iff_sampleQuery :
    sampleEngine.translator.reads? = none ∧
      (sampleEngine.translator.process sampleQuery 1).messages =
        sampleEngine.translator.messages ++ [sampleMessage] ∧
      sampleEngine.translator.device.refusal? = none ∧
      pullEngine.translator.device.refusal? = none ∧ pullEngine.translator.readsClosed = false ∧
      RepliesAlike sampleEngine.translator pullEngine.translator sampleMessage.back
        (.queue sampleMessage.datagram.source sampleMessage.datagram.destination) [97, 110, 115]
        none sampleMessage.datagram.source := by
  have hpush : sampleEngine.translator.reads? = none := rfl
  have hopen : sampleEngine.translator.device.refusal? = none := rfl
  have hopen' : pullEngine.translator.device.refusal? = none := rfl
  have hreads : pullEngine.translator.readsClosed = false := rfl
  have hplain : ¬sampleMessage.datagram.source.address.IsMapped := not_false
  have halike := repliesAlike_iff hpush handed_sampleQuery hopen hopen' hreads [97, 110, 115] none
  exact ⟨hpush, handed_sampleQuery, hopen, hopen', hreads, halike.2 (.inl hplain)⟩

/-- A datagram of a client whose address spells an IPv4 one, to an IPv6 server. -/
def mappedQuery : Octets :=
  [0x60, 0, 0, 0, 0, 13, 17, 64, 0, 0, 0, 0, 0, 0, 0, 0, 0, 0, 0xff, 0xff, 10, 0, 0, 2,
    0x20, 0x01, 0x0d, 0xb8, 0, 0, 0, 0, 0, 0, 0, 0, 0, 0, 0, 1,
    0x14, 0xe9, 0, 53, 0, 13, 0, 0, 113, 117, 101, 114, 121]

set_option maxRecDepth 20000 in
/-- Both engines hand the datagram to their handler, and only by push the client gets the reply. -/
theorem mapped_client_replies_differ :
    ∃ datagram template,
      (sampleEngine.translator.process mappedQuery 1).messages =
        [⟨datagram, .template template⟩] ∧
      (pullEngine.translator.process mappedQuery 1).handOnAll.messages =
        [⟨datagram, .queue datagram.source datagram.destination⟩] ∧
      (sampleEngine.translator.reply (.template template) [97, 110, 115] none).1 = .ok 3 ∧
      (pullEngine.translator.reply (.queue datagram.source datagram.destination)
          [97, 110, 115] none).1 =
        .error (.udp (.familyMismatch datagram.destination datagram.source.canonical)) := by
  refine ⟨⟨Endpoint.of (.v6 ⟨0, 0, 0, 0, 0, 0xffff, 0x0a00, 2⟩) 5353,
      Endpoint.of (.v6 ⟨0x2001, 0x0db8, 0, 0, 0, 0, 0, 1⟩) 53, [113, 117, 101, 114, 121]⟩,
    ⟨mappedQuery.take 48, Endpoint.of (.v6 ⟨0, 0, 0, 0, 0, 0xffff, 0x0a00, 2⟩) 5353,
      Endpoint.of (.v6 ⟨0x2001, 0x0db8, 0, 0, 0, 0, 0, 1⟩) 53⟩, ?_, ?_, ?_, ?_⟩ <;> cbv

end Translator

end PortalNat
