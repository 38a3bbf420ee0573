import PortalNat.Proofs.Datagram.Dispatch
import PortalNat.Proofs.Redirection.Service

/-!
# Replies of a handler

A handler replies as often as it likes and in any order. Each reply is one packet to the device or
an error without effect, and which of the two it is depends on the reply and on whether the device
is open, never on other replies: the template of a datagram is read, not used up.
-/

namespace PortalNat

namespace Translator

def answered (translator : Translator) (packets : List Octets) : Translator :=
  { translator with
    device := translator.device.extended packets
    statistics :=
      { translator.statistics with
        udpReplies := translator.statistics.udpReplies + packets.length } }

@[simp]
theorem answered_nil (translator : Translator) : translator.answered [] = translator := by
  simp only [answered, Device.extended, List.append_nil, List.length_nil, Nat.add_zero]

@[simp]
theorem answered_answered (translator : Translator) (first second : List Octets) :
    (translator.answered first).answered second = translator.answered (first ++ second) := by
  simp only [answered, Device.extended, List.append_assoc, List.length_append, Nat.add_assoc]

/-! ## One reply -/

/-- The packet that a reply is sent in, if it is sent. -/
def sent? (translator : Translator) (back : WriteBack) (payload : Octets)
    (source? : Option Endpoint) : Option Octets :=
  match translator.device.refusal? with
  | some _ => none
  | none => (back.build translator.readsClosed payload source?).toOption

/-- What a reply comes to: the error in making it, or that of writing it, or its length. -/
def outcome (translator : Translator) (back : WriteBack) (payload : Octets)
    (source? : Option Endpoint) : Except NatError Nat :=
  match back.build translator.readsClosed payload source? with
  | .error error => .error error
  | .ok _ =>
    match translator.device.refusal? with
    | some error => .error (.udp (.writeBack (.ofWrite error)))
    | none => .ok payload.length

section

variable (translator : Translator) (back : WriteBack) (payload : Octets)
  (source? : Option Endpoint)

theorem reply_eq :
    translator.reply back payload source? =
      (translator.outcome back payload source?,
        translator.answered (translator.sent? back payload source?).toList) := by
  unfold reply outcome sent?
  cases back.build translator.readsClosed payload source? with
  | error error =>
      cases translator.device.refusal? <;> simp [Except.toOption]
  | ok packet =>
      simp only [writeReply, Device.write_eq]
      cases translator.device.refusal? with
      | some error => simp
      | none => rfl

/-- Other replies, which only queue packets and are counted, change nothing about a reply. -/
@[simp]
theorem outcome_answered (packets : List Octets) :
    (translator.answered packets).outcome back payload source? =
      translator.outcome back payload source? := rfl

@[simp]
theorem sent?_answered (packets : List Octets) :
    (translator.answered packets).sent? back payload source? =
      translator.sent? back payload source? := rfl

end

/-! ## Many replies -/

def replyAll (translator : Translator) (back : WriteBack) :
    List (Octets × Option Endpoint) → List (Except NatError Nat) × Translator
  | [] => ([], translator)
  | (payload, source?) :: replies =>
    let (result, after) := translator.reply back payload source?
    let (results, last) := after.replyAll back replies
    (result :: results, last)

/-- Each of several replies comes to what it comes to alone, and queues what it queues alone. -/
theorem replyAll_eq (translator : Translator) (back : WriteBack)
    (replies : List (Octets × Option Endpoint)) :
    translator.replyAll back replies =
      (replies.map fun (payload, source?) => translator.outcome back payload source?,
        translator.answered
          (replies.filterMap fun (payload, source?) => translator.sent? back payload source?)) := by
  induction replies generalizing translator with
  | nil => simp [replyAll]
  | cons reply replies ih =>
      rw [replyAll, reply_eq]
      simp only [ih, outcome_answered, sent?_answered, answered_answered, List.map_cons]
      cases hsent : translator.sent? back reply.1 reply.2 <;> simp [hsent]

/-! ## Replies that come out right -/

/-- Why a reply from a source to a client fails. -/
inductive Refuses (translator : Translator) (source client : Endpoint) (payload : Octets) :
    NatError → Prop
  | tooLarge (hlarge : 65535 < ReplyTemplate.statedLength client.family payload.length) :
      Refuses translator source client payload (.udp (.payloadTooLarge payload.length))
  | mismatch (hother : source.family ≠ client.family) :
      Refuses translator source client payload (.udp (.familyMismatch source client))
  | unwritten {error : IoError} (hrefused : translator.device.refusal? = some error) :
      Refuses translator source client payload (.udp (.writeBack (.ofWrite error)))

/-- A reply puts exactly one packet into the device that carries the payload from a source to a
client, or fails for a reason and does nothing. -/
structure RepliesTo (translator : Translator) (back : WriteBack) (payload : Octets)
    (source? : Option Endpoint) (source client : Endpoint) : Prop where
  succeeds_iff : (∃ count, (translator.reply back payload source?).1 = .ok count) ↔
    source.family = client.family ∧
      ReplyTemplate.statedLength client.family payload.length ≤ 65535 ∧
      translator.device.refusal? = none
  sent : ∀ count, (translator.reply back payload source?).1 = .ok count →
    count = payload.length ∧ ∃ written packet,
      translator.sent? back payload source? = some written ∧
      (translator.reply back payload source?).2 = translator.answered [written] ∧
      Packet.Conveys written packet source client payload
  failed : ∀ error, (translator.reply back payload source?).1 = .error error →
    (translator.reply back payload source?).2 = translator ∧
      translator.Refuses source client payload error

section

variable {translator : Translator} {back : WriteBack} {payload : Octets}
  {source? : Option Endpoint} {source client : Endpoint}

theorem Refuses.not_fits {error : NatError}
    (hrefuses : translator.Refuses source client payload error) :
    ¬(source.family = client.family ∧
      ReplyTemplate.statedLength client.family payload.length ≤ 65535 ∧
      translator.device.refusal? = none) := by
  rintro ⟨hsame, hfits, hopen⟩
  cases hrefuses with
  | tooLarge hlarge => exact not_lt.2 hfits hlarge
  | mismatch hother => exact hother hsame
  | unwritten hrefused => exact Option.some_ne_none _ (hrefused.symm.trans hopen)

theorem Refuses.repliesTo {error : NatError}
    (hrefuses : translator.Refuses source client payload error)
    (hreply : translator.reply back payload source? = (.error error, translator)) :
    translator.RepliesTo back payload source? source client := by
  constructor <;> rw [hreply]
  · constructor
    · rintro ⟨count, hcount⟩
      cases hcount
    · intro hfits
      exact absurd hfits hrefuses.not_fits
  · intro count hcount
    cases hcount
  · intro other hother
    cases hother
    exact ⟨rfl, hrefuses⟩

/-- A way back that makes what a reply should be replies as it should. -/
theorem repliesTo_of_makesReply
    (hmakes : MakesReply source client payload
      (back.build translator.readsClosed payload source?)) :
    translator.RepliesTo back payload source? source client := by
  have hreply := translator.reply_eq back payload source?
  unfold outcome sent? at hreply
  generalize hbuild : back.build translator.readsClosed payload source? = built at hmakes
  rw [hbuild] at hreply
  cases hmakes with
  | tooLarge hlarge =>
      apply (Refuses.tooLarge hlarge).repliesTo
      rw [hreply]
      cases translator.device.refusal? <;> simp [Except.toOption]
  | mismatch hother =>
      apply (Refuses.mismatch hother).repliesTo
      rw [hreply]
      cases translator.device.refusal? <;> simp [Except.toOption]
  | @made written packet hfits hsame hconveys =>
      cases hrefusal : translator.device.refusal? with
      | some error =>
          apply (Refuses.unwritten hrefusal).repliesTo
          rw [hreply, hrefusal]
          simp
      | none =>
          rw [hrefusal] at hreply
          constructor <;> rw [hreply]
          · exact ⟨fun _ => ⟨hsame, hfits, hrefusal⟩, fun _ => ⟨_, rfl⟩⟩
          · intro count hcount
            cases hcount
            exact ⟨rfl, written, packet, by rw [sent?, hrefusal, hbuild]; rfl, rfl, hconveys⟩
          · intro error herror
            cases herror

end

section

variable {translator : Translator} {bytes : Octets} {now : Nat} {message : Message}
  (hpush : translator.reads? = none)
  (hhanded : (translator.process bytes now).messages = translator.messages ++ [message])
include hpush hhanded

/-- The way back of a datagram replies as it should, to whoever sent the datagram. -/
theorem repliesTo_of_messages (later : Translator) (payload : Octets)
    (source? : Option Endpoint) :
    later.RepliesTo message.back payload source?
      (source?.getD message.datagram.destination).canonical message.datagram.source := by
  obtain ⟨packet, hdispatches, hback⟩ := dispatches_of_messages hpush hhanded
  apply repliesTo_of_makesReply
  rw [hback]
  exact hdispatches.makesReply payload _ _

/-- Whatever datagram the handler got in push mode, each reply to it is one right packet for its
client or an error without effect, and replies do not depend on each other. -/
theorem replies_of_dispatched (later : Translator) :
    (∀ payload source?, later.RepliesTo message.back payload source?
      (source?.getD message.datagram.destination).canonical message.datagram.source) ∧
    ∀ replies, later.replyAll message.back replies =
      (replies.map fun (payload, source?) => (later.reply message.back payload source?).1,
        later.answered
          (replies.filterMap fun (payload, source?) =>
            later.sent? message.back payload source?)) := by
  constructor
  · exact repliesTo_of_messages hpush hhanded later
  · intro replies
    rw [replyAll_eq]
    simp only [reply_eq]

end

/-- A query with an option in its header, and with octets behind the datagram and behind the
packet. -/
def sampleQuery : Octets :=
  [0x46, 0, 0, 38, 0x12, 0x34, 0x40, 0, 7, 17, 0, 0, 10, 0, 0, 2, 1, 1, 1, 1, 1, 1, 1, 0,
    0x14, 0xe9, 0, 53, 0, 13, 0, 0, 113, 117, 101, 114, 121, 0xee, 0xaa, 0xbb]

def sampleMessage : Message where
  datagram :=
    { source := Endpoint.of (.v4 ⟨10, 0, 0, 2⟩) 5353
      destination := Endpoint.of (.v4 ⟨1, 1, 1, 1⟩) 53
      payload := [113, 117, 101, 114, 121] }
  back := .template
    { header :=
        [0x45, 0, 0, 38, 0x12, 0x34, 0x40, 0, 64, 17, 0, 0, 10, 0, 0, 2, 1, 1, 1, 1,
          0x14, 0xe9, 0, 53, 0, 13, 0, 0]
      client := Endpoint.of (.v4 ⟨10, 0, 0, 2⟩) 5353
      remote := Endpoint.of (.v4 ⟨1, 1, 1, 1⟩) 53 }

set_option maxRecDepth 20000 in
theorem handed_sampleQuery :
    (sampleEngine.translator.process sampleQuery 1).messages =
      sampleEngine.translator.messages ++ [sampleMessage] := by
  cbv

theorem replies_of_dispatched_sampleQuery :
    sampleEngine.translator.reads? = none ∧
      (sampleEngine.translator.process sampleQuery 1).messages =
        sampleEngine.translator.messages ++ [sampleMessage] ∧
      sampleEngine.translator.RepliesTo sampleMessage.back [97, 110, 115] none
        sampleMessage.datagram.destination sampleMessage.datagram.source := by
  have hpush : sampleEngine.translator.reads? = none := rfl
  have hreplies := replies_of_dispatched hpush handed_sampleQuery sampleEngine.translator
  exact ⟨hpush, handed_sampleQuery, hreplies.1 [97, 110, 115] none⟩

end Translator

end PortalNat
