import PortalNat.Proofs.Datagram.Reply
import PortalNat.Proofs.Engine.History
import PortalNat.Proofs.Guarded.Redirection
import PortalNat.Proofs.Guarded.Replies

/-!
# The guarded pump

All that the pump does with a packet, with every access guarded. Whatever octets are read, they are
judged without a fault, and a template that comes of them makes every reply without one.
-/

namespace PortalNat

namespace Guarded

def ofRedirection : Except NatError (Direction × Packet) → Guarded Verdict
  | .ok (direction, packet) => return .write (Verdict.eventOf direction) (← declared packet)
  | .error error => return .ofError error

def ofDatagram (packet : Packet) : Guarded Verdict := do
  let segment ← payload packet
  match ← checkUdp segment with
  | .error _ => return .drop .malformed none
  | .ok () =>
    let source := Endpoint.of (← source packet) (← word segment 0)
    let destination := Endpoint.of (← destination packet) (← word segment 2)
    let length ← word segment 4
    let content ← slice segment UDP.headerLength length.toNat
    return .deliver ⟨source, destination, content⟩ (← ofRequest packet source destination)

def ofControl (echo : EchoResponder) (packet : Packet) : Guarded Verdict := do
  match ← answer? echo packet with
  | some reply => return .write .echo (← declared reply)
  | none => return .ignore

def judgeAdmitted (rules : Rules) (table : SessionTable) (stopped : Bool) (packet : Packet)
    (now : Nat) : Guarded (Verdict × SessionTable) := do
  let protocol ← protocol packet
  if protocol = Protocol.tcp then
    let (result, table) ← redirect rules.redirector table stopped packet now
    return (← ofRedirection result, table)
  else if protocol = Protocol.udp then return (← ofDatagram packet, table)
  else if protocol = Protocol.icmp ∨ protocol = Protocol.icmpV6 then
    return (← ofControl rules.echo packet, table)
  else return (.drop .malformed none, table)

def judge (rules : Rules) (table : SessionTable) (stopped : Bool) (bytes : Octets) (now : Nat) :
    Guarded (Verdict × SessionTable) := do
  match ← parse bytes with
  | .error _ => return (.drop .malformed none, table)
  | .ok packet =>
    if ← isFragment packet then return (.drop .fragmented none, table)
    let receiver ← destination packet
    if !(rules.redirector.portal.enabled packet.family && rules.scope.allows receiver) then
      return (.drop .filtered none, table)
    judgeAdmitted rules table stopped packet now

def process (translator : Translator) (bytes : Octets) (now : Nat) : Guarded Translator := do
  let (verdict, sessions) ←
    judge translator.rules translator.sessions translator.stopped bytes now
  return { translator with sessions }.carryOut verdict

theorem ofRedirection_eq {result : Except NatError (Direction × Packet)}
    (hwell : ∀ direction packet, result = .ok (direction, packet) → packet.WellFormed) :
    ofRedirection result = pure (Verdict.ofRedirection result) := by
  rcases result with error | ⟨direction, packet⟩
  · rfl
  · rw [ofRedirection, declared_eq (hwell direction packet rfl), pure_bind]
    rfl

section

variable {packet : Packet} (hwell : packet.WellFormed)
include hwell

theorem ofDatagram_eq : ofDatagram packet = pure (Verdict.ofDatagram packet) := by
  rw [ofDatagram, payload_eq hwell, pure_bind, checkUdp_eq, pure_bind, Verdict.ofDatagram]
  cases hcheck : UDP.check packet.payload with
  | error error => rfl
  | ok =>
      obtain ⟨hlong, hcovered, hfits⟩ := (Packet.udp_check_iff packet.payload).1 hcheck
      have hcontent : slice packet.payload UDP.headerLength (Octets.word packet.payload 4).toNat =
          pure (UDP.payload packet.payload) := slice_eq hcovered hfits
      have hheader := hlong
      rw [UDP.headerLength] at hheader
      simp only [source_eq hwell, destination_eq hwell, hcontent, pure_bind,
        word_eq (show 0 + 1 < packet.payload.length by omega),
        word_eq (show 2 + 1 < packet.payload.length by omega),
        word_eq (show 4 + 1 < packet.payload.length by omega), ofRequest_eq hwell hlong]
      rfl

theorem ofControl_eq (echo : EchoResponder) :
    ofControl echo packet = pure (Verdict.ofControl echo packet) := by
  rw [ofControl, answer?_eq hwell, pure_bind, Verdict.ofControl]
  cases hanswer : echo.answer? packet with
  | none => rfl
  | some reply =>
      simp only [declared_eq (EchoResponder.wellFormed_answer hwell hanswer), pure_bind]

variable {rules : Rules} {table : SessionTable} {stopped : Bool} {now : Nat}
  (hrange : table.lowest ≤ table.highest)
include hrange

theorem judgeAdmitted_eq
    (hcount : (rules.judgeAdmitted table stopped packet now).2.nextId < 2 ^ 64) :
    judgeAdmitted rules table stopped packet now =
      pure (rules.judgeAdmitted table stopped packet now) := by
  rw [judgeAdmitted, protocol_eq hwell, pure_bind]
  unfold Rules.judgeAdmitted at hcount ⊢
  simp only [] at hcount ⊢
  split_ifs at hcount ⊢
  · have hresult : ∀ direction sent,
        (rules.redirector.redirect table stopped packet now).1 = .ok (direction, sent) →
          sent.WellFormed :=
      fun _ _ hsent => wellFormed_redirect hwell (Prod.ext hsent rfl)
    rw [redirect_eq hwell rules.redirector hrange hcount, pure_bind]
    simp only [ofRedirection_eq hresult, pure_bind]
  · rw [ofDatagram_eq hwell, pure_bind]
  · rw [ofControl_eq hwell, pure_bind]
  · rfl

end

section

variable {rules : Rules} {table : SessionTable} {stopped : Bool} {bytes : Octets} {now : Nat}

/-- Judging does not fault, whatever was read, as long as sessions can be numbered. -/
theorem judge_eq (hrange : table.lowest ≤ table.highest)
    (hcount : (rules.judge table stopped bytes now).2.nextId < 2 ^ 64) :
    judge rules table stopped bytes now = pure (rules.judge table stopped bytes now) := by
  rw [judge, parse_eq, pure_bind]
  unfold Rules.judge at hcount ⊢
  cases hparse : Packet.parse bytes with
  | error error => rfl
  | ok packet =>
      have hwell := (Packet.wellFormed_of_parse hparse).2
      simp only [hparse] at hcount ⊢
      rw [isFragment_eq hwell, pure_bind, destination_eq hwell, pure_bind]
      change (if _ then _ else if (!rules.admits packet) = true then _ else _) = _
      split_ifs at hcount ⊢
      · rfl
      · rfl
      · exact judgeAdmitted_eq hwell hrange hcount

/-- The template that comes with a datagram makes any reply without a fault. -/
theorem build_eq_of_deliver {datagram : Datagram} {template : ReplyTemplate}
    (hdeliver : (rules.judge table stopped bytes now).1 = .deliver datagram template)
    {reply : Octets} (hreply : reply.length < 2 ^ 63) (source : Endpoint) :
    build template reply source = pure (template.build reply source) := by
  obtain ⟨packet, hdispatches, rfl⟩ :=
    (rules.judge_eq_deliver_iff table stopped bytes now datagram template).1 hdeliver
  have hlong := ((Packet.udp_check_iff packet.payload).1 hdispatches.checked).1
  refine build_eq source ?_ hreply
  change (ReplyTemplate.renewed packet.family _).length =
    datagram.source.family.leastHeader + UDP.headerLength
  rw [hdispatches.client_family, ReplyTemplate.ipHeaderLength_eq]
  exact ReplyTemplate.length_renewed hdispatches.wellFormed hlong

end

theorem process_eq {translator : Translator} {bytes : Octets} {now : Nat}
    (hrange : translator.sessions.lowest ≤ translator.sessions.highest)
    (hcount : (translator.process bytes now).sessions.nextId < 2 ^ 64) :
    process translator bytes now = pure (translator.process bytes now) := by
  rw [Translator.sessions_process] at hcount
  rw [process, judge_eq hrange hcount]
  rfl

end Guarded

/-! ## Engines -/

namespace Engine

/-- No packet stops the pump of an engine, whatever octets it has and whatever has happened before:
every access to a buffer is within bounds and every number fits its word. Nor does any reply to a
datagram from it, whatever the payload and the source. Sessions are numbered in a word of sixty-four
bits, which their numbers have to fit, and a payload is a buffer, so that it has fewer octets than
half the numbers of such a word. -/
theorem process_without_fault {settings : NatSection} {device : Device} {first free : UInt16}
    {bindFault? : Endpoint → Option String} {engine : Engine}
    (hstart : start settings device first free bindFault? = .ok engine) (history : List Action)
    (bytes : Octets) (now : Nat)
    (hcount : ((engine.after history).translator.process bytes now).sessions.nextId < 2 ^ 64) :
    let translator := (engine.after history).translator
    Guarded.process translator bytes now = .ok (translator.process bytes now) ∧
      ∀ (datagram : Datagram) (template : ReplyTemplate),
        (translator.rules.judge translator.sessions translator.stopped bytes now).1 =
            .deliver datagram template →
          ∀ (payload : Octets) (source : Endpoint), payload.length < 2 ^ 63 →
            Guarded.build template payload source = .ok (template.build payload source) := by
  intro translator
  have hrange := (sessions_wellFormed hstart history).lowest_le
  refine ⟨Guarded.process_eq hrange hcount, ?_⟩
  intro datagram template hdeliver payload source hpayload
  exact Guarded.build_eq_of_deliver hdeliver hpayload source

open Translator (sampleQuery sampleMessage)

set_option maxRecDepth 20000 in
/-- A connection request and then a query, to which a reply is made. -/
theorem process_without_fault_sampleQuery :
    let translator := (sampleEngine.after [.process sampleRequest 1]).translator
    start {} {} 5000 9000 = .ok sampleEngine ∧
      (translator.process sampleQuery 2).sessions.nextId = 2 ∧
      Guarded.process translator sampleQuery 2 = .ok (translator.process sampleQuery 2) ∧
      ∃ template, sampleMessage.back = .template template ∧
        Guarded.build template [97, 110, 115] template.remote =
          .ok (template.build [97, 110, 115] template.remote) := by
  have hnumber : ((sampleEngine.after [.process sampleRequest 1]).translator.process sampleQuery
      2).sessions.nextId = 2 := by
    cbv
  have hstart : start {} {} 5000 9000 = .ok sampleEngine := rfl
  obtain ⟨hprocess, hbuild⟩ := process_without_fault hstart [.process sampleRequest 1] sampleQuery 2
    (by rw [hnumber]; decide)
  refine ⟨hstart, hnumber, hprocess, _, rfl, ?_⟩
  exact hbuild sampleMessage.datagram _ (by cbv) [97, 110, 115] _ (by decide)

end Engine

end PortalNat
