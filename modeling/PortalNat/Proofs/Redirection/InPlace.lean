import PortalNat.Proofs.Packet.InPlace
import PortalNat.Proofs.Redirection.Traffic

/-!
# Handling a packet in its buffer

The translator has one buffer for each packet, in which the packet is readdressed or turned into the
answer to it. Here it is handled that way, with the buffer it leaves behind. This comes to the same
as `process`, and a packet for which nothing is written leaves its buffer and the session table as
they were, but for the time a session was last used.
-/

namespace PortalNat

/-! ## Judging in the buffer -/

/-- Answer an echo request in its buffer, if it is one that is to be answered, and tell whether it
was. -/
def EchoResponder.answerInPlace (responder : EchoResponder) : StateM Packet Bool := do
  let request ← get
  if isRequest request && responder.wants request.destination then
    modify Packet.swapAddresses
    modify (·.setHops Build.defaultHops)
    modify fun swapped =>
      swapped.withPayload (ICMP.fillChecksum request.family request.destination request.source
        (ICMP.setMessageType swapped.payload (ICMP.echoReply request.family)))
    modify Packet.fillChecksum
    return true
  else return false

theorem EchoResponder.run_answerInPlace (responder : EchoResponder) (packet : Packet) :
    responder.answerInPlace.run packet =
      match responder.answer? packet with
      | some answer => (true, answer)
      | none => (false, packet) := by
  change StateT.run (m := Id) (if (isRequest packet && responder.wants packet.destination) = true
    then _ else _) packet = _
  rw [answer?]
  split_ifs with hwanted <;> rfl

def Redirector.redirectInPlace (redirector : Redirector) (table : SessionTable) (stopped : Bool)
    (packet : Packet) (now : Nat) : Except NatError Direction × SessionTable × Packet :=
  match redirector.route table stopped packet now with
  | (.error error, table) => (.error error, table, packet)
  | (.ok route, table) =>
    match (Packet.editEndpoints route.source route.destination).run packet with
    | .ok () after => (.ok route.direction, table, after)
    | .error error after => (.error (.packet error), table, after)

/-- Redirecting in the buffer comes to what `redirect` says, and a segment that cannot be redirected
is left as it was. -/
theorem Redirector.redirectInPlace_eq (redirector : Redirector) (table : SessionTable)
    (stopped : Bool) (packet : Packet) (now : Nat) :
    redirector.redirectInPlace table stopped packet now =
      match redirector.redirect table stopped packet now with
      | (.ok (direction, after), table) => (.ok direction, table, after)
      | (.error error, table) => (.error error, table, packet) := by
  rw [redirectInPlace, redirect_eq_route]
  rcases redirector.route table stopped packet now with ⟨error | route, after⟩
  · rfl
  · simp only [Packet.run_editEndpoints, Except.bind, Packet.follow]
    cases packet.rewriteEndpoints route.source route.destination <;> rfl

def Rules.judgeInPlace (rules : Rules) (table : SessionTable) (stopped : Bool) (bytes : Octets)
    (now : Nat) : Verdict × SessionTable × Octets :=
  match Packet.parse bytes with
  | .error _ => (.drop .malformed none, table, bytes)
  | .ok packet =>
    if packet.isFragment then (.drop .fragmented none, table, packet.octets)
    else if !rules.admits packet then (.drop .filtered none, table, packet.octets)
    else if packet.protocol = Protocol.tcp then
      match rules.redirector.redirectInPlace table stopped packet now with
      | (.ok direction, table, after) =>
        (.write (Verdict.eventOf direction) after.declared, table, after.octets)
      | (.error error, table, after) => (.ofError error, table, after.octets)
    else if packet.protocol = Protocol.udp then (.ofDatagram packet, table, packet.octets)
    else if packet.protocol = Protocol.icmp ∨ packet.protocol = Protocol.icmpV6 then
      match rules.echo.answerInPlace.run packet with
      | (true, after) => (.write .echo after.declared, table, after.octets)
      | (false, after) => (.ignore, table, after.octets)
    else (.drop .malformed none, table, packet.octets)

/-- Judging in the buffer comes to what `judge` says, and the buffer is left as it was unless the
verdict is to write. -/
theorem Rules.judgeInPlace_eq (rules : Rules) (table : SessionTable) (stopped : Bool)
    (bytes : Octets) (now : Nat) :
    ∃ buffer, rules.judgeInPlace table stopped bytes now =
        ((rules.judge table stopped bytes now).1, (rules.judge table stopped bytes now).2, buffer) ∧
      (buffer = bytes ∨
        ∃ event written, (rules.judge table stopped bytes now).1 = .write event written) := by
  rw [judgeInPlace, judge]
  cases hparse : Packet.parse bytes with
  | error error => exact ⟨bytes, rfl, .inl rfl⟩
  | ok packet =>
      have hkept : packet.octets = bytes := (Packet.wellFormed_of_parse hparse).1
      simp only []
      split_ifs with hfragment hrefused
      · exact ⟨_, rfl, .inl hkept⟩
      · exact ⟨_, rfl, .inl hkept⟩
      all_goals
        rw [judgeAdmitted]
        simp only []
      · next htcp =>
          rw [if_pos htcp, Redirector.redirectInPlace_eq]
          rcases rules.redirector.redirect table stopped packet now with
            ⟨error | ⟨direction, after⟩, table⟩
          · exact ⟨_, rfl, .inl hkept⟩
          · exact ⟨_, rfl, .inr ⟨_, _, rfl⟩⟩
      · next htcp hudp =>
          rw [if_neg htcp, if_pos hudp]
          exact ⟨_, rfl, .inl hkept⟩
      · next htcp hudp hcontrol =>
          rw [if_neg htcp, if_neg hudp, if_pos hcontrol, EchoResponder.run_answerInPlace,
            Verdict.ofControl]
          cases rules.echo.answer? packet with
          | none => exact ⟨_, rfl, .inl hkept⟩
          | some answer => exact ⟨_, rfl, .inr ⟨_, _, rfl⟩⟩
      · next htcp hudp hcontrol =>
          rw [if_neg htcp, if_neg hudp, if_neg hcontrol]
          exact ⟨_, rfl, .inl hkept⟩

/-! ## Handling in the buffer -/

/-- Handle a packet in the buffer it was read into, and tell what the buffer is left with. -/
def Translator.processInPlace (translator : Translator) (bytes : Octets) (now : Nat) :
    Translator × Octets :=
  let (verdict, sessions, buffer) :=
    translator.rules.judgeInPlace translator.sessions translator.stopped bytes now
  ({ translator with sessions }.carryOut verdict, buffer)

/-- Two tables differ at most in when the session of a port was last used. -/
structure SessionTable.SameButUse (used? : Option UInt16) (now : Nat)
    (before after : SessionTable) : Prop where
  frame : after.frame = before.frame
  byTuple : ∀ tuple : Tuple, after.byTuple[tuple]? = before.byTuple[tuple]?
  byPort : ∀ port : UInt16, after.byPort[port]? =
    if used? = some port then before.byPort[port]?.map (SessionEntry.touched now)
    else before.byPort[port]?

namespace SessionTable

theorem sameButUse_refl (now : Nat) (table : SessionTable) : SameButUse none now table table :=
  ⟨rfl, fun _ => rfl, fun _ => rfl⟩

theorem sameButUse_touch (table : SessionTable) (port : UInt16) (now : Nat) :
    SameButUse (some port) now table (table.touch port now) where
  frame := rfl
  byTuple _ := rfl
  byPort other := by
    rw [byPort_touch]
    simp only [Option.some.injEq]

end SessionTable

namespace Translator

variable {translator : Translator} {bytes : Octets} {now : Nat}

/-- Handling a packet in its buffer comes to what `process` does, and the buffer is left as it was
unless something is written. -/
theorem processInPlace_eq (translator : Translator) (bytes : Octets) (now : Nat) :
    ∃ buffer, translator.processInPlace bytes now = (translator.process bytes now, buffer) ∧
      (buffer = bytes ∨ ∃ event written, translator.Writes bytes now event written) := by
  obtain ⟨buffer, hjudge, hbuffer⟩ :=
    translator.rules.judgeInPlace_eq translator.sessions translator.stopped bytes now
  refine ⟨buffer, ?_, ?_⟩
  · rw [processInPlace, hjudge]
    rfl
  · simp only [writes_iff]
    exact hbuffer

/-- What becomes of the sessions: a segment of a client is redirected, or they stay as they are, or
a segment of the listener uses the session whose port it names. -/
theorem sessions_process_cases (hwell : translator.sessions.WellFormed) (bytes : Octets)
    (now : Nat) :
    (∃ packet port written, translator.Redirects bytes now packet port written) ∨
      (translator.process bytes now).sessions = translator.sessions ∨
      ∃ packet port,
        Carries bytes packet (translator.rules.redirector.listener packet.family)
          (translator.rules.redirector.portal.endpoint packet.family port) ∧
        (translator.process bytes now).sessions = translator.sessions.touch port now ∧
        ∀ report? : Option NatError,
          (translator.rules.judge translator.sessions translator.stopped bytes now).1 ≠
            .drop .exhausted report? := by
  obtain ⟨verdict, after, hjudge, hjudged⟩ :=
    translator.rules.judged translator.sessions translator.stopped bytes now
  rw [sessions_process, hjudge]
  cases hjudged with
  | unread | fragment | excluded | datagram | control | unsupported => exact .inr (.inl rfl)
  | @segment packet result after hadmitted hprotocol hrouted =>
      cases hrouted with
      | malformed | disabled | stray | unknownPort => exact .inr (.inl rfl)
      | refused htakes hforeign hlookup =>
          exact .inr (.inl (Redirector.portFor_error hwell.cursor_inRange hlookup))
      | outbound htakes hforeign hlookup =>
          exact .inl ⟨packet, _, exists_redirects hadmitted hprotocol htakes hforeign hlookup⟩
      | reply htakes hportal hlistener hheld =>
          have hcarries := hadmitted.carries hprotocol htakes
          rw [hlistener, Packet.receiver_of_address hportal] at hcarries
          exact .inr (.inr ⟨packet, _, hcarries, rfl,
            ofRedirection_follow_ne_drop packet _ (by decide)⟩)

/-- A translator leaves no trace of octets for which it writes nothing. -/
structure LeavesNoTrace (translator : Translator) (bytes : Octets) (now : Nat) : Prop where
  /-- Handling a packet in its buffer comes to what `process` does. -/
  same : (translator.processInPlace bytes now).1 = translator.process bytes now
  /-- If nothing is written the buffer is as it was, and so is the session table, but for the last
  use of the session that a segment of the listener names. -/
  unwritten : (∀ (event : Event) (written : Octets),
      ¬translator.Writes bytes now event written) →
    (translator.processInPlace bytes now).2 = bytes ∧
      ∃ used? : Option UInt16,
        SessionTable.SameButUse used? now translator.sessions
          (translator.process bytes now).sessions ∧
        ∀ port, used? = some port → ∃ packet,
          Carries bytes packet (translator.rules.redirector.listener packet.family)
            (translator.rules.redirector.portal.endpoint packet.family port)
  /-- Nothing fails after a session was made: its segment is redirected. -/
  made : (translator.process bytes now).sessions.nextId ≠ translator.sessions.nextId →
    ∃ packet port written, translator.Redirects bytes now packet port written
  /-- When there is no port left for a flow, not even the cursor has moved. -/
  exhausted : ∀ report? : Option NatError,
    (translator.rules.judge translator.sessions translator.stopped bytes now).1 =
      .drop .exhausted report? →
    (translator.process bytes now).sessions = translator.sessions

end Translator

/-- Whatever has happened to a started engine, it leaves no trace of octets for which it writes
nothing. -/
theorem leavesNoTrace_after {settings : NatSection} {device : Device} {first free : UInt16}
    {bindFault? : Endpoint → Option String} {engine : Engine}
    (hstart : Engine.start settings device first free bindFault? = .ok engine)
    (history : List Engine.Action) (bytes : Octets) (now : Nat) :
    (engine.after history).translator.LeavesNoTrace bytes now := by
  have hcases := Translator.sessions_process_cases (Engine.sessions_wellFormed hstart history)
    bytes now
  obtain ⟨buffer, hprocess, hbuffer⟩ :=
    (engine.after history).translator.processInPlace_eq bytes now
  constructor
  case same => rw [hprocess]
  case unwritten =>
    intro hunwritten
    rw [hprocess]
    refine ⟨?_, ?_⟩
    · rcases hbuffer with hkept | ⟨event, written, hwrites⟩
      · exact hkept
      · exact absurd hwrites (hunwritten event written)
    · rcases hcases with ⟨_, _, _, hredirects⟩ | hsame | ⟨packet, port, hcarries, htouched, -⟩
      · exact absurd hredirects.writes (hunwritten _ _)
      · rw [hsame]
        refine ⟨none, SessionTable.sameButUse_refl now _, ?_⟩
        intro port hused
        cases hused
      · rw [htouched]
        refine ⟨some port, SessionTable.sameButUse_touch _ port now, ?_⟩
        intro used hused
        cases hused
        exact ⟨packet, hcarries⟩
  case made =>
    intro hmade
    rcases hcases with hredirects | hsame | ⟨_, _, -, htouched, -⟩
    · exact hredirects
    · exact absurd (congrArg SessionTable.nextId hsame) hmade
    · exact absurd (congrArg SessionTable.nextId htouched) hmade
  case exhausted =>
    intro report? hverdict
    rcases hcases with ⟨_, _, _, hredirects⟩ | hsame | ⟨_, _, -, -, hother⟩
    · have hwritten := hredirects.writes.verdict
      rw [hverdict] at hwritten
      cases hwritten
    · exact hsame
    · exact absurd hverdict (hother report?)

/-- An engine with one port for sessions, since the other port of its range is that of its listener.
-/
def narrowEngine : Engine where
  translator :=
    (({ sessionPorts := (8999, 9000) } : NatSection).translator {} 9000 8999).postReads 4
  listener := Endpoint.of (.v6 V6.unspecified) 9000
  sweepInterval := ({} : NatSection).sweepInterval

set_option maxRecDepth 20000 in
theorem judge_otherRequest :
    let translator := (narrowEngine.after [.process sampleRequest 1]).translator
    (translator.rules.judge translator.sessions translator.stopped otherRequest 2).1 =
      .drop .exhausted (some (.session (.exhausted 1))) := by
  cbv

/-- When the only port is taken, the request of another client changes neither its buffer nor the
table. -/
theorem leavesNoTrace_after_otherRequest :
    Engine.start { sessionPorts := (8999, 9000) } {} 8999 9000 = .ok narrowEngine ∧
      let translator := (narrowEngine.after [.process sampleRequest 1]).translator
      (translator.processInPlace otherRequest 2).2 = otherRequest ∧
        (translator.process otherRequest 2).sessions = translator.sessions := by
  have hstart : Engine.start { sessionPorts := (8999, 9000) } {} 8999 9000 = .ok narrowEngine := rfl
  have htrace := leavesNoTrace_after hstart [.process sampleRequest 1] otherRequest 2
  refine ⟨hstart, (htrace.unwritten ?_).1, htrace.exhausted _ judge_otherRequest⟩
  intro event written hwrites
  have hverdict := hwrites.verdict
  rw [judge_otherRequest] at hverdict
  cases hverdict

end PortalNat
