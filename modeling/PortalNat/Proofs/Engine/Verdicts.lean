import PortalNat.Proofs.Redirection.Judgement

/-!
# The verdicts there are

A packet is written under one of three events, handed on, dropped or left alone. What is counted for
it depends on nothing else. Two reasons to drop a packet stand apart: the lack of ports is the only
one that is reported, and the lack of a reader is found only when a datagram is handed on. A packet
is left alone if it is a control message that nobody answers.
-/

namespace PortalNat

/-- What a verdict can be. -/
inductive Verdict.Settled : Verdict → Prop
  | write {event : Event} (hevent : event = .redirected ∨ event = .restored ∨ event = .echo)
      (packet : Octets) : Settled (.write event packet)
  | deliver (datagram : Datagram) (template : ReplyTemplate) : Settled (.deliver datagram template)
  | ignore : Settled .ignore
  | drop {reason : DropReason} (hreader : reason ≠ .noReader) (hports : reason ≠ .exhausted) :
      Settled (.drop reason none)
  | exhausted (inUse : Nat) : Settled (.drop .exhausted (some (.session (.exhausted inUse))))

theorem Verdict.settled_ofError (error : NatError) : (Verdict.ofError error).Settled := by
  unfold ofError
  split
  · exact .exhausted _
  all_goals exact .drop (by decide) (by decide)

theorem Verdict.settled_ofRedirection (result : Except NatError (Direction × Packet)) :
    (Verdict.ofRedirection result).Settled := by
  rcases result with error | ⟨direction, packet⟩
  · exact settled_ofError error
  · cases direction with
    | outbound => exact .write (.inl rfl) _
    | reply => exact .write (.inr (.inl rfl)) _

theorem Verdict.settled_ofDatagram (packet : Packet) : (Verdict.ofDatagram packet).Settled := by
  unfold ofDatagram
  simp only []
  split
  · exact .drop (by decide) (by decide)
  · exact .deliver _ _

theorem Verdict.settled_ofControl (echo : EchoResponder) (packet : Packet) :
    (Verdict.ofControl echo packet).Settled := by
  unfold ofControl
  split
  · exact .write (.inr (.inr rfl)) _
  · exact .ignore

/-- Every verdict on a packet is one of these. -/
theorem Rules.judge_settled (rules : Rules) (table : SessionTable) (stopped : Bool)
    (bytes : Octets) (now : Nat) : (rules.judge table stopped bytes now).1.Settled := by
  obtain ⟨verdict, after, hjudge, hjudged⟩ := rules.judged table stopped bytes now
  rw [hjudge]
  cases hjudged with
  | unread | fragment | excluded | unsupported => exact .drop (by decide) (by decide)
  | segment => exact Verdict.settled_ofRedirection _
  | datagram => exact Verdict.settled_ofDatagram _
  | control => exact Verdict.settled_ofControl _ _

/-! ## Control messages that nobody answers -/

/-- Whether some octets are a control message that is whole and in scope, and that the echo
responder does not answer. -/
def Rules.declines (rules : Rules) (bytes : Octets) : Bool :=
  match Packet.parse bytes with
  | .error _ => false
  | .ok packet =>
    !packet.isFragment && rules.admits packet
      && (packet.protocol == Protocol.icmp || packet.protocol == Protocol.icmpV6)
      && (rules.echo.answer? packet).isNone

theorem Verdict.ofRedirection_ne_ignore (result : Except NatError (Direction × Packet)) :
    Verdict.ofRedirection result ≠ .ignore := by
  rcases result with error | ⟨direction, packet⟩
  · change Verdict.ofError error ≠ .ignore
    unfold ofError
    split <;> exact fun hignore => nomatch hignore
  · exact fun hignore => nomatch hignore

theorem Verdict.ofDatagram_ne_ignore (packet : Packet) : Verdict.ofDatagram packet ≠ .ignore := by
  unfold ofDatagram
  simp only []
  split <;> exact fun hignore => nomatch hignore

theorem Verdict.ofControl_eq_ignore_iff (echo : EchoResponder) (packet : Packet) :
    Verdict.ofControl echo packet = .ignore ↔ (echo.answer? packet).isNone = true := by
  unfold ofControl
  cases echo.answer? packet with
  | none => exact iff_of_true rfl rfl
  | some reply => exact iff_of_false (fun hignore => nomatch hignore) Bool.false_ne_true

/-- A packet is left alone exactly when it is a control message that nobody answers. -/
theorem Rules.judge_eq_ignore_iff (rules : Rules) (table : SessionTable) (stopped : Bool)
    (bytes : Octets) (now : Nat) :
    (rules.judge table stopped bytes now).1 = .ignore ↔ rules.declines bytes = true := by
  unfold judge declines
  cases Packet.parse bytes with
  | error error => exact iff_of_false (fun hignore => nomatch hignore) Bool.false_ne_true
  | ok packet =>
      simp only []
      split_ifs with hfragment hrefused
      · simp [hfragment]
      · simp only [Bool.not_eq_true'] at hrefused
        simp [hrefused]
      · simp only [Bool.not_eq_true, Bool.not_eq_false'] at hfragment hrefused
        rw [hfragment, hrefused, judgeAdmitted]
        simp only []
        split_ifs with htcp hudp hcontrol
        · simp [htcp, Verdict.ofRedirection_ne_ignore, Protocol.tcp, Protocol.icmp, Protocol.icmpV6]
        · simp [hudp, Verdict.ofDatagram_ne_ignore, Protocol.udp, Protocol.icmp, Protocol.icmpV6]
        · have hmessage : (packet.protocol == Protocol.icmp ||
              packet.protocol == Protocol.icmpV6) = true := by simpa using hcontrol
          rw [hmessage]
          exact Verdict.ofControl_eq_ignore_iff _ _
        · have hother : (packet.protocol == Protocol.icmp ||
              packet.protocol == Protocol.icmpV6) = false := by simpa using hcontrol
          simp [hother]

end PortalNat
