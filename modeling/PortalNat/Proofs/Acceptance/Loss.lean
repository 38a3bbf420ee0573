import PortalNat.Proofs.Acceptance.Recovery
import PortalNat.Proofs.Engine.Shared
import PortalNat.Proofs.Redirection.Traffic

/-!
# When the listener is lost

Once the listener is lost a new session would be of no use, so a connection request of a flow
without one is dropped. Nothing else is judged in another way: the flows that have a session keep
it, and segments still go both ways through it.
-/

namespace PortalNat

open SessionEntry (SameSession)

/-- Losing the listener makes no difference to looking up a port, except for a connection request of
a flow without a session. -/
theorem Redirector.portFor_stopped (table : SessionTable) (tuple : Tuple) (request : Bool)
    (now : Nat) :
    portFor table tuple request true now = portFor table tuple request false now ∨
      (table.byTuple[tuple]? = none ∧ request = true ∧
        portFor table tuple request true now = (.error (.listener .stopped), table)) := by
  cases hheld : table.byTuple[tuple]? with
  | some port =>
      left
      simp only [portFor, SessionTable.portOf, hheld]
  | none =>
      simp only [portFor, SessionTable.portOf, hheld]
      cases request with
      | true => exact .inr ⟨trivial, rfl, rfl⟩
      | false => exact .inl rfl

/-- It makes no difference to the route of a segment either, with the same exception. -/
theorem Redirector.route_stopped (redirector : Redirector) (table : SessionTable) (packet : Packet)
    (now : Nat) :
    redirector.route table true packet now = redirector.route table false packet now ∨
      (redirector.Takes packet ∧ table.byTuple[packet.flow]? = none ∧
        TCP.isConnectionRequest packet.payload = true ∧
        redirector.route table true packet now = (.error (.listener .stopped), table)) := by
  cases hcheck : TCP.check packet.payload with
  | error error =>
      left
      simp only [route, hcheck]
  | ok =>
      simp only [route, hcheck]
      by_cases hdisabled : (!redirector.portal.enabled packet.family) = true
      · left
        rw [if_pos hdisabled, if_pos hdisabled]
      by_cases hportal : packet.receiver.address = redirector.portal.address packet.family
      · left
        simp only [hportal, if_true]
      simp only [hdisabled, hportal, if_false]
      rcases portFor_stopped table packet.flow (TCP.isConnectionRequest packet.payload) now with
        hsame | ⟨hfresh, hrequest, hrefused⟩
      · left
        rw [hsame]
      · right
        rw [hrefused]
        exact ⟨⟨hcheck, by simpa using hdisabled⟩, hfresh, hrequest, rfl⟩

/-- What losing the listener makes of a packet: it is judged as before, or it is a connection
request of a flow without a session, which is dropped. -/
theorem Rules.judge_stopped (rules : Rules) (table : SessionTable) (bytes : Octets) (now : Nat) :
    rules.judge table true bytes now = rules.judge table false bytes now ∨
      (rules.judge table true bytes now = (.drop .redirectorStopped none, table) ∧
        ∃ packet, Carries bytes packet packet.sender packet.receiver ∧
          TCP.isConnectionRequest packet.payload = true ∧
          table.byTuple[packet.flow]? = none) := by
  by_cases hsegment : ∃ packet, rules.Admitted bytes packet ∧ packet.protocol = Protocol.tcp
  · obtain ⟨packet, hadmitted, hprotocol⟩ := hsegment
    have hjudge (stopped : Bool) : rules.judge table stopped bytes now =
        (.ofRedirection (rules.redirector.redirect table stopped packet now).1,
          (rules.redirector.redirect table stopped packet now).2) := by
      simp only [judge, hadmitted.parse, hadmitted.whole, hadmitted.admits, judgeAdmitted,
        hprotocol, Bool.not_true, Bool.false_eq_true, if_false, if_true]
    rw [hjudge, hjudge, Redirector.redirect_eq_route, Redirector.redirect_eq_route]
    rcases rules.redirector.route_stopped table packet now with
      hsame | ⟨htakes, hfresh, hrequest, hrefused⟩
    · left
      rw [hsame]
    · right
      rw [hrefused]
      exact ⟨rfl, packet, hadmitted.carries hprotocol htakes, hrequest, hfresh⟩
  · -- Nothing but a segment is judged by whether the listener is there.
    left
    simp only [judge]
    cases hparse : Packet.parse bytes with
    | error error => rfl
    | ok packet =>
        simp only []
        split_ifs with hfragment hrefused
        · rfl
        · rfl
        · simp only [Bool.not_eq_true, Bool.not_eq_false'] at hfragment hrefused
          have hother : ¬packet.protocol = Protocol.tcp := fun hprotocol =>
            hsegment ⟨packet, ⟨hparse, hfragment, hrefused⟩, hprotocol⟩
          simp only [judgeAdmitted, hother, if_false]

namespace Translator

/-- How a translator goes on without its listener. -/
structure GoesOn (translator : Translator) : Prop where
  /-- Whatever it reads it judges as if the listener was there, except for a connection request of a
  flow without a session, which it drops. -/
  judges : ∀ (bytes : Octets) (now : Nat),
    translator.rules.judge translator.sessions translator.stopped bytes now =
        translator.rules.judge translator.sessions false bytes now ∨
      (translator.rules.judge translator.sessions translator.stopped bytes now =
          (.drop .redirectorStopped none, translator.sessions) ∧
        ∃ packet, Carries bytes packet packet.sender packet.receiver ∧
          TCP.isConnectionRequest packet.payload = true ∧
          translator.sessions.byTuple[packet.flow]? = none)
  /-- Nothing that happens to it makes a session, unless somebody asks the session table for one. -/
  adds : ∀ act : Act, (∀ tuple now, act ≠ .operate (.newSession tuple) now) →
    ∀ (port : UInt16) (entry : SessionEntry),
      (translator.act act).sessions.byPort[port]? = some entry →
      ∃ former, translator.sessions.byPort[port]? = some former ∧ SameSession former entry
  /-- It still redirects the segments of a flow that has a session. -/
  redirects : ∀ (bytes : Octets) (packet : Packet) (now : Nat) (port : UInt16),
    Carries bytes packet packet.sender packet.receiver →
    translator.rules.admits packet = true →
    packet.destination ≠ translator.rules.redirector.portal.address packet.family →
    translator.sessions.byTuple[packet.flow]? = some port →
    ∃ written, translator.Redirects bytes now packet port written
  /-- It still restores what the listener sends to the port of a session of that version of IP. -/
  restores : ∀ (bytes : Octets) (packet : Packet) (now : Nat) (port : UInt16)
      (entry : SessionEntry),
    Carries bytes packet (translator.rules.redirector.listener packet.family)
      (translator.rules.redirector.portal.endpoint packet.family port) →
    translator.rules.admits packet = true →
    translator.sessions.byPort[port]? = some entry →
    entry.tuple.source.address.family = packet.family →
    entry.tuple.destination.address.family = packet.family →
    ∃ written, translator.Restores bytes now packet port entry written

variable {translator : Translator}

/-- Without the listener no packet makes a session. -/
theorem former_of_process (hstopped : translator.stopped = true) {bytes : Octets} {now : Nat}
    {port : UInt16} {entry : SessionEntry}
    (hentry : (translator.process bytes now).sessions.byPort[port]? = some entry) :
    ∃ former, translator.sessions.byPort[port]? = some former ∧ SameSession former entry := by
  rw [sessions_process, hstopped] at hentry
  obtain ⟨verdict, after, hjudge, hjudged⟩ :=
    translator.rules.judged translator.sessions true bytes now
  rw [hjudge] at hentry
  cases hjudged with
  | unread | fragment | excluded | datagram | control | unsupported =>
      exact ⟨entry, hentry, .refl entry⟩
  | segment hadmitted hprotocol hrouted =>
      cases hrouted with
      | malformed | disabled | stray | unknownPort => exact ⟨entry, hentry, .refl entry⟩
      | reply => exact SessionTable.former_of_touch hentry
      | refused htakes hforeign hlookup =>
          rw [Redirector.byPort_portFor_error hlookup] at hentry
          exact ⟨entry, hentry, .refl entry⟩
      | outbound htakes hforeign hlookup =>
          rcases Redirector.portFor_origin hlookup hentry with hformer | ⟨-, -, -, hrunning⟩
          · exact hformer
          · cases hrunning

/-- Taking a connection makes no session, nor does noticing a failure of the listener. -/
theorem former_of_accept {arrival : Arrival} {now : Nat} {port : UInt16} {entry : SessionEntry}
    (hentry : (translator.accept arrival now).sessions.byPort[port]? = some entry) :
    ∃ former, translator.sessions.byPort[port]? = some former ∧ SameSession former entry := by
  have harriving := translator.arriving arrival now
  generalize translator.accept arrival now = next at harriving hentry
  cases harriving with
  | unheard | passed | rejected | ended => exact ⟨entry, hentry, .refl entry⟩
  | @handed peer =>
      have hattached : (SessionTable.Step.apply translator.sessions ⟨.attach peer.port, now⟩
          ).byPort[port]? = some entry := hentry
      exact SessionTable.former_of_apply (by simp) hattached

theorem former_of_act (hstopped : translator.stopped = true) {act : Act}
    (hold : ∀ tuple now, act ≠ .operate (.newSession tuple) now) {port : UInt16}
    {entry : SessionEntry} (hentry : (translator.act act).sessions.byPort[port]? = some entry) :
    ∃ former, translator.sessions.byPort[port]? = some former ∧ SameSession former entry := by
  cases act with
  | process bytes now => exact former_of_process hstopped hentry
  | read now =>
      have hreading := translator.reading now
      revert hentry
      generalize translator.packet? (.read now) = packet? at hreading
      generalize translator.act (.read now) = next at hreading
      intro hentry
      cases hreading with
      | idle | closed | passed | failed => exact ⟨entry, hentry, .refl entry⟩
      | @packet count buffer device =>
          have hmiddle : ({ translator with device, buffer }.record .read).stopped = true :=
            hstopped
          exact former_of_process hmiddle hentry
  | accept arrival now => exact former_of_accept hentry
  | release connection now =>
      have hreleased : (SessionTable.Step.apply translator.sessions
          ⟨.release connection.port connection.session, now⟩).byPort[port]? = some entry := hentry
      exact SessionTable.former_of_apply (by simp) hreleased
  | operate operation now =>
      refine SessionTable.former_of_apply ?_ hentry
      rintro tuple rfl
      exact hold tuple now rfl
  | give id =>
      have hgiven := congrArg Translator.sessions (translator.shared_give id)
      have hsame : (translator.give id).sessions = translator.sessions := hgiven
      rw [Translator.act, hsame] at hentry
      exact ⟨entry, hentry, .refl entry⟩
  | use | shutDown | post | giveUp | take | closeReads => exact ⟨entry, hentry, .refl entry⟩

/-- Without its listener a translator goes on with the sessions it has. -/
theorem goesOn_of_stopped (hstopped : translator.stopped = true) : translator.GoesOn := by
  constructor
  case judges =>
    intro bytes now
    rw [hstopped]
    exact translator.rules.judge_stopped translator.sessions bytes now
  case adds =>
    intro act hold port entry hentry
    exact former_of_act hstopped hold hentry
  case redirects =>
    intro bytes packet now port hcarries hadmits hforeign hheld
    have hlookup : Redirector.portFor translator.sessions packet.flow
        (TCP.isConnectionRequest packet.payload) translator.stopped now =
          (.ok port, translator.sessions.touch port now) := by
      simp only [Redirector.portFor, SessionTable.portOf, hheld]
    exact exists_redirects ⟨hcarries.parse, hcarries.whole, hadmits⟩ hcarries.protocol
      (hcarries.takes hadmits) hforeign hlookup
  case restores =>
    intro bytes packet now port entry hcarries hadmits hheld hclient hserver
    have htuple : translator.sessions.tupleOf port now =
        (some entry.tuple, translator.sessions.touch port now) := by
      rw [SessionTable.tupleOf, hheld]
    obtain ⟨written, hjudge, hwritten⟩ :=
      judge_reply hcarries hadmits htuple hclient hserver
    exact ⟨written, hcarries, hheld, (translator.writes_iff _ _ _ _).2 (by rw [hjudge]), hwritten⟩

end Translator

end PortalNat
