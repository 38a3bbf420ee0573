import PortalNat.Proofs.Acceptance.Recovery
import PortalNat.Proofs.Redirection.Traffic

/-!
# Who is let in

The acceptor lets a connection in if its peer has the address of the portal, in the version of IP
that the peer itself speaks, and a port with a session. It does not ask which version of IP the
session is of. What the listener sends to a port is restored only in the version of IP of the
session, so redirection answers no peer that has the portal of the other one. The acceptor lets such
a peer in as well, and the main statement says that it lets in nobody else without a session.
-/

namespace PortalNat

open SessionTable (Step)

namespace Portal

/-- The port of a peer has a session, and the peer is the portal of the version of IP of that
session. -/
def Matches (portal : Portal) (table : SessionTable) (peer : Endpoint) : Prop :=
  ∃ entry : SessionEntry,
    table.byPort[peer.port]? = some entry ∧ portal.Names entry.tuple.family peer

/-- The port of a peer has a session, and the peer is the portal of the other version of IP. -/
def Crosses (portal : Portal) (table : SessionTable) (peer : Endpoint) : Prop :=
  ∃ (entry : SessionEntry) (family : Family),
    table.byPort[peer.port]? = some entry ∧ portal.Names family peer ∧
      family ≠ entry.tuple.family

variable {portal : Portal} {table : SessionTable} {peer : Endpoint}

theorem matches_or_crosses_iff :
    portal.Matches table peer ∨ portal.Crosses table peer ↔
      ∃ (family : Family) (entry : SessionEntry),
        portal.Names family peer ∧ table.byPort[peer.port]? = some entry := by
  constructor
  · rintro (⟨entry, hentry, hnames⟩ | ⟨entry, family, hentry, hnames, -⟩)
    · exact ⟨_, entry, hnames, hentry⟩
    · exact ⟨family, entry, hnames, hentry⟩
  · rintro ⟨family, entry, hnames, hentry⟩
    by_cases hfamily : family = entry.tuple.family
    · exact .inl ⟨entry, hentry, hfamily ▸ hnames⟩
    · exact .inr ⟨entry, family, hentry, hnames, hfamily⟩

/-- A peer that is the portal of the version of IP of its session is not also that of the other. -/
theorem not_crosses_of_matches (hmatches : portal.Matches table peer) :
    ¬portal.Crosses table peer := by
  rintro ⟨entry, family, hentry, hnames, hother⟩
  obtain ⟨same, hsame, hown⟩ := hmatches
  rw [hentry] at hsame
  cases hsame
  exact hother (hnames.unique hown)

/-- How the acceptor judges the connection of a peer. -/
structure Screens (portal : Portal) (table : SessionTable) (peer : Endpoint) (now : Nat) :
    Prop where
  /-- It lets a peer in that is a portal and has a port with a session, whichever portal it is. -/
  letIn : (∃ connection, (portal.recover table peer now).1 = .ok connection) ↔
    portal.Matches table peer ∨ portal.Crosses table peer
  /-- So it lets a peer in exactly when it is the portal of the version of IP of the session at its
  port, unless it is the portal of the other version of IP. -/
  exact_iff : ((∃ connection, (portal.recover table peer now).1 = .ok connection) ↔
    portal.Matches table peer) ↔ ¬portal.Crosses table peer
  /-- A connection that is let in has the ends of the session at the port of the peer, and attaching
  that session is all that happens to the table. -/
  handed : ∀ connection, (portal.recover table peer now).1 = .ok connection →
    ∃ entry : SessionEntry, table.byPort[peer.port]? = some entry ∧
      connection = ⟨entry.tuple.source, entry.tuple.destination, peer.port, entry.id⟩ ∧
      (portal.recover table peer now).2 = Step.apply table ⟨.attach peer.port, now⟩
  /-- A connection that is not let in is rejected, and the table is as it was. -/
  refused : ∀ error, (portal.recover table peer now).1 = .error error →
    (portal.recover table peer now).2 = table ∧ ∃ reason, error = .rejected peer.canonical reason

/-- Whatever the sessions are and wherever a connection comes from, it is let in exactly when its
port has a session and it comes from a portal, be it that of the version of IP of the session or the
other one. Otherwise it is rejected, and no session changes. -/
theorem screens (portal : Portal) (table : SessionTable) (peer : Endpoint) (now : Nat) :
    portal.Screens table peer now := by
  have hletIn : (∃ connection, (portal.recover table peer now).1 = .ok connection) ↔
      portal.Matches table peer ∨ portal.Crosses table peer := by
    rw [matches_or_crosses_iff]
    rcases portal.recover_cases table peer now with
      ⟨family, entry, hnames, hentry, hrecover⟩ | ⟨hunknown, reason, hrecover⟩ <;> rw [hrecover]
    · exact iff_of_true ⟨_, rfl⟩ ⟨family, entry, hnames, hentry⟩
    · refine iff_of_false (fun ⟨_, hok⟩ => nomatch hok) ?_
      rintro ⟨family, entry, hnames, hentry⟩
      rw [hunknown family hnames] at hentry
      cases hentry
  constructor
  case letIn => exact hletIn
  case exact_iff =>
    rw [hletIn]
    constructor
    · intro hexact hcrosses
      exact not_crosses_of_matches (hexact.1 (.inr hcrosses)) hcrosses
    · intro hplain
      exact or_iff_left hplain
  case handed =>
    intro connection hconnection
    rcases portal.recover_cases table peer now with
      ⟨family, entry, hnames, hentry, hrecover⟩ | ⟨-, reason, hrecover⟩ <;>
    rw [hrecover] at hconnection ⊢ <;> cases hconnection
    exact ⟨entry, hentry, rfl, rfl⟩
  case refused =>
    intro error herror
    rcases portal.recover_cases table peer now with
      ⟨family, entry, hnames, hentry, hrecover⟩ | ⟨-, reason, hrecover⟩ <;>
    rw [hrecover] at herror ⊢ <;> cases herror
    exact ⟨rfl, reason, rfl⟩

end Portal

/-- What the listener sends to the port of a session is restored only in the version of IP of that
session. -/
theorem Translator.Restores.family {translator : Translator} {bytes written : Octets} {now : Nat}
    {packet : Packet} {port : UInt16} {entry : SessionEntry}
    (hrestores : translator.Restores bytes now packet port entry written) :
    packet.family = entry.tuple.family := by
  obtain ⟨verdict, after, hjudge, hjudged⟩ :=
    translator.rules.judged translator.sessions translator.stopped bytes now
  obtain rfl : verdict = .write .restored written := by rw [← hrestores.writes.verdict, hjudge]
  rcases hjudged.write_cases with
    ⟨same, route, readdressed, hadmitted, hprotocol, hrouted, hreaddressed, hevent, -⟩ | ⟨hecho, -⟩
  · cases hrouted with
    | outbound => cases hevent
    | @reply held htakes hportal hlistener hheld =>
        obtain ⟨rfl, -, hreceiver⟩ := hrestores.carries.unique (hadmitted.carries hprotocol htakes)
        have hentry : translator.sessions.byPort[packet.receiver.port]? = some entry := by
          rw [← hreceiver]
          exact hrestores.held
        rw [hentry] at hheld
        cases hheld
        have hwell := hrestores.carries.wellFormed
        exact (Packet.readdressed_of_rewriteEndpoints hwell hreaddressed).2.1.symm
  · cases hecho

/-- A peer that is the portal of the other version of IP gets nothing of what the listener sends to
it. -/
theorem Translator.not_restores_of_crosses {translator : Translator} {bytes written : Octets}
    {now : Nat} {packet : Packet} {peer : Endpoint} {entry : SessionEntry}
    (hnames : translator.rules.redirector.portal.Names packet.family peer)
    (hcrosses : translator.rules.redirector.portal.Crosses translator.sessions peer) :
    ¬translator.Restores bytes now packet peer.port entry written := by
  intro hrestores
  obtain ⟨same, family, hsame, hother, hfamily⟩ := hcrosses
  rw [hrestores.held] at hsame
  cases hsame
  rw [← hrestores.family, hother.unique hnames] at hfamily
  exact hfamily rfl

set_option maxRecDepth 20000 in
/-- The request of an IPv4 client has a session at port 5000. A connection from the IPv6 portal at
this port is handed to the handler with the ends of the IPv4 client and server, and the session
counts as active. -/
theorem crossing_peer_let_in :
    let translator := (sampleEngine.after [.process sampleRequest 1]).translator
    let peer := Endpoint.of (.v6 ⟨0xfdfe, 0xdcba, 0x9876, 0, 0, 0, 0, 2⟩) 5000
    Engine.start {} {} 5000 9000 = .ok sampleEngine ∧
      ¬translator.rules.redirector.portal.Matches translator.sessions peer ∧
      (translator.accept (.connected peer) 2).connections =
        [⟨Endpoint.of (.v4 ⟨10, 0, 0, 2⟩) 51000, Endpoint.of (.v4 ⟨1, 2, 3, 4⟩) 443, 5000, 1⟩] ∧
      (translator.sessions.session? 5000).map (·.state) = some .pending ∧
      ((translator.accept (.connected peer) 2).sessions.session? 5000).map (·.state) =
        some .active := by
  refine ⟨rfl, ?_, by cbv, by cbv, by cbv⟩
  rintro ⟨entry, hentry, hnames⟩
  have htuple : ((sampleEngine.after [.process sampleRequest 1]).translator.sessions.byPort[
      (5000 : UInt16)]?).map (·.tuple.family) = some .v4 := by cbv
  rw [show (Endpoint.of _ 5000).port = 5000 from rfl] at hentry
  rw [hentry, Option.map_some, Option.some.injEq] at htuple
  rw [htuple] at hnames
  cases hnames

end PortalNat
