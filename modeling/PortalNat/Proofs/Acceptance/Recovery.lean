import PortalNat.Proofs.Redirection.Judgement
import PortalNat.Proofs.Session.Lifecycle
import PortalNat.Translator

/-!
# Recovering a connection

A connection is recovered if its peer has the address of the portal, in the version of IP that the
peer itself speaks, and a port with a session. It then has the ends of that session, whatever
version of IP the session is of. So there are five things that an arrival can come to.
-/

namespace PortalNat.Portal

/-- A peer has the address of the portal of a version of IP, in either spelling. -/
def Names (portal : Portal) (family : Family) (peer : Endpoint) : Prop :=
  peer.address.canonical = portal.address family

variable {portal : Portal} {table : SessionTable} {peer : Endpoint} {family : Family}
  {entry : SessionEntry}

/-- A peer has the address of at most one portal. -/
theorem Names.unique {other : Family} (hnames : portal.Names family peer)
    (hother : portal.Names other peer) : family = other := by
  have hsame : portal.address family = portal.address other := hnames.symm.trans hother
  rw [← portal.family_address family, hsame, portal.family_address]

/-- The address that a peer is compared with is that of the portal of its own version of IP, and
that is the portal it has the address of, if there is one. -/
theorem Names.own (hnames : portal.Names family peer) :
    peer.canonical.address = portal.address peer.canonical.family := by
  have hown : peer.canonical.address = portal.address family := hnames
  rw [Endpoint.family, hown, portal.family_address]

/-- The acceptor lets in what comes from the portal to a port with a session, whichever portal that
is. -/
theorem recover_held (hnames : portal.Names family peer)
    (hheld : table.byPort[peer.port]? = some entry) (now : Nat) :
    portal.recover table peer now =
      (.ok ⟨entry.tuple.source, entry.tuple.destination, peer.port, entry.id⟩,
        (table.attach peer.port now).2) := by
  have hattached := table.attach_fst peer.port now
  rw [hheld, Option.map_some] at hattached
  unfold recover
  simp only []
  rw [if_neg (not_not.2 hnames.own), show peer.canonical.port = peer.port from rfl]
  rcases hboth : table.attach peer.port now with ⟨found, after⟩
  rw [hboth] at hattached
  simp only at hattached
  rw [hattached]
  rfl

/-- The acceptor refuses what comes from the portal to a port without a session. -/
theorem recover_free (hnames : portal.Names family peer)
    (hfree : table.byPort[peer.port]? = none) (now : Nat) :
    portal.recover table peer now =
      (.error (.rejected peer.canonical (SessionError.unknownPort peer.port).message), table) := by
  unfold recover
  simp only []
  rw [if_neg (not_not.2 hnames.own), show peer.canonical.port = peer.port from rfl]
  simp only [SessionTable.attach, hfree]

/-- The acceptor refuses what does not come from the portal. -/
theorem recover_foreign (hforeign : ∀ family, ¬portal.Names family peer) (now : Nat) :
    portal.recover table peer now =
      (.error (.rejected peer.canonical "peer is not the portal"), table) := by
  unfold recover
  exact if_pos (hforeign peer.canonical.family)

/-- What the acceptor makes of a peer: it lets the peer in, or refuses it. -/
theorem recover_cases (portal : Portal) (table : SessionTable) (peer : Endpoint) (now : Nat) :
    (∃ (family : Family) (entry : SessionEntry), portal.Names family peer ∧
        table.byPort[peer.port]? = some entry ∧
        portal.recover table peer now =
          (.ok ⟨entry.tuple.source, entry.tuple.destination, peer.port, entry.id⟩,
            (table.attach peer.port now).2)) ∨
      ((∀ family, portal.Names family peer → table.byPort[peer.port]? = none) ∧
        ∃ reason, portal.recover table peer now =
          (.error (.rejected peer.canonical reason), table)) := by
  by_cases hportal : ∃ family, portal.Names family peer
  · obtain ⟨family, hnames⟩ := hportal
    cases hentry : table.byPort[peer.port]? with
    | none => exact .inr ⟨fun _ _ => rfl, _, recover_free hnames hentry now⟩
    | some entry => exact .inl ⟨family, entry, hnames, rfl, recover_held hnames hentry now⟩
  · have hforeign := not_exists.1 hportal
    exact .inr ⟨fun family hnames => absurd hnames (hforeign family), _,
      recover_foreign hforeign now⟩

end PortalNat.Portal

namespace PortalNat.Translator

/-- What an arrival at the listener makes of a translator. -/
inductive Arriving (translator : Translator) (now : Nat) : Arrival → Translator → Prop
  /-- Once the acceptor has ended an arrival is left where it is. -/
  | unheard (arrival : Arrival) (hended : translator.accepting = false) :
      Arriving translator now arrival translator
  | handed {peer : Endpoint} {family : Family} {entry : SessionEntry}
      (haccepting : translator.accepting = true)
      (hnames : translator.rules.redirector.portal.Names family peer)
      (hheld : translator.sessions.byPort[peer.port]? = some entry) :
      Arriving translator now (.connected peer)
        ({ translator with
          sessions := (translator.sessions.attach peer.port now).2
          connections := translator.connections ++ [Connection.mk entry.tuple.source
            entry.tuple.destination peer.port entry.id] }.record .accepted)
  | rejected {peer : Endpoint} (haccepting : translator.accepting = true)
      (hunknown : ∀ family, translator.rules.redirector.portal.Names family peer →
        translator.sessions.byPort[peer.port]? = none) :
      Arriving translator now (.connected peer) (translator.record .rejected)
  | passed {error : IoError} (haccepting : translator.accepting = true)
      (htransient : error.isTransient = true) :
      Arriving translator now (.failed error) translator
  | ended {error : IoError} (haccepting : translator.accepting = true)
      (hfatal : error.isTransient = false) :
      Arriving translator now (.failed error)
        ({ translator with accepting := false, stopped := true }.report (.listener (.accept error)))

theorem arriving (translator : Translator) (arrival : Arrival) (now : Nat) :
    translator.Arriving now arrival (translator.accept arrival now) := by
  unfold accept
  split_ifs with hidle
  · exact .unheard arrival (Bool.not_eq_true' _ ▸ hidle)
  · have haccepting : translator.accepting = true := by simpa using hidle
    cases arrival with
    | connected peer =>
        rcases translator.rules.redirector.portal.recover_cases translator.sessions peer now with
          ⟨family, entry, hnames, hheld, hrecover⟩ | ⟨hunknown, reason, hrecover⟩ <;>
        simp only [hrecover]
        · exact .handed haccepting hnames hheld
        · exact .rejected haccepting hunknown
    | failed error =>
        simp only []
        split_ifs with hkind
        · exact .passed haccepting hkind
        · exact .ended haccepting (Bool.not_eq_true _ ▸ hkind)

end PortalNat.Translator
