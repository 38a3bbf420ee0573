import PortalNat.Redirector

/-!
# Accepted connections

A connection that the stub listener accepts was opened by a redirected segment if its peer is a port
of the portal that names a session. The session then tells who opened it and where to.
-/

namespace PortalNat

/-- A connection with its ends as the client meant them, and the session that names it. -/
structure Connection where
  source : Endpoint
  destination : Endpoint
  port : UInt16
  session : Nat
deriving DecidableEq, Repr

/-- The connection of a session. -/
def Connection.ofSession (session : Session) : Connection where
  source := session.tuple.source
  destination := session.tuple.destination
  port := session.port
  session := session.id

namespace Portal

/-- Recover the connection that a peer opened. The session counts as active from then on. -/
def recover (portal : Portal) (table : SessionTable) (peer : Endpoint) (now : Nat) :
    Except ListenerError Connection × SessionTable :=
  let peer := peer.canonical
  if peer.address ≠ portal.address peer.family then
    (.error (.rejected peer "peer is not the portal"), table)
  else
    match table.attach peer.port now with
    | (some session, table) => (.ok (Connection.ofSession session), table)
    | (none, table) =>
      (.error (.rejected peer (SessionError.unknownPort peer.port).message), table)

end Portal

end PortalNat
