import PortalNat.Flow.Table
import PortalNat.Translator

/-!
# Direct forwarding

A handler that sends datagrams on from sockets of the host. The datagrams of one client leave
through one socket, whatever their destination, and what that socket receives goes to the client as
coming from its sender. A flow ends when it has been idle for too long or when nothing can reach its
client any more, and then removes itself and no newer flow of the client.
-/

namespace PortalNat

/-- The socket of one client, with the way back to the client. -/
structure OutboundFlow where
  /-- The number of the socket, which no other flow ever has. -/
  socket : Nat
  client : Endpoint
  /-- The way back of the datagram that the socket was opened for. -/
  back : WriteBack
  lastActive : Nat
deriving DecidableEq, Repr

/-- A payload that leaves through a socket. -/
structure Dispatch where
  socket : Nat
  destination : Endpoint
  payload : Octets
deriving DecidableEq, Repr

/-- The sockets by client, and the flows that wait for replies. -/
structure DirectForwarder where
  timeout : Nat
  sockets : FlowTable Endpoint Nat IoError := {}
  flows : List OutboundFlow := []

namespace DirectForwarder

/-- The number of clients that have a socket. -/
def flowCount (forwarder : DirectForwarder) : Nat :=
  forwarder.sockets.size

/-- Let a flow wait for replies. -/
def watch (forwarder : DirectForwarder) (flow : OutboundFlow) : DirectForwarder :=
  { forwarder with flows := forwarder.flows ++ [flow] }

/-- Note that a socket was used. -/
def touch (forwarder : DirectForwarder) (socket now : Nat) : DirectForwarder :=
  { forwarder with
    flows := forwarder.flows.map fun flow =>
      if flow.socket = socket then { flow with lastActive := now } else flow }

/-- End the call for a socket that was opened, or could not be. -/
def finishOpening (forwarder : DirectForwarder) (call : Nat) (message : Message)
    (opened : Except IoError Nat) (now : Nat) : Option Nat × DirectForwarder :=
  let (_, sockets) := forwarder.sockets.finish call opened
  let ended := { forwarder with sockets }
  match opened with
  | .ok socket => (some socket, ended.watch ⟨socket, message.datagram.source, message.back, now⟩)
  | .error _ => (none, ended)

/-- The socket of the client of a datagram. If it has none, `opened` is what opening one comes
to. -/
def socketFor (forwarder : DirectForwarder) (message : Message) (opened : Except IoError Nat)
    (now : Nat) : Option Nat × DirectForwarder :=
  let (call, begun) := forwarder.sockets.begin message.datagram.source
  let (event?, sockets) : Option (FlowEvent Nat IoError) × FlowTable Endpoint Nat IoError :=
    begun.resume call
  let resumed := { forwarder with sockets }
  match event? with
  | some (.done _ (.ok socket)) => (some socket, resumed)
  | some (.setUp _) => resumed.finishOpening call message opened now
  | _ => (none, resumed)

/-- Send a datagram on. Nothing is sent if there is no socket for it. -/
def forward (forwarder : DirectForwarder) (message : Message) (opened : Except IoError Nat)
    (now : Nat) : Option Dispatch × DirectForwarder :=
  match forwarder.socketFor message opened now with
  | (none, forwarder) => (none, forwarder)
  | (some socket, forwarder) =>
    (some ⟨socket, message.datagram.destination, message.datagram.payload⟩,
      forwarder.touch socket now)

/-- End a flow. Its client loses its socket unless it has a newer one. -/
def endFlow (forwarder : DirectForwarder) (flow : OutboundFlow) : DirectForwarder :=
  { forwarder with
    flows := forwarder.flows.filter (·.socket ≠ flow.socket)
    sockets := (forwarder.sockets.removeIf flow.client (· == flow.socket)).2 }

/-- Pass on what a socket received. A reply that cannot be built or written is lost, and if that is
because of a shutdown, the flow ends. -/
def relay (forwarder : DirectForwarder) (translator : Translator) (socket : Nat) (sender : Endpoint)
    (payload : Octets) (now : Nat) : DirectForwarder × Translator :=
  match forwarder.flows.find? (·.socket = socket) with
  | none => (forwarder, translator)
  | some flow =>
    let touched := forwarder.touch socket now
    match translator.reply flow.back payload (some sender) with
    | (.error error, translator) =>
      (if error.isShutdown then touched.endFlow flow else touched, translator)
    | (.ok _, translator) => (touched, translator)

/-- End the flows that have been idle for too long. -/
def expire (forwarder : DirectForwarder) (now : Nat) : DirectForwarder :=
  (forwarder.flows.filter fun flow => forwarder.timeout ≤ now - flow.lastActive).foldl endFlow
    forwarder

end DirectForwarder

end PortalNat
