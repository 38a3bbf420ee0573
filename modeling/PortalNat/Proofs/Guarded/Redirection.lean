import PortalNat.Proofs.Guarded.Rewrite
import PortalNat.Proofs.Redirection.Route

/-!
# Guarded redirection

A session port for a flow, and the segment that is readdressed by it, with every access guarded. The
cursor of the session table stays in its range, and a range of ports is not larger than the ports
there are. Sessions are numbered without end, so that their numbers fit a word only for so long.
-/

namespace PortalNat.Guarded

/-! ## Session ports -/

def successor (table : SessionTable) (port : UInt16) : Guarded UInt16 :=
  if table.highest ≤ port then pure table.lowest else addWords port 1

def span (table : SessionTable) : Guarded Nat := do
  fit 32 ((← subtract table.highest.toNat table.lowest.toNat) + 1)

def findFree (table : SessionTable) : (steps : Nat) → UInt16 → Guarded (Option UInt16 × UInt16)
  | 0, cursor => return (none, cursor)
  | steps + 1, cursor => do
    let next ← successor table cursor
    if table.isFree cursor then return (some cursor, next)
    findFree table steps next

def newSession (table : SessionTable) (tuple : Tuple) (now : Nat) :
    Guarded (Except SessionError UInt16 × SessionTable) :=
  match table.byTuple[tuple]? with
  | some port => return (.ok port, table)
  | none => do
    match ← findFree table (← span table) table.cursor with
    | (some port, cursor) =>
      let nextId ← fit 64 (table.nextId + 1)
      return (.ok port, { table.enter tuple port cursor now with nextId })
    | (none, cursor) => return (.error (.exhausted table.size), { table with cursor })

def portFor (table : SessionTable) (tuple : Tuple) (request stopped : Bool) (now : Nat) :
    Guarded (Except NatError UInt16 × SessionTable) :=
  match table.portOf tuple now with
  | (some port, table) => return (.ok port, table)
  | (none, table) =>
    if !request then return (.error (.session (.noSession tuple.toText)), table)
    else if stopped then return (.error (.listener .stopped), table)
    else do
      let (port, table) ← newSession table tuple now
      return (port.mapError .session, table)

section

variable (table : SessionTable)

/-- Below the highest port there is a next one. -/
theorem successor_eq (port : UInt16) : successor table port = pure (table.successor port) := by
  rw [successor, SessionTable.successor]
  split_ifs with hhighest
  · rfl
  · have hport : port.toNat < table.highest.toNat :=
      UInt16.lt_iff_toNat_lt.1 (UInt16.not_le.1 hhighest)
    have hbound := table.highest.toNat_lt
    exact addWords_eq (show port.toNat + 1 < 2 ^ 16 by omega)

theorem findFree_eq (steps : Nat) (cursor : UInt16) :
    findFree table steps cursor = pure (table.findFree steps cursor) := by
  induction steps generalizing cursor with
  | zero => rfl
  | succ steps ih =>
      rw [findFree, SessionTable.findFree, successor_eq, pure_bind, ih, apply_ite pure]

variable {table} {tuple : Tuple} {now : Nat} (hrange : table.lowest ≤ table.highest)
include hrange

theorem span_eq : span table = pure table.span := by
  have hbound := table.highest.toNat_lt
  rw [span, subtract_eq (UInt16.le_iff_toNat_le.1 hrange), pure_bind, fit_eq (by omega)]
  rfl

/-- A new session does not fault as long as its number is not the last one. -/
theorem newSession_eq (hcount : (table.newSession tuple now).2.nextId < 2 ^ 64) :
    newSession table tuple now = pure (table.newSession tuple now) := by
  unfold SessionTable.newSession at hcount ⊢
  rw [newSession]
  cases hheld : table.byTuple[tuple]? with
  | some port => rfl
  | none =>
      simp only [hheld] at hcount ⊢
      rw [span_eq hrange, pure_bind, findFree_eq, pure_bind]
      rcases hfound : table.findFree table.span table.cursor with ⟨_ | port, cursor⟩
      · rfl
      · rw [hfound] at hcount
        simp only [fit_eq (show table.nextId + 1 < 2 ^ 64 from hcount), pure_bind]
        rfl

theorem portFor_eq {request stopped : Bool}
    (hcount : (Redirector.portFor table tuple request stopped now).2.nextId < 2 ^ 64) :
    portFor table tuple request stopped now =
      pure (Redirector.portFor table tuple request stopped now) := by
  unfold Redirector.portFor at hcount ⊢
  rw [portFor, SessionTable.portOf] at *
  cases hheld : table.byTuple[tuple]? with
  | some port => rfl
  | none =>
      simp only [hheld] at hcount ⊢
      split_ifs at hcount ⊢
      · rfl
      · rfl
      · rw [newSession_eq hrange hcount]
        rfl

end

/-! ## Segments -/

def restore (redirector : Redirector) (table : SessionTable) (packet : Packet)
    (source : Endpoint) (port : UInt16) (now : Nat) :
    Guarded (Except NatError (Direction × Packet) × SessionTable) :=
  if source ≠ redirector.listener packet.family then
    return (.error (.session (.stray source)), table)
  else
    match table.tupleOf port now with
    | (none, table) => return (.error (.session (.unknownPort port)), table)
    | (some tuple, table) => do
      let restored ← rewriteEndpoints packet tuple.destination tuple.source
      return ((restored.map fun packet => (.reply, packet)).mapError .packet, table)

def forward (redirector : Redirector) (table : SessionTable) (stopped : Bool) (packet : Packet)
    (tuple : Tuple) (request : Bool) (now : Nat) :
    Guarded (Except NatError (Direction × Packet) × SessionTable) := do
  match ← portFor table tuple request stopped now with
  | (.error error, table) => return (.error error, table)
  | (.ok port, table) =>
    let portal := Endpoint.of (redirector.portal.address packet.family) port
    let forwarded ← rewriteEndpoints packet portal (redirector.listener packet.family)
    return ((forwarded.map fun packet => (.outbound, packet)).mapError .packet, table)

def redirect (redirector : Redirector) (table : SessionTable) (stopped : Bool) (packet : Packet)
    (now : Nat) : Guarded (Except NatError (Direction × Packet) × SessionTable) := do
  let segment ← payload packet
  match ← checkTcp segment with
  | .error error => return (.error (.packet error), table)
  | .ok () =>
    let sourcePort ← word segment 0
    let destinationPort ← word segment 2
    let flags ← octet segment 13
    let request := flags &&& TCP.synBit != 0 && !(flags &&& TCP.ackBit != 0)
    let source := Endpoint.of (← source packet) sourcePort
    let destination := Endpoint.of (← destination packet) destinationPort
    if !redirector.portal.enabled packet.family then
      return (.error (.session .ipv6Disabled), table)
    else if destination.address = redirector.portal.address packet.family then
      restore redirector table packet source destination.port now
    else forward redirector table stopped packet (Tuple.of source destination) request now

section

variable {packet : Packet} (hwell : packet.WellFormed) (redirector : Redirector)
include hwell

theorem restore_eq (table : SessionTable) (source : Endpoint) (port : UInt16) (now : Nat) :
    restore redirector table packet source port now =
      pure (redirector.restore table packet source port now) := by
  rw [restore, Redirector.restore]
  split_ifs with hstray
  · rfl
  · rcases table.tupleOf port now with ⟨_ | tuple, after⟩
    · rfl
    · simp only [rewriteEndpoints_eq hwell, pure_bind]

variable {table : SessionTable} {stopped : Bool} {now : Nat}
  (hrange : table.lowest ≤ table.highest)
include hrange

theorem forward_eq {tuple : Tuple}
    (hcount : (redirector.forward table stopped packet tuple now).2.nextId < 2 ^ 64) :
    forward redirector table stopped packet tuple (TCP.isConnectionRequest packet.payload) now =
      pure (redirector.forward table stopped packet tuple now) := by
  have hport : (Redirector.portFor table tuple (TCP.isConnectionRequest packet.payload) stopped
      now).2.nextId < 2 ^ 64 := by
    rw [Redirector.forward] at hcount
    rcases hfor : Redirector.portFor table tuple (TCP.isConnectionRequest packet.payload) stopped
      now with ⟨_ | port, after⟩ <;> rwa [hfor] at hcount
  rw [forward, portFor_eq hrange hport, pure_bind, Redirector.forward]
  rcases Redirector.portFor table tuple (TCP.isConnectionRequest packet.payload) stopped now with
    ⟨_ | port, after⟩
  · rfl
  · simp only [rewriteEndpoints_eq hwell, pure_bind]

/-- Redirecting does not fault, whatever the segment, as long as sessions can be numbered. -/
theorem redirect_eq
    (hcount : (redirector.redirect table stopped packet now).2.nextId < 2 ^ 64) :
    redirect redirector table stopped packet now =
      pure (redirector.redirect table stopped packet now) := by
  rw [redirect, payload_eq hwell, pure_bind, checkTcp_eq, pure_bind]
  unfold Redirector.redirect at hcount ⊢
  cases hcheck : TCP.check packet.payload with
  | error error => simp only [hcheck]
  | ok =>
      have hlong := ((Packet.tcp_check_iff packet.payload).1 hcheck).1
      rw [TCP.minimumLength] at hlong
      simp only [hcheck] at hcount ⊢
      rw [word_eq (by omega), word_eq (by omega), octet_eq (by omega), source_eq hwell,
        destination_eq hwell]
      simp only [pure_bind]
      change (if _ then _ else if (Endpoint.of packet.destination
        (TCP.destinationPort packet.payload)).address = _ then _ else _) = _
      split_ifs at hcount ⊢ with hdisabled hportal
      · rfl
      · exact restore_eq hwell redirector table _ _ now
      · exact forward_eq hwell redirector hrange hcount

end

/-- A readdressed segment is a packet again. -/
theorem wellFormed_redirect {packet sent : Packet} (hwell : packet.WellFormed)
    {redirector : Redirector} {table after : SessionTable} {stopped : Bool} {now : Nat}
    {direction : Direction}
    (hsent : redirector.redirect table stopped packet now = (.ok (direction, sent), after)) :
    sent.WellFormed := by
  rw [Redirector.redirect_eq_route] at hsent
  cases hroute : (redirector.route table stopped packet now).1 with
  | error error =>
      rw [hroute] at hsent
      cases hsent
  | ok route =>
      have hfollow : packet.follow route = .ok (direction, sent) := by
        rw [hroute] at hsent
        exact congrArg Prod.fst hsent
      rw [Packet.follow] at hfollow
      cases hafter : packet.rewriteEndpoints route.source route.destination with
      | error error =>
          rw [hafter] at hfollow
          cases hfollow
      | ok readdressed =>
          rw [hafter] at hfollow
          cases hfollow
          obtain ⟨-, -, -, hreaddressed⟩ := Packet.readdressed_of_rewriteEndpoints hwell hafter
          exact hreaddressed.wellFormed hwell

end PortalNat.Guarded
