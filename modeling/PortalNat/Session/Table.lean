import Std.Data.HashMap
import Std.Data.TreeMap
import PortalNat.Error
import PortalNat.Session.Tuple

/-!
# Session table

Every redirected flow has a session, named by a port of the portal. The table finds the port of a
flow and the flow of a port, and both directions always change together.

A session is pending from the first segment on, active once its connection was accepted, and
lingering after the connection closed. A port is handed out again only after its session was
evicted, and the cursor walks the range in order, so that a port just freed comes last.

Times are in nanoseconds since some fixed moment and are given by the caller.
-/

namespace PortalNat

/-- Where a session stands in its life. -/
inductive SessionState where
  | pending
  | active
  | lingering (since : Nat)
deriving DecidableEq, Repr

/-- What the table keeps of a session beside its port. -/
structure SessionEntry where
  tuple : Tuple
  id : Nat
  state : SessionState
  createdAt : Nat
  lastActive : Nat
deriving DecidableEq, Repr

/-- A session as it stood at some moment. -/
structure Session extends SessionEntry where
  port : UInt16
deriving DecidableEq, Repr

/-- The sessions by flow and by port, and what governs which port comes next and how long a
session may stay. -/
structure SessionTable where
  byTuple : Std.HashMap Tuple UInt16
  byPort : Std.TreeMap UInt16 SessionEntry
  cursor : UInt16
  /-- The number of the next session. Numbers have no bound here, so they are what words of
  sixty-four bits come to as long as fewer than 2^64 sessions are made. -/
  nextId : Nat
  lowest : UInt16
  highest : UInt16
  reserved : List UInt16
  linger : Nat
  idleTimeout : Nat

namespace SessionEntry

/-- Whether a session has outstayed its time. An active one never does. -/
def expired (entry : SessionEntry) (now linger idleTimeout : Nat) : Bool :=
  match entry.state with
  | .active => false
  | .pending => idleTimeout ≤ now - entry.lastActive
  | .lingering since => linger ≤ now - since

end SessionEntry

namespace SessionTable

def nanosPerMilli : Nat := 1000000

/-- How long a closed session keeps its port if nothing else is said: five seconds. -/
def defaultLinger : Nat := 5000 * nanosPerMilli

/-- How long a session may wait to be accepted if nothing else is said: five minutes. -/
def defaultIdleTimeout : Nat := 300000 * nanosPerMilli

/-- An empty table over the ports from `lowest` to `highest`, the first port being handed out near
`first`. Port zero is never handed out, and a range that ends before it starts has one port. -/
def create (lowest highest first : UInt16) : SessionTable :=
  let lowest := max lowest 1
  let highest := max highest lowest
  { byTuple := ∅
    byPort := ∅
    cursor := min (max first lowest) highest
    nextId := 1
    lowest
    highest
    reserved := []
    linger := defaultLinger
    idleTimeout := defaultIdleTimeout }

/-- Never hand out a port. -/
def reserve (table : SessionTable) (port : UInt16) : SessionTable :=
  { table with reserved := table.reserved.insert port }

/-- The number of ports between the lowest and the highest, both included. -/
def span (table : SessionTable) : Nat :=
  table.highest.toNat - table.lowest.toNat + 1

def inRange (table : SessionTable) (port : UInt16) : Bool :=
  table.lowest ≤ port && port ≤ table.highest

/-- The number of ports that can be handed out. -/
def capacity (table : SessionTable) : Nat :=
  table.span - table.reserved.countP table.inRange

def size (table : SessionTable) : Nat :=
  table.byPort.size

/-- The session of a port. -/
def session? (table : SessionTable) (port : UInt16) : Option Session :=
  table.byPort[port]?.map fun entry => { entry with port }

/-- All sessions in the order of their ports. -/
def toList (table : SessionTable) : List Session :=
  table.byPort.toList.map fun (port, entry) => { entry with port }

/-- The number of sessions with an open connection. -/
def activeCount (table : SessionTable) : Nat :=
  table.toList.countP (·.state == .active)

/-- Note that the session of a port was used. -/
def touch (table : SessionTable) (port : UInt16) (now : Nat) : SessionTable :=
  { table with byPort := table.byPort.modify port fun entry => { entry with lastActive := now } }

/-- The port of a flow, whose session thereby counts as used. -/
def portOf (table : SessionTable) (tuple : Tuple) (now : Nat) : Option UInt16 × SessionTable :=
  match table.byTuple[tuple]? with
  | none => (none, table)
  | some port => (some port, table.touch port now)

/-- The flow of a port, whose session thereby counts as used. -/
def tupleOf (table : SessionTable) (port : UInt16) (now : Nat) : Option Tuple × SessionTable :=
  match table.byPort[port]? with
  | none => (none, table)
  | some entry => (some entry.tuple, table.touch port now)

/-- The port that the cursor moves to from a port. -/
def successor (table : SessionTable) (port : UInt16) : UInt16 :=
  if table.highest ≤ port then table.lowest else port + 1

/-- Whether a port is neither reserved nor in use. -/
def isFree (table : SessionTable) (port : UInt16) : Bool :=
  !table.reserved.contains port && !table.byPort.contains port

/-- Look at up to `steps` ports in cursor order for a free one. The second part is where the
cursor stands afterwards, just past the port that was found. -/
def findFree (table : SessionTable) : (steps : Nat) → UInt16 → Option UInt16 × UInt16
  | 0, cursor => (none, cursor)
  | steps + 1, cursor =>
    if table.isFree cursor then (some cursor, table.successor cursor)
    else findFree table steps (table.successor cursor)

/-- Enter a new pending session. -/
def enter (table : SessionTable) (tuple : Tuple) (port cursor : UInt16) (now : Nat) :
    SessionTable :=
  let entry : SessionEntry :=
    { tuple, id := table.nextId, state := .pending, createdAt := now, lastActive := now }
  { table with
    byTuple := table.byTuple.insert tuple port
    byPort := table.byPort.insert port entry
    cursor
    nextId := table.nextId + 1 }

/-- The port of a flow, for which a session is made if it has none. -/
def newSession (table : SessionTable) (tuple : Tuple) (now : Nat) :
    Except SessionError UInt16 × SessionTable :=
  match table.byTuple[tuple]? with
  | some port => (.ok port, table)
  | none =>
    match table.findFree table.span table.cursor with
    | (some port, cursor) => (.ok port, table.enter tuple port cursor now)
    | (none, cursor) => (.error (.exhausted table.size), { table with cursor })

/-- Note that the connection of a session was accepted. -/
def attach (table : SessionTable) (port : UInt16) (now : Nat) : Option Session × SessionTable :=
  let attached : SessionTable :=
    { table with
      byPort := table.byPort.modify port fun entry =>
        { entry with state := .active, lastActive := now } }
  match table.byPort[port]? with
  | none => (none, table)
  | some _ => (attached.session? port, attached)

/-- Let a session linger whose connection closed. Nothing happens if the port has since gone to
another session, which its number tells. -/
def release (table : SessionTable) (port : UInt16) (id : Nat) (now : Nat) : SessionTable :=
  match table.byPort[port]? with
  | none => table
  | some entry =>
    if entry.id = id ∧ entry.state = .active then
      { table with byPort := table.byPort.insert port { entry with state := .lingering now } }
    else table

/-- Remove the session of a port from both directions. -/
def evictPort (table : SessionTable) (port : UInt16) : SessionTable :=
  match table.byPort[port]? with
  | none => table
  | some entry =>
    { table with
      byPort := table.byPort.erase port
      byTuple := table.byTuple.erase entry.tuple }

/-- Remove the session of a flow and tell its port. -/
def evict (table : SessionTable) (tuple : Tuple) : Option UInt16 × SessionTable :=
  match table.byTuple[tuple]? with
  | none => (none, table)
  | some port => (some port, table.evictPort port)

/-- The ports of the sessions that have outstayed their time. -/
def expiredPorts (table : SessionTable) (now : Nat) : List UInt16 :=
  (table.byPort.toList.filter fun (_, entry) =>
    entry.expired now table.linger table.idleTimeout).map (·.1)

/-- Evict every session that has outstayed its time, and count them. -/
def sweep (table : SessionTable) (now : Nat) : Nat × SessionTable :=
  let expired := table.expiredPorts now
  (expired.length, expired.foldl evictPort table)

/-- Drop every session, and count them. -/
def clear (table : SessionTable) : Nat × SessionTable :=
  (table.size, { table with byTuple := ∅, byPort := ∅ })

end SessionTable

end PortalNat
