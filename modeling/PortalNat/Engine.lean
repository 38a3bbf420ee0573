import PortalNat.Config.Environment
import PortalNat.Translator

/-!
# The engine

A translator with everything that runs beside it: the stub listener, the readers of pull mode and
the sweeper of the session table. An engine is started from a configuration, and closing it releases
all that it holds, for good.
-/

namespace PortalNat

/-- The first port that a host leaves to programs without privileges, unless it says otherwise. -/
def firstOpenPort : UInt16 := 1024

/-- What a host has against a program without privileges that wants to listen on an endpoint. -/
def unprivileged? (address : Endpoint) : Option String :=
  if address.port = 0 ∨ firstOpenPort ≤ address.port then none
  else some "Permission denied (os error 13)"

/-- Take an endpoint to listen on, where `free` is a port to choose if any will do, unless the host
has something against it. -/
def bindListener (address : Endpoint) (free : UInt16) (fault? : Option String) :
    Except ListenerError Endpoint :=
  match fault? with
  | some reason => .error (.bind address reason)
  | none => .ok (if address.port = 0 then { address with port := free } else address)

namespace NatSection

def portal (settings : NatSection) : Portal where
  portalV4 := settings.portalV4
  gatewayV4 := settings.gatewayV4
  portalV6 := settings.portalV6
  gatewayV6 := settings.gatewayV6
  ipv6Enabled := settings.ipv6Enabled

/-- The rules to judge packets by, with the stub listener at a port. -/
def rules (settings : NatSection) (listenerPort : UInt16) : Rules where
  redirector := ⟨settings.portal, listenerPort⟩
  scope := settings.scope
  echo := settings.echoResponder

/-- An empty session table that hands out the port `first` before any other, and never that of the
listener. -/
def sessionTable (settings : NatSection) (listenerPort first : UInt16) : SessionTable :=
  let (lowest, highest) := settings.sessionPorts
  { (SessionTable.create lowest highest first).reserve listenerPort with
    linger := settings.linger
    idleTimeout := settings.idleTimeout }

/-- A translator that has not handled anything yet. -/
def translator (settings : NatSection) (device : Device) (listenerPort first : UInt16) :
    Translator where
  rules := settings.rules listenerPort
  sessions := settings.sessionTable listenerPort first
  device
  buffer := List.replicate settings.mtu.toNat 0
  reads? := match settings.udpMode with
    | .push => none
    | .pull => some {}

end NatSection

namespace Translator

/-- Post a read for each of some readers. -/
def postReads (translator : Translator) (readers : Nat) : Translator :=
  { translator with
    reads? := translator.reads?.map fun reads =>
      { reads with
        posted := reads.posted ++ (List.range readers).map fun reader =>
          ⟨reads.nextRead + reader, true⟩
        nextRead := reads.nextRead + readers } }

/-- Let a reader give what it got to the handler and read again. -/
def handOn (translator : Translator) (read : Nat × Datagram) : Translator :=
  let (id, datagram) := read
  let handed := translator.hand datagram (.queue datagram.source datagram.destination)
  { handed with reads? := handed.reads?.map fun reads => ((reads.collect id).post).2 }

/-- Let every reader that got a datagram give it to the handler and read again. -/
def handOnAll (translator : Translator) : Translator :=
  ((translator.reads?.map (·.served)).getD []).foldl handOn translator

end Translator

structure Engine where
  translator : Translator
  listener : Endpoint
  sweepInterval : Nat
  /-- The time since the engine was started. -/
  elapsed : Nat := 0
  /-- When the next sweep of the session table is due. -/
  nextSweep : Nat := sweepInterval
  closed : Bool := false

namespace Engine

/-- How late a sweep may be without shifting the sweeps after it, in nanoseconds. -/
def sweepLeeway : Nat := 5 * NatSection.nanosPerMilli

/-- When the next sweep is due, after one that was due at the time `due` came at the time `done`. A
sweep that comes a little late leaves the sweeps after it at their times. -/
def sweepAfter (interval due done : Nat) : Nat :=
  if due + sweepLeeway < done then done + interval
  else due + ((done - due) / interval + 1) * interval

/-- Start an engine on a device. The session port `first` is handed out before any other. What the
listener comes to is up to the host: it gets the port `free` if it may have any, and `bindFault?`
tells why it cannot have an endpoint. The readers read and the session table is swept from the
start. -/
def start (settings : NatSection) (device : Device) (first free : UInt16)
    (bindFault? : Endpoint → Option String := unprivileged?) : Except NatError Engine := do
  settings.validate.mapError fun reason => .config (.validation reason)
  let address := settings.listener
  let listener ← (bindListener address free (bindFault? address)).mapError NatError.listener
  let translator := settings.translator device listener.port first
  return { translator := translator.postReads settings.udpReaders.toNat
           listener
           sweepInterval := settings.sweepInterval }

/-- Let everything run until it has to wait. -/
def run (engine : Engine) (now : Nat) : Engine :=
  { engine with translator := (engine.translator.pump now).handOnAll }

/-- Let time pass for the sweeper, in nanoseconds, and sweep if it is due. -/
def advance (engine : Engine) (duration : Nat) (now : Nat) : Engine :=
  let elapsed := engine.elapsed + duration
  let later := { engine with elapsed }
  if engine.closed ∨ elapsed < engine.nextSweep then later
  else
    let swept := (engine.translator.sessions.sweep now).2
    { later with
      nextSweep := sweepAfter engine.sweepInterval engine.nextSweep elapsed
      translator := { engine.translator with sessions := swept } }

/-- End everything that runs, and close the device and the reads. -/
def signalShutdown (engine : Engine) : Engine :=
  let ended := engine.translator.shutDown
  { engine with
    closed := true
    translator :=
      { ended with
        device := ended.device.close
        reads? := ended.reads?.map (·.close) } }

/-- Close an engine and release every session. Closing it again changes nothing. -/
def close (engine : Engine) : Engine :=
  if engine.closed then engine
  else
    let ended := engine.signalShutdown
    { ended with
      translator := { ended.translator with sessions := ended.translator.sessions.clear.2 } }

/-- Let an engine go without closing it. Its sessions stay. -/
def discard (engine : Engine) : Engine :=
  if engine.closed then engine else engine.signalShutdown

end Engine

end PortalNat
