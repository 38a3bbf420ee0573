import PortalNat.Address.Range
import PortalNat.Echo
import PortalNat.Scope

/-!
# Configuration

What the program is told at its start: how to translate, which device to use and what to log.
Everything but the choice of the device has a default.
-/

namespace PortalNat

/-- How datagrams reach the handler: each is pushed to it with the means to reply, or they wait
until somebody reads them. -/
inductive UdpMode where
  | push
  | pull
deriving DecidableEq, Repr, Inhabited

/-- How flows are translated. -/
structure NatSection where
  /-- The address that redirected segments seem to come from. -/
  portalV4 : V4 := ⟨172, 19, 0, 2⟩
  /-- The local address that redirected segments go to. -/
  gatewayV4 : V4 := ⟨172, 19, 0, 1⟩
  portalV6 : V6 := ⟨0xfdfe, 0xdcba, 0x9876, 0, 0, 0, 0, 2⟩
  gatewayV6 : V6 := ⟨0xfdfe, 0xdcba, 0x9876, 0, 0, 0, 0, 1⟩
  ipv6Enabled : Bool := true
  /-- The size of the buffer that packets are read into. -/
  mtu : UInt32 := 1500
  listener? : Option Endpoint := none
  /-- The first and last port that sessions are named by. -/
  sessionPorts : UInt16 × UInt16 := (1, 65535)
  lingerMillis : UInt64 := 5000
  idleTimeoutSeconds : UInt64 := 300
  sweepIntervalMillis : UInt64 := 1000
  udpMode : UdpMode := .push
  /-- The number of readers in pull mode. -/
  udpReaders : UInt64 := 4
  udpTimeoutSeconds : UInt64 := 300
  echoPolicy : EchoPolicy := .portal
  /-- Destinations that are left alone. -/
  bypass : List Range := []
deriving DecidableEq, Repr

/-- The device that packets come from: a descriptor that is already open, or else the interface of
a name. -/
structure DeviceSection where
  descriptor? : Option Int32 := none
  name? : Option String := none
deriving DecidableEq, Repr

/-- What is logged. -/
structure LogSection where
  level : String := "info"
  format : String := "text"
  /-- Whether each line names the part it comes from. -/
  withTarget : Bool := false
deriving DecidableEq, Repr

structure Config where
  nat : NatSection := {}
  device : DeviceSection := {}
  log : LogSection := {}
deriving DecidableEq, Repr

namespace NatSection

def nanosPerMilli : Nat := 1000000

def nanosPerSecond : Nat := 1000000000

/-- Where the stub listener listens: on every address of the widest enabled version of IP, at a
port of its own choice, unless something else is said. -/
def listener (settings : NatSection) : Endpoint :=
  settings.listener?.getD <|
    Endpoint.of (if settings.ipv6Enabled then .v6 V6.unspecified else .v4 V4.unspecified) 0

/-- How long a closed session keeps its port, in nanoseconds. -/
def linger (settings : NatSection) : Nat :=
  settings.lingerMillis.toNat * nanosPerMilli

/-- How long a session may wait to be accepted, in nanoseconds. -/
def idleTimeout (settings : NatSection) : Nat :=
  settings.idleTimeoutSeconds.toNat * nanosPerSecond

/-- The time between two sweeps, in nanoseconds. -/
def sweepInterval (settings : NatSection) : Nat :=
  settings.sweepIntervalMillis.toNat * nanosPerMilli

/-- How long a flow of datagrams may be idle, in nanoseconds. -/
def udpTimeout (settings : NatSection) : Nat :=
  settings.udpTimeoutSeconds.toNat * nanosPerSecond

/-- The destinations that are handled. -/
def scope (settings : NatSection) : Scope :=
  ⟨settings.portalV4, settings.portalV6, settings.bypass⟩

/-- Who answers echo requests. -/
def echoResponder (settings : NatSection) : EchoResponder :=
  ⟨settings.echoPolicy, settings.portalV4, settings.portalV6⟩

end NatSection

/-- A configuration to start from, which uses the interface `tun0`. -/
def Config.starting : Config :=
  { device := { name? := some "tun0" } }

end PortalNat
