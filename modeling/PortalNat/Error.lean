import PortalNat.Config.Invalid

/-!
# Errors

The causes of failure, grouped by the part that meets them, and what each means for the translator:
`message` words it, `isRecoverable` tells whether work goes on after it, and `isShutdown` tells
whether it only reports an orderly end.
-/

namespace PortalNat

/-- What kind of failure an operation on a device, a socket or a file met. -/
inductive IoKind where
  | timedOut
  | interrupted
  | wouldBlock
  | connectionReset
  | connectionAborted
  | connectionRefused
  | brokenPipe
  | permissionDenied
  | notFound
  | alreadyExists
  | addressInUse
  | notConnected
  | invalidInput
  | invalidData
  | unexpectedEnd
  | writeZero
  | outOfMemory
  | other
deriving DecidableEq, Repr, Inhabited

/-- A failed operation on a device, a socket or a file. -/
structure IoError where
  kind : IoKind
  text : String
deriving DecidableEq, Repr, Inhabited

namespace IoError

/-- Whether only the one operation is affected, so that the next may succeed. -/
def isTransient (error : IoError) : Bool :=
  match error.kind with
  | .timedOut | .interrupted | .wouldBlock | .connectionReset | .connectionAborted => true
  | _ => false

/-- The error of every operation on a closed device. -/
def deviceClosed : IoError := ⟨.brokenPipe, "device closed"⟩

/-- Whether an error says that the device is closed. -/
def isClosed (error : IoError) : Bool :=
  error.kind == .brokenPipe

end IoError

/-- A protocol layer of a packet. -/
inductive Layer where
  | ip
  | ipv4
  | ipv6
  | tcp
  | udp
  | icmp
  | other (name : String)
deriving DecidableEq, Repr, Inhabited

def Layer.name : Layer → String
  | ip => "IP"
  | ipv4 => "IPv4"
  | ipv6 => "IPv6"
  | tcp => "TCP"
  | udp => "UDP"
  | icmp => "ICMP"
  | other name => name

/-- The layer that has a name. -/
def Layer.ofName (name : String) : Layer :=
  ([ip, ipv4, ipv6, tcp, udp, icmp].find? (·.name = name)).getD (other name)

/-- How the fields of a header disagree with each other or with the packet. -/
inductive Defect where
  | headerBelowMinimum
  | totalBelowHeader
  | dataOffset
  | lengthField
  | noPorts
  | described (text : String)
deriving DecidableEq, Repr, Inhabited

def Defect.text : Defect → String
  | headerBelowMinimum => "header length below 20"
  | totalBelowHeader => "total length shorter than header"
  | dataOffset => "data offset out of range"
  | lengthField => "length field disagrees with IP payload"
  | noPorts => "protocol carries no ports"
  | described text => text

/-- Why a packet cannot be read, built or rewritten. -/
inductive PacketError where
  | truncated (layer : Layer) (length : Nat)
  | malformed (layer : Layer) (defect : Defect)
  | unsupportedVersion (version : UInt8)
  | badChecksum (layer : Layer)
  | fragmented
  | familyMismatch (address : Address)
  | tooLarge (length : Nat)
deriving DecidableEq, Repr, Inhabited

def PacketError.message : PacketError → String
  | truncated layer length => s!"Truncated {layer.name} header: {length} bytes"
  | malformed layer defect => s!"Malformed {layer.name} header: {defect.text}"
  | unsupportedVersion version => s!"Unsupported IP version: {version.toNat}"
  | badChecksum layer => s!"Bad {layer.name} checksum"
  | fragmented => "Fragmented packet"
  | familyMismatch address => s!"Address family mismatch: {address.toText}"
  | tooLarge length => s!"Packet too large: {length} bytes"

/-- Why a segment or a connection has no session. -/
inductive SessionError where
  | exhausted (inUse : Nat)
  | unknownPort (port : UInt16)
  | noSession (flow : String)
  | stray (source : Endpoint)
  | ipv6Disabled
deriving DecidableEq, Repr, Inhabited

def SessionError.message : SessionError → String
  | exhausted inUse => s!"Session ports exhausted ({inUse} in use)"
  | unknownPort port => s!"No session for port {port.toNat}"
  | noSession flow => s!"No session for {flow}"
  | stray source => s!"Stray segment to portal from {source.toText}"
  | ipv6Disabled => "IPv6 disabled"

/-- Why a configuration cannot be had. -/
inductive ConfigError where
  | fileNotFound (path : String)
  | parse (text : String)
  | validation (reason : Invalid)
  | environment (name : String) (reason : String)
  | io (error : IoError)
deriving DecidableEq, Repr, Inhabited

def ConfigError.message : ConfigError → String
  | fileNotFound path => s!"Configuration file not found: {path}"
  | parse text => s!"Failed to parse configuration: {text}"
  | validation reason => s!"Configuration validation failed: {reason.text}"
  | environment name reason => s!"Environment variable error: {name}: {reason}"
  | io error => s!"I/O error reading configuration: {error.text}"

/-- Why the packet device fails. -/
inductive DeviceError where
  | unusable (name : String) (reason : String)
  | io (error : IoError)
  | closed
deriving DecidableEq, Repr, Inhabited

namespace DeviceError

def message : DeviceError → String
  | unusable name reason => s!"Failed to open TUN device {name}: {reason}"
  | io error => s!"Device I/O error: {error.text}"
  | closed => "Device closed"

def isRecoverable : DeviceError → Bool
  | io error => error.isTransient
  | unusable .. | closed => false

/-- A failed write means that the device is closed if the error says so. -/
def ofWrite (error : IoError) : DeviceError :=
  if error.isClosed then closed else io error

end DeviceError

/-- Why the stub listener fails or refuses a connection. -/
inductive ListenerError where
  | bind (address : Endpoint) (reason : String)
  | accept (error : IoError)
  | rejected (peer : Endpoint) (reason : String)
  | closed
  | stopped
deriving DecidableEq, Repr, Inhabited

namespace ListenerError

def message : ListenerError → String
  | bind address reason => s!"Failed to bind listener on {address.toText}: {reason}"
  | accept error => s!"Accept error: {error.text}"
  | rejected peer reason => s!"Rejected connection from {peer.toText}: {reason}"
  | closed => "Listener closed"
  | stopped => "TCP redirector stopped after a listener failure"

def isRecoverable : ListenerError → Bool
  | accept error => error.isTransient
  | rejected .. => true
  | bind .. | closed | stopped => false

end ListenerError

/-- Why a datagram cannot be read or a reply cannot be written. -/
inductive UdpError where
  | familyMismatch (source client : Endpoint)
  | payloadTooLarge (length : Nat)
  | writeBack (error : DeviceError)
  | closed
deriving DecidableEq, Repr, Inhabited

namespace UdpError

def message : UdpError → String
  | familyMismatch source client =>
    s!"Reply source {source.toText} does not match client family {client.toText}"
  | payloadTooLarge length => s!"Payload too large: {length} bytes"
  | writeBack error => s!"Write-back failed: {error.message}"
  | closed => "UDP socket closed"

def isRecoverable : UdpError → Bool
  | familyMismatch .. | payloadTooLarge _ => true
  | writeBack error => error.isRecoverable
  | closed => false

end UdpError

/-- Any failure of the translator. -/
inductive NatError where
  | config (error : ConfigError)
  | packet (error : PacketError)
  | session (error : SessionError)
  | device (error : DeviceError)
  | listener (error : ListenerError)
  | udp (error : UdpError)
  | io (error : IoError)
deriving DecidableEq, Repr, Inhabited

namespace NatError

def message : NatError → String
  | config error => s!"Configuration error: {error.message}"
  | packet error => s!"Packet error: {error.message}"
  | session error => s!"Session error: {error.message}"
  | device error => s!"Device error: {error.message}"
  | listener error => s!"Listener error: {error.message}"
  | udp error => s!"UDP error: {error.message}"
  | io error => s!"I/O error: {error.text}"

/-- Whether the translator keeps running. Packets and sessions only ever fail one at a time. -/
def isRecoverable : NatError → Bool
  | config _ => false
  | packet _ | session _ => true
  | device error => error.isRecoverable
  | listener error => error.isRecoverable
  | udp error => error.isRecoverable
  | io error => error.isTransient

/-- Whether the error only reports an orderly shutdown. -/
def isShutdown : NatError → Bool
  | device .closed | listener .closed | udp .closed | udp (.writeBack .closed) => true
  | _ => false

end NatError

end PortalNat
