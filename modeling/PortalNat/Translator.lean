import PortalNat.Acceptor
import PortalNat.Device
import PortalNat.Verdict

/-!
# The translator

A translator at work: its sessions, its device, its counters, and what it has handed to its handler.
Its pump reads the device packet by packet and carries out the verdict on each before it reads the
next. Its acceptor takes connections from the stub listener. Either ends by itself when its source
fails, and both end at a shutdown.
-/

namespace PortalNat

/-- A datagram as the handler gets it, with the way back to its client. -/
structure Message where
  datagram : Datagram
  back : WriteBack
deriving DecidableEq, Repr

/-- What the stub listener comes to: a connection from a peer, or a failure. -/
inductive Arrival where
  | connected (peer : Endpoint)
  | failed (error : IoError)
deriving DecidableEq, Repr

structure Translator where
  rules : Rules
  sessions : SessionTable
  device : Device
  /-- What the device reads into. -/
  buffer : Octets
  /-- The reads that wait for datagrams, in pull mode. -/
  reads? : Option ReadQueue
  statistics : Statistics := {}
  pumping : Bool := true
  accepting : Bool := true
  /-- Whether the listener is lost, so that no new session can be of use. -/
  stopped : Bool := false
  /-- The errors that concern more than one packet, the oldest first. -/
  reported : List NatError := []
  /-- The datagrams the handler was given, the oldest first. -/
  messages : List Message := []
  /-- The connections the handler was given, the oldest first. -/
  connections : List Connection := []

namespace Translator

def record (translator : Translator) (event : Event) : Translator :=
  { translator with statistics := translator.statistics.record event }

def report (translator : Translator) (error : NatError) : Translator :=
  { translator with reported := translator.reported ++ [error] }

/-- Give a datagram to the handler. -/
def hand (translator : Translator) (datagram : Datagram) (back : WriteBack) : Translator :=
  { translator with messages := translator.messages ++ [⟨datagram, back⟩] }

/-- Write a packet to the device, however long that has to wait for room, and count it if it was
taken. -/
def write (translator : Translator) (packet : Octets) : Translator :=
  match translator.device.write packet with
  | (.ok _, device) => { translator with device }.record .written
  | (.error _, device) => { translator with device }

theorem write_eq (translator : Translator) (packet : Octets) :
    translator.write packet =
      match translator.device.refusal? with
      | some _ => translator
      | none =>
        { translator with device := translator.device.extended [packet] }.record .written := by
  rw [write, Device.write_eq]
  cases translator.device.refusal? <;> rfl

/-- Hand a datagram on: to the handler, or in pull mode to the read that waited longest. -/
def deliver (translator : Translator) (datagram : Datagram) (template : ReplyTemplate) :
    Translator :=
  match translator.reads? with
  | none => translator.hand datagram (.template template)
  | some reads =>
    match reads.deliver datagram with
    | (true, reads) => { translator with reads? := some reads }
    | (false, reads) => { translator with reads? := some reads }.record (.dropped .noReader)

/-- Carry out a verdict. -/
def carryOut (translator : Translator) : Verdict → Translator
  | .write event packet => (translator.record event).write packet
  | .deliver datagram template => (translator.record .datagram).deliver datagram template
  | .ignore => translator
  | .drop reason report? =>
    let counted := translator.record (.dropped reason)
    match report? with
    | some error => counted.report error
    | none => counted

/-- Handle a packet that was read. -/
def process (translator : Translator) (bytes : Octets) (now : Nat) : Translator :=
  let (verdict, sessions) :=
    translator.rules.judge translator.sessions translator.stopped bytes now
  { translator with sessions }.carryOut verdict

/-- End the pump. -/
def stopPump (translator : Translator) : Translator :=
  { translator with pumping := false }

/-- Go on after a read: handle the packet, pass over a failure that is transient, or end the pump,
with a report unless the device was closed. -/
def afterRead (translator : Translator) (result : Except IoError (Nat × Octets)) (now : Nat) :
    Translator :=
  match result with
  | .ok (count, buffer) =>
    ({ translator with buffer }.record .read).process (buffer.take count) now
  | .error error =>
    if error.isClosed then translator.stopPump
    else if error.isTransient then translator
    else (translator.report (.device (.io error))).stopPump

/-- Read the device once, unless the pump has ended or the read has to wait. -/
def pumpOnce (translator : Translator) (now : Nat) : Option Translator :=
  if !translator.pumping then none
  else
    match translator.device.recv translator.buffer with
    | (none, _) => none
    | (some result, device) => some ({ translator with device }.afterRead result now)

/-- Read the device at most `reads` times. -/
def pumpFor : (reads : Nat) → Translator → (now : Nat) → Translator
  | 0, translator, _ => translator
  | reads + 1, translator, now =>
    match translator.pumpOnce now with
    | none => translator
    | some translator => pumpFor reads translator now

/-- Read the device until the pump has to wait or ends. Each read takes something off the queue of
the device or ends the pump. -/
def pump (translator : Translator) (now : Nat) : Translator :=
  pumpFor (translator.device.inbound.length + 1) translator now

/-- Take a connection from the listener, or notice its failure. A failure that is not transient ends
the acceptor and stops new redirection. -/
def accept (translator : Translator) (arrival : Arrival) (now : Nat) : Translator :=
  if !translator.accepting then translator
  else
    match arrival with
    | .connected peer =>
      match translator.rules.redirector.portal.recover translator.sessions peer now with
      | (.ok connection, sessions) =>
        { translator with
          sessions
          connections := translator.connections ++ [connection] }.record .accepted
      | (.error _, sessions) => { translator with sessions }.record .rejected
    | .failed error =>
      if error.isTransient then translator
      else
        { translator with accepting := false, stopped := true }.report (.listener (.accept error))

/-- Note that a connection was closed. -/
def release (translator : Translator) (connection : Connection) (now : Nat) : Translator :=
  { translator with
    sessions := translator.sessions.release connection.port connection.session now }

/-- Whether datagrams can no longer be read in pull mode. -/
def readsClosed (translator : Translator) : Bool :=
  translator.reads?.any (·.closed)

/-- Write a finished reply to the device and count it if it was taken. -/
def writeReply (translator : Translator) (packet : Octets) (length : Nat) :
    Except NatError Nat × Translator :=
  match translator.device.write packet with
  | (.error error, device) =>
    (.error (.udp (.writeBack (.ofWrite error))), { translator with device })
  | (.ok _, device) => (.ok length, { translator with device }.record .reply)

/-- Reply to a datagram, and tell how many octets were sent. -/
def reply (translator : Translator) (back : WriteBack) (payload : Octets)
    (source? : Option Endpoint) : Except NatError Nat × Translator :=
  match back.build translator.readsClosed payload source? with
  | .error error => (.error error, translator)
  | .ok packet => translator.writeReply packet payload.length

/-- Send a payload to a client as if it came from a source, in pull mode. -/
def sendTo (translator : Translator) (payload : Octets) (source client : Endpoint) :
    Except NatError Nat × Translator :=
  translator.reply (.queue client source) payload none

/-- End the pump and the acceptor. -/
def shutDown (translator : Translator) : Translator :=
  { translator with pumping := false, accepting := false }

end Translator

end PortalNat
