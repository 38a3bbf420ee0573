import PortalNat.CommandLine
import PortalNat.Engine

/-!
# Service

A run of the program with a configuration: it takes the device, starts the engine on it, handles
what the device delivers until it is told to end, and sums up in its log what it did.
-/

namespace PortalNat

/-- How urgent a line of the log is. -/
inductive LogLevel where
  | error
  | warn
  | info
  | debug
  | trace
deriving DecidableEq, Repr

namespace LogLevel

/-- The level of a name, in letters of either case. Every other name means `info`. -/
def ofName (name : String) : LogLevel :=
  ([("trace", trace), ("debug", debug), ("warn", warn), ("error", error)].lookup
    name.toLower).getD info

/-- The less urgent, the higher. -/
def rank : LogLevel → Nat
  | error => 0
  | warn => 1
  | info => 2
  | debug => 3
  | trace => 4

/-- Whether a log at a level shows a line. -/
def shows (level line : LogLevel) : Bool :=
  line.rank ≤ level.rank

end LogLevel

structure LogLine where
  level : LogLevel
  text : String
deriving DecidableEq, Repr

/-- What a run without privileges finds on the host: the devices behind descriptors and interfaces,
or why they cannot be used, and the ports that are left to chance. -/
structure Host where
  descriptor : Int32 → Except String Device
  interface : String → Except String Device
  /-- The session port that is handed out first. -/
  firstPort : UInt16
  /-- A port that nobody listens on. -/
  freePort : UInt16

namespace Host

/-- Take the device of a configuration. -/
def attach (host : Host) (settings : DeviceSection) : Except Causes Device :=
  match settings.descriptor?, settings.name? with
  | some number, _ =>
    (host.descriptor number).mapError fun reason =>
      "Failed to attach TUN descriptor"
        :: (DeviceError.unusable s!"fd {number.toInt}" reason).causes
  | none, some name =>
    (host.interface name).mapError fun reason =>
      s!"Failed to open TUN device {name}" :: (DeviceError.unusable name reason).causes
  | none, none => .error ["No usable TUN device configured"]

/-- Take the device of a configuration and start an engine on it. -/
def start (host : Host) (config : Config) : Except Causes Engine := do
  let device ← host.attach config.device
  (Engine.start config.nat device host.firstPort host.freePort).mapError fun error =>
    "Failed to start NAT engine" :: error.causes

end Host

/-- What a run of the program comes to: the packets that were written to the device, the log as it
is shown, and why the run failed if it did. -/
structure Report where
  written : List Octets := []
  log : List LogLine := []
  failure? : Option Causes := none
deriving DecidableEq, Repr

namespace Report

def exitCode (report : Report) : UInt8 :=
  if report.failure?.isSome then 1 else 0

/-- What is told about a failure. -/
def errors (report : Report) : String :=
  (report.failure?.map Causes.report).getD ""

end Report

namespace Statistics

/-- The counters in two sentences, as they end a log. -/
def summary (statistics : Statistics) : List String :=
  [s!"Final stats: {statistics.packetsRead} packets read, "
      ++ s!"{statistics.tcpRedirected} TCP redirected, "
      ++ s!"{statistics.udpDatagrams} UDP datagrams, {statistics.dropped} dropped",
    s!"Connections: {statistics.connectionsAccepted} accepted, "
      ++ s!"{statistics.connectionsRejected} rejected"]

end Statistics

namespace Config

/-- The lines that open a log. -/
def openingLines (path : String) : List LogLine :=
  [⟨.info, title⟩, ⟨.info, "Configuration loaded from " ++ Text.quoted path⟩]

/-- The lines of a log about an engine that has ended. -/
def closingLines (engine : Engine) : List LogLine :=
  engine.translator.reported.map (fun error => ⟨.error, "NAT engine error: " ++ error.message⟩)
    ++ [⟨.info, "Shutting down..."⟩]
    ++ engine.translator.statistics.summary.map (⟨.info, ·⟩)
    ++ [⟨.info, "Shutdown complete"⟩]

/-- Run with a configuration until everything that the device delivers is handled, and end then. -/
def serve (config : Config) (path : String) (host : Host) : Report :=
  let level := LogLevel.ofName config.log.level
  let shown := List.filter fun line => level.shows line.level
  match host.start config with
  | .error causes => { log := shown (openingLines path), failure? := some causes }
  | .ok engine =>
    let ended := (engine.run 1).close
    { written := ended.translator.device.outbound
      log := shown (openingLines path ++ closingLines ended) }

end Config

end PortalNat
