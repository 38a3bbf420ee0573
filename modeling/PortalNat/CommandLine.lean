import PortalNat.Causes
import PortalNat.Config.File

/-!
# Command line

What the arguments of the program ask for, and the answers to all that can be answered before the
translator starts: help, version, a configuration to start from and the check of a configuration.
-/

namespace PortalNat

/-- The version of the program. -/
def version : String := "0.1.0"

/-- What the program is asked to do. -/
inductive Command where
  | help
  | version
  | refuse (argument : String)
  | generate (path : String)
  | check (path : String)
  | run (path : String)
deriving DecidableEq, Repr

/-- What the arguments read so far ask for. -/
structure Arguments where
  path : String := "/etc/tun-nat/config.json"
  generate : Bool := false
  check : Bool := false
deriving DecidableEq, Repr

namespace Arguments

/-- Generating comes before checking, and checking before running. -/
def command (arguments : Arguments) : Command :=
  if arguments.generate then .generate arguments.path
  else if arguments.check then .check arguments.path
  else .run arguments.path

/-- Read arguments from left to right. Help, version and an argument that is not known end the
reading. A path that is missing is passed over. -/
def read (arguments : Arguments) : List String → Command
  | [] => arguments.command
  | argument :: rest =>
    if argument = "-c" ∨ argument = "--config" then
      match rest with
      | [] => arguments.command
      | path :: rest => read { arguments with path } rest
    else if argument = "-g" ∨ argument = "--generate-config" then
      read { arguments with generate := true } rest
    else if argument = "--check" then read { arguments with check := true } rest
    else if argument = "-h" ∨ argument = "--help" then .help
    else if argument = "-v" ∨ argument = "--version" then .version
    else .refuse argument

end Arguments

/-- What the arguments of the program ask for. -/
def Command.ofArguments (arguments : List String) : Command :=
  ({} : Arguments).read arguments

/-- The title that help and version show. -/
def title : String := "tun-nat v" ++ version

/-- The explanation of the program. -/
def helpText : String :=
  "\n".intercalate
    [title,
      "",
      "User-space NAT that hands every TCP and UDP flow of a TUN interface to a",
      "dispatcher and writes the replies back.",
      "",
      "USAGE:",
      "    tun-nat [OPTIONS]",
      "",
      "OPTIONS:",
      "    -c, --config <PATH>     Configuration file path [default: /etc/tun-nat/config.json]",
      "    -g, --generate-config   Generate default configuration and exit",
      "    --check                 Check configuration and exit",
      "    -h, --help              Print help information",
      "    -v, --version           Print version information",
      "",
      "ENVIRONMENT:",
      "    TUN_NAT_DEVICE_FD       Use an already-open TUN descriptor",
      "    TUN_NAT_DEVICE_NAME     Override the TUN interface name",
      "    TUN_NAT_LOG_LEVEL       Override log level (trace, debug, info, warn, error)",
      "    TUN_NAT_MTU             Override the device MTU",
      "",
      "REQUIREMENTS:",
      "    - CAP_NET_ADMIN capability (or root) to open the TUN interface",
      "    - The portal and gateway addresses routed through the interface",
      "",
      "EXAMPLE:",
      "    ip tuntap add mode tun dev tun0",
      "    ip addr add 172.19.0.1/30 dev tun0",
      "    ip link set tun0 up",
      "    ip route add default dev tun0 table 100",
      "",
      "    sudo tun-nat -c /etc/tun-nat/config.json",
      ""]

/-- What a run of the program leaves behind. -/
structure Outcome where
  exitCode : UInt8 := 0
  output : String := ""
  errors : String := ""
  files : FileStore

namespace Outcome

/-- The end of a program that failed. -/
def failed (files : FileStore) (causes : Causes) : Outcome :=
  { exitCode := 1, errors := causes.report, files }

end Outcome

/-- Load the configuration that a command names. -/
def Config.loadFor (environment : Environment) (files : FileStore) (path : String) :
    Except Causes Config :=
  (Config.loadWith environment files path).mapError fun error =>
    ("Failed to load configuration from " ++ Text.quoted path) :: error.causes

namespace Command

/-- The path of the configuration that a command is about. -/
def path? : Command → Option String
  | .help | .version | .refuse _ => none
  | .generate path | .check path | .run path => some path

/-- Carry out a command. Only `run` with a configuration that can be loaded goes on to start the
translator, with that configuration. -/
def perform (command : Command) (environment : Environment) (files : FileStore) :
    Outcome ⊕ Config :=
  match command with
  | .help => .inl { output := helpText ++ "\n", files }
  | .version => .inl { output := title ++ "\n", files }
  | .refuse argument =>
    .inl
      { exitCode := 1
        output := helpText ++ "\n"
        errors := s!"Unknown argument: {argument}\n"
        files }
  | .generate path =>
    match Config.writeStarting files path with
    | .error error => .inl (.failed files error.causes)
    | .ok files =>
      .inl
        { output := s!"Generated default configuration at {Text.quoted path}\n"
          files }
  | .check path =>
    match Config.loadFor environment files path with
    | .error causes => .inl (.failed files causes)
    | .ok _ => .inl { output := "Configuration is valid\n", files }
  | .run path =>
    match Config.loadFor environment files path with
    | .error causes => .inl (.failed files causes)
    | .ok config => .inr config

end Command

end PortalNat
