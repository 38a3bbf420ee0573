import PortalNat.Error

/-!
# Causes

A failure as it is reported at the end of the program: what could not be done, and under it what
caused it, down to the operation that failed.
-/

namespace PortalNat

/-- A failure with its causes, outermost first. -/
abbrev Causes := List String

namespace Causes

/-- Indent the lines of a cause after its first. -/
def indented (margin : Nat) (cause : String) : String :=
  ("\n" ++ String.ofList (List.replicate margin ' ')).intercalate (cause.splitOn "\n")

/-- A failure as it is reported at the end of the program. Causes are numbered if there are
several. -/
def report : Causes → String
  | [] => ""
  | [failure] => "Error: " ++ failure ++ "\n"
  | [failure, cause] =>
    "Error: " ++ failure ++ "\n\nCaused by:\n    " ++ indented 4 cause ++ "\n"
  | failure :: causes =>
    "Error: " ++ failure ++ "\n\nCaused by:\n"
      ++ String.join (causes.mapIdx fun index cause =>
        let number := toString index
        String.ofList (List.replicate (5 - number.length) ' ') ++ number ++ ": "
          ++ indented 7 cause ++ "\n")

end Causes

/-- A configuration error with what caused it. -/
def ConfigError.causes (error : ConfigError) : Causes :=
  match error with
  | .io cause => [error.message, cause.text]
  | _ => [error.message]

/-- A device error with what caused it. -/
def DeviceError.causes (error : DeviceError) : Causes :=
  match error with
  | .io cause => [error.message, cause.text]
  | _ => [error.message]

/-- A listener error with what caused it. -/
def ListenerError.causes (error : ListenerError) : Causes :=
  match error with
  | .accept cause => [error.message, cause.text]
  | _ => [error.message]

/-- A datagram error with what caused it. -/
def UdpError.causes (error : UdpError) : Causes :=
  match error with
  | .writeBack cause => error.message :: cause.causes
  | _ => [error.message]

/-- An error with what caused it. -/
def NatError.causes (error : NatError) : Causes :=
  error.message ::
    match error with
    | .config cause => cause.causes
    | .packet cause => [cause.message]
    | .session cause => [cause.message]
    | .device cause => cause.causes
    | .listener cause => cause.causes
    | .udp cause => cause.causes
    | .io cause => [cause.text]

end PortalNat
