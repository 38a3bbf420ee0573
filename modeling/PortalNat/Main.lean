import PortalNat.Service

/-!
# Program

The command line program: it shows a command the files and variables of the host, and carries out
what came of the command. The host has no packet devices to offer, so a run ends where it takes
its device.
-/

namespace PortalNat.Program

/-- What the host holds at a path. -/
def look (path : String) : IO (Option FileNode) := do
  match ← (IO.FS.Handle.mk path .read).toBaseIO with
  | .error _ => return none
  | .ok handle =>
    match ← handle.readBinToEnd.toBaseIO with
    | .error _ => return some .directory
    | .ok content => return some (.file content.toList)

/-- What the host holds on the way to a path. -/
def files (path : String) : IO FileStore := do
  let places := FileStore.places ((FileStore.names path).toOption.getD [])
  let nodes ← places.filterMapM fun place => do
    return (← look (FileStore.path place)).map fun node => (place, node)
  return ⟨nodes⟩

/-- The variables of the host that override a configuration. -/
def environment : IO Environment := do
  let values ←
    [Environment.descriptorName, Environment.deviceName, Environment.logLevelName,
      Environment.mtuName].mapM fun name => return (name, ← IO.getEnv name)
  return fun name => (values.lookup name).join

/-- What a run finds on the host. -/
def host : IO Host := do
  let missing := "Function not implemented (os error 38)"
  return { descriptor := fun _ => .error missing
           interface := fun _ => .error missing
           firstPort := UInt16.ofNat (← IO.rand 1 65535)
           freePort := UInt16.ofNat (← IO.rand 32768 60999) }

/-- Write what a command left at a path. -/
def save (files : FileStore) (path : String) : IO Unit := do
  match files.read path with
  | .ok content => IO.FS.writeBinFile path ⟨content.toArray⟩
  | .error _ => return

/-- Show how a command ended, after it was saved if it wrote a file. -/
def finish (command : Command) (outcome : Outcome) : IO UInt8 := do
  try
    match command, outcome.exitCode with
    | .generate path, 0 => save outcome.files path
    | _, _ => pure ()
    IO.print outcome.output
    IO.eprint outcome.errors
    return outcome.exitCode
  catch error =>
    IO.eprint (ConfigError.io ⟨.other, toString error⟩).causes.report
    return 1

/-- Show what a run comes to. -/
def announce (report : Report) : IO UInt8 := do
  for line in report.log do IO.println line.text
  IO.eprint report.errors
  return report.exitCode

end PortalNat.Program

/-- Carry out what the arguments ask for, and end with an exit code. -/
def main (arguments : List String) : IO UInt32 := do
  let command := PortalNat.Command.ofArguments arguments
  let path := command.path?.getD "."
  let files ← PortalNat.Program.files path
  let code ← match command.perform (← PortalNat.Program.environment) files with
    | .inl outcome => PortalNat.Program.finish command outcome
    | .inr config => do
      PortalNat.Program.announce (config.serve path (← PortalNat.Program.host))
  return code.toUInt32
