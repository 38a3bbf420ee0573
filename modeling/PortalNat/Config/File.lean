import PortalNat.Config.Environment
import PortalNat.Config.Text
import PortalNat.FileStore

/-!
# Configuration files

Loading a configuration from a file and writing one to start from. The rules are checked twice when
the environment has a say: on the file as it stands, and on what comes of the overrides.
-/

namespace PortalNat.Config

/-- Read a configuration from a text and check it. -/
def load (text : String) : Except ConfigError Config := do
  match Config.parse? text with
  | none => throw (.parse "not a configuration")
  | some config =>
    config.check
    return config

/-- Report a file that cannot be used. -/
def ofFile {Value : Type} (result : Except FileFault Value) : Except ConfigError Value :=
  result.mapError fun fault => .io fault.error

/-- Load a configuration from a file. -/
def loadFile (files : FileStore) (path : String) : Except ConfigError Config := do
  if !files.holds path then throw (.fileNotFound path)
  load (← ofFile (files.readText path))

/-- Load a configuration from a file and apply the overrides of the environment. -/
def loadWith (environment : Environment) (files : FileStore) (path : String) :
    Except ConfigError Config := do
  (← loadFile files path).override environment

/-- Write the configuration to start from to a file. -/
def writeStarting (files : FileStore) (path : String) : Except ConfigError FileStore :=
  ofFile (files.write path (FileStore.ofText Config.starting.toText))

end PortalNat.Config
