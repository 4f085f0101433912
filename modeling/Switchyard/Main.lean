import Switchyard.Config.Loading
import Switchyard.Gateway.Options
import Switchyard.Gateway.Server

/-!
# The command line

Reads a configuration and starts a gateway for it.  The program has no network of its own, so what
it reports is the first thing that keeps the gateway from listening.
-/

namespace Switchyard

open Config (LoadError ReadFault Settings)
open Gateway (Host Options Server)

/-- The bytes of a file. -/
def readConfig (path : String) : IO (Except ReadFault ByteArray) := do
  try
    return .ok (← IO.FS.readBinFile path)
  catch
    | .noFileOrDirectory _ _ _ => return .error .missing
    | .inappropriateType _ _ _ => return .error .isDirectory
    | e => return .error (.other (toString e))

/-- The settings of a file, or the defaults without one. -/
def loadSettings (o : Options) : IO (Except LoadError Settings) := do
  match o.config with
  | none => return .ok {}
  | some path =>
    match ← readConfig path with
    | .error fault => return .error (.unreadable fault)
    | .ok bytes => return Config.load bytes

end Switchyard

open Switchyard in
def main (args : List String) : IO UInt32 := do
  match Gateway.Options.read args with
  | none =>
    IO.eprintln Gateway.Options.usage
    return 2
  | some options =>
    match ← loadSettings options with
    | .error e =>
      IO.eprintln ("Error: " ++ e.message)
      return 1
    | .ok settings =>
      match Gateway.Server.listen .isolated (options.apply settings).gateway with
      | .error fault =>
        IO.eprintln ("Error: " ++ fault.message)
        return 1
      | .ok _ => return 0
