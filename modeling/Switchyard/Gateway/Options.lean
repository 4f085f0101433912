import Switchyard.Config.Settings

/-!
# Options of the command line
-/

namespace Switchyard.Gateway

structure Options where
  /-- The path of the configuration. -/
  config : Option String := none
  /-- The address to listen at, in place of the configured one. -/
  bind : Option String := none
deriving DecidableEq, Repr

namespace Options

/-- The options that arguments give; nothing for other arguments. -/
def readFrom (o : Options) : List String → Option Options
  | [] => some o
  | "--config" :: path :: rest => readFrom { o with config := some path } rest
  | "-c" :: path :: rest => readFrom { o with config := some path } rest
  | "--bind" :: address :: rest => readFrom { o with bind := some address } rest
  | "-b" :: address :: rest => readFrom { o with bind := some address } rest
  | _ => none

def read (args : List String) : Option Options := readFrom {} args

/-- The settings with what the options change. -/
def apply (o : Options) (s : Config.Settings) : Config.Settings :=
  match o.bind with
  | none => s
  | some address => { s with gateway := { s.gateway with bindAddress := address } }

def usage : String := "usage: switchyard [--config PATH] [--bind ADDRESS]"

end Options

end Switchyard.Gateway
