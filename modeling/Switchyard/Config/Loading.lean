import Switchyard.Config.Reading
import Switchyard.Config.Validation
import Switchyard.Toml.Document

/-!
# Loading a configuration

A configuration is the bytes of a document.  Loading it decodes the bytes, reads the settings and
validates them; `LoadError` says at which of these it stops.
-/

namespace Switchyard.Config

/-- Why the text of a document cannot be had. -/
inductive ReadFault
  | missing
  | isDirectory
  | notText
  | other (reason : String)
deriving DecidableEq, Repr

def ReadFault.message : ReadFault → String
  | .missing => "No such file or directory (os error 2)"
  | .isDirectory => "Is a directory (os error 21)"
  | .notText => "stream did not contain valid UTF-8"
  | .other reason => reason

/-- Why a configuration cannot be used. -/
inductive LoadError
  | unreadable (fault : ReadFault)
  | malformed
  | invalid (faults : List Fault)
deriving DecidableEq, Repr

def LoadError.message : LoadError → String
  | .unreadable fault => "IO error: " ++ fault.message
  | .malformed => "Parse error"
  | .invalid faults => "Validation failed: " ++ ", ".intercalate (faults.map Fault.message)

/-- The settings of a document, if they make sense. -/
def parse (document : String) : Except LoadError Settings :=
  match (Toml.parse document).bind fun entries => read (.table .header entries) with
  | none => .error .malformed
  | some settings =>
    match faults settings with
    | [] => .ok settings
    | fs => .error (.invalid fs)

/-- The settings of the bytes of a document. -/
def load (bytes : ByteArray) : Except LoadError Settings :=
  match String.fromUTF8? bytes with
  | some document => parse document
  | none => .error (.unreadable .notText)

end Switchyard.Config
