/-!
# Failures of a transport

A transport fails with a cause: what kind of failure it is, and a text.  `Failed` is one failed
attempt to execute a request, which may be tried again.
-/

namespace Switchyard.Dispatch

/-- The kinds of failures of input and output. -/
inductive FailureKind
  | connectionRefused
  | connectionReset
  | connectionAborted
  | notConnected
  | brokenPipe
  | timedOut
  | invalidInput
  | invalidData
  | unexpectedEof
  | interrupted
  | other
deriving DecidableEq, Repr, Inhabited

namespace FailureKind

def all : List FailureKind :=
  [.connectionRefused, .connectionReset, .connectionAborted, .notConnected, .brokenPipe, .timedOut,
    .invalidInput, .invalidData, .unexpectedEof, .interrupted, .other]

def name : FailureKind → String
  | .connectionRefused => "ConnectionRefused"
  | .connectionReset => "ConnectionReset"
  | .connectionAborted => "ConnectionAborted"
  | .notConnected => "NotConnected"
  | .brokenPipe => "BrokenPipe"
  | .timedOut => "TimedOut"
  | .invalidInput => "InvalidInput"
  | .invalidData => "InvalidData"
  | .unexpectedEof => "UnexpectedEof"
  | .interrupted => "Interrupted"
  | .other => "Other"

/-- The kind of a name; any other name stands for no particular kind. -/
def ofName (s : String) : FailureKind := (all.find? (·.name == s)).getD .other

end FailureKind

/-- Why a transport failed. -/
structure Failure where
  kind : FailureKind
  text : String
deriving DecidableEq, Repr, Inhabited

/-- An attempt to execute a request that failed. -/
structure Failed where
  method : String
  url : String
  cause : Failure
deriving DecidableEq, Repr, Inhabited

def Failed.message (f : Failed) : String :=
  f.cause.text ++ " executing " ++ f.method ++ " " ++ f.url

end Switchyard.Dispatch
