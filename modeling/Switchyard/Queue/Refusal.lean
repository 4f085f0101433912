/-!
# Refusals of the queue
-/

namespace Switchyard.Queue

/-- Why a queue does not take a request. -/
inductive Refusal
  | full
  | closed
deriving DecidableEq, Repr

def Refusal.name : Refusal → String
  | .full => "Full"
  | .closed => "Closed"

def Refusal.message : Refusal → String
  | .full => "dispatch queue is full"
  | .closed => "dispatch queue is closed"

end Switchyard.Queue
