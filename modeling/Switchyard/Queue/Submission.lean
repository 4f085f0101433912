import Switchyard.Dispatch.Error
import Switchyard.Http.Message
import Switchyard.Queue.Pool

/-!
# Submissions

What the queue carries: a request under the name that it is logged by.  Its answer is the result of
the dispatch.
-/

namespace Switchyard.Queue

/-- A request and the name that it was submitted under. -/
structure Submission where
  name : String
  request : Http.Request
deriving Repr

abbrev Result := Except Dispatch.Error Http.Response

/-- The pool of workers that dispatch requests. -/
abbrev DispatchPool := Pool Submission Result

end Switchyard.Queue
