import Switchyard.Balance.Callers
import Switchyard.Balance.Table

/-!
# A table in use

What is asked of a table is kept as a list with the latest request first, and by recursion on it are
said: what becomes of the standard table by the requests and what it answers (`Table.run`), which
balancers there are (`Table.made`), which of them was registered last under a name
(`Table.lastGiven?`) and which answers for it (`Table.holder`), and which calls have gone to one of
them (`Table.askedOf`).  None of this but the first looks at what a balancer does.
-/

namespace Switchyard.Balance

open Dispatch (Error)

namespace Balancer

/-- What becomes of a balancer by one call after the other. -/
def after (b : Balancer) (calls : List Call) : Balancer :=
  calls.foldl (fun b c => (b.next c.endpoints c.hint).1) b

/-- What is answered to a call, if a balancer has this for it. -/
def answerTo (c : Call) : Option Endpoint → Except Error Endpoint
  | some e => .ok e
  | none => .error (.noAvailableEndpoint c.hint)

theorem after_concat (b : Balancer) (calls : List Call) (c : Call) :
    b.after (calls ++ [c]) = ((b.after calls).next c.endpoints c.hint).1 := by
  simp [after]

end Balancer

namespace Table

inductive Request
  | register (name : String) (b : Balancer)
  /-- The balancer at a place is registered under a name as well.  It may be the rotation that
  every table has, at the first place. -/
  | again (name : String) (place : Nat)
  | select (name : String) (c : Call)

/-- The name that is registered. -/
def Request.gives? : Request → Option String
  | .register name _ | .again name _ => some name
  | .select _ _ => none

/-- What a request does and is answered; nothing if there is no such balancer. -/
def step (t : Table) : Request → Option (Table × List (Except Error Endpoint))
  | .register name b => some (t.register name b, [])
  | .again name place =>
    if place < t.balancers.length then some (t.bind name place, []) else none
  | .select name c =>
    let (u, answer) := t.select name c.endpoints c.hint
    some (u, [answer])

/-- What becomes of the standard table, and the answers, the latest last. -/
def run : List Request → Option (Table × List (Except Error Endpoint))
  | [] => some (standard, [])
  | q :: past => (run past).bind fun (t, answers) =>
    (t.step q).map fun (u, more) => (u, answers ++ more)

/-- The balancers by their places, as they were when they were registered. -/
def made : List Request → List Balancer
  | [] => [.taking]
  | .register _ b :: past => made past ++ [b]
  | .again _ _ :: past | .select _ _ :: past => made past

/-- The place of the balancer that was registered last under a name; nothing if none was. -/
def lastGiven? (name : String) : List Request → Option Nat
  | [] => none
  | .register n _ :: past => if n = name then some (made past).length else lastGiven? name past
  | .again n place :: past => if n = name then some place else lastGiven? name past
  | .select _ _ :: past => lastGiven? name past

/-- The place of the balancer that answers for a name: where none was registered under it, that is
the rotation that every table has. -/
def holder (name : String) (past : List Request) : Nat := (lastGiven? name past).getD 0

/-- The calls under the names that stood for a place at the time. -/
def askedOf (place : Nat) : List Request → List Call
  | [] => []
  | .select n c :: past =>
    if holder n past = place then askedOf place past ++ [c] else askedOf place past
  | .register _ _ :: past | .again _ _ :: past => askedOf place past

end Table

end Switchyard.Balance
