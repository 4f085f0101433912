import Switchyard.Balance.Rotation

/-!
# Callers of a rotation

What is asked of a rotation are calls, one after the other (`Rotation.after`) or side by side
(`Callers`).  A caller moves the cursor of its cluster in the step in which it finds it.  If it
finds none, it comes back with a second step, which makes the cursor, unless another caller has
made it meanwhile, and moves it.  What it selects then depends on the value that the cursor had.
-/

namespace Switchyard.Balance

/-- A call for the next endpoint of a cluster. -/
structure Call where
  endpoints : List Endpoint
  hint : String
deriving DecidableEq, Repr

namespace Call

/-- The name of its cursor. -/
def key (c : Call) : String := Rotation.cursorKey c.endpoints c.hint

/-- Whether it moves the cursor of a name. -/
def moves (name : String) (c : Call) : Bool := c.key == name && !c.endpoints.isEmpty

/-- Whether it is one for the cluster of a hint, with something to select from. -/
def isFor (hint : String) (c : Call) : Bool := c.hint == hint && !c.endpoints.isEmpty

end Call

/-- The rotation after one call after the other. -/
def Rotation.after (r : Rotation) (calls : List Call) : Rotation :=
  calls.foldl (fun r c => (r.next c.endpoints c.hint).1) r

/-- How far a call is. -/
inductive CallStage
  | asked
  /-- No cursor was found. -/
  | missed
  /-- The cursor had this value, and was moved on. -/
  | turned (start : UInt64)
  | answered (result : Option Endpoint)
deriving DecidableEq, Repr

structure Caller where
  call : Call
  stage : CallStage
deriving DecidableEq, Repr

/-- Where the next step takes a caller, if there is one. -/
def Caller.goOn (x : Caller) (r : Rotation) : Option CallStage :=
  match x.stage with
  | .asked =>
    if x.call.endpoints.isEmpty then some (.answered none)
    else if x.call.hint ≠ "" ∧ r.cursors.has x.call.hint = true then
      some (.turned (r.cursor x.call.hint))
    else some .missed
  | .missed => some (.turned (r.cursor x.call.key))
  | .turned start => some (.answered (Rotation.pick x.call.endpoints start))
  | .answered _ => none

/-- A call that has moved its cursor, and whose it is. -/
structure CallTurn where
  caller : Nat
  call : Call
deriving DecidableEq, Repr

/-- Callers by the order in which they have asked, on one rotation. -/
structure Callers where
  rotation : Rotation
  callers : List Caller
  /-- The calls that have moved a cursor, in the order in which they did. -/
  turns : List CallTurn

inductive Callers.Event
  | ask (c : Call)
  | goOn (caller : Nat)
deriving DecidableEq, Repr

namespace Callers

def start (r : Rotation) : Callers := ⟨r, [], []⟩

/-- A caller gets to a stage; with its turn it moves its cursor. -/
def put (s : Callers) (i : Nat) (c : Call) (stage : CallStage) : Callers :=
  match stage with
  | .turned _ =>
    { rotation := s.rotation.advance c.key
      callers := s.callers.set i ⟨c, stage⟩
      turns := s.turns ++ [⟨i, c⟩] }
  | _ => { s with callers := s.callers.set i ⟨c, stage⟩ }

/-- What an event does; nothing if it cannot happen. -/
def step (s : Callers) : Event → Option Callers
  | .ask c => some { s with callers := s.callers ++ [⟨c, .asked⟩] }
  | .goOn i =>
    match s.callers[i]? with
    | none => none
    | some x => (x.goOn s.rotation).map (s.put i x.call)

def run (s : Callers) : List Event → Option Callers
  | [] => some s
  | e :: es => (s.step e).bind fun t => t.run es

end Callers

end Switchyard.Balance
