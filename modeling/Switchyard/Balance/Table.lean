import Switchyard.Balance.Balancer
import Switchyard.Dispatch.Error

/-!
# Balancers by name

A table knows balancers by name.  Several names may stand for one balancer, which then keeps one
state, so a name stands for a place in the list of all balancers.  The balancer at the first place
is a rotation; it has the name `roundRobin` until the name is given to another one, and it answers
for every name that is not known.
-/

namespace Switchyard.Balance

def rotationName : String := "roundRobin"

structure Table where
  balancers : List Balancer
  places : Store String Nat

namespace Table

/-- The rotation alone. -/
def standard : Table := ⟨[.taking], Store.empty.set rotationName 0⟩

/-- Adds a balancer, which no name stands for yet, and gives its place. -/
def add (t : Table) (b : Balancer) : Table × Nat :=
  ({ t with balancers := t.balancers ++ [b] }, t.balancers.length)

/-- Lets a name stand for the balancer at a place. -/
def bind (t : Table) (name : String) (place : Nat) : Table :=
  { t with places := t.places.set name place }

/-- Lets a name stand for a balancer of its own. -/
def register (t : Table) (name : String) (b : Balancer) : Table :=
  let (t, place) := t.add b
  t.bind name place

/-- The place of the balancer that answers for a name. -/
def placeOf (t : Table) (name : String) : Nat := (t.places.find? name).getD 0

/-- Selects an endpoint with the balancer that answers for a name. -/
def next (t : Table) (name : String) (endpoints : List Endpoint) (hint : String) :
    Table × Option Endpoint :=
  let place := t.placeOf name
  match t.balancers[place]? with
  | none => (t, none)
  | some b =>
    let (b, e) := b.next endpoints hint
    ({ t with balancers := t.balancers.set place b }, e)

/-- Selects an endpoint for a cluster, which the error names if there is none. -/
def select (t : Table) (name : String) (endpoints : List Endpoint) (contextId : String) :
    Table × Except Dispatch.Error Endpoint :=
  let (t, e) := t.next name endpoints contextId
  (t, match e with
    | some e => .ok e
    | none => .error (.noAvailableEndpoint contextId))

end Table

end Switchyard.Balance
