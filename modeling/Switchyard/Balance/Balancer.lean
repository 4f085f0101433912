import Switchyard.Balance.Rotation

/-!
# Balancers

A balancer selects one of the endpoints of a cluster.  Beside the rotation there are balancers
given by a rule, which may keep a state of its own between selections.
-/

namespace Switchyard.Balance

/-- A way of selecting an endpoint, with the state that it has reached. -/
inductive Balancer
  | rotation (r : Rotation)
  | custom (state : Nat) (choose : Nat → List Endpoint → String → Nat × Option Endpoint)

namespace Balancer

/-- A new rotation, with cursors of its own. -/
def taking : Balancer := .rotation .empty

/-- The balancer of a rule that depends on the endpoints and the hint alone. -/
def ofRule (rule : List Endpoint → String → Option Endpoint) : Balancer :=
  .custom 0 fun state endpoints hint => (state, rule endpoints hint)

/-- One selection. -/
def next : Balancer → List Endpoint → String → Balancer × Option Endpoint
  | .rotation r, endpoints, hint =>
    let (r, e) := r.next endpoints hint
    (.rotation r, e)
  | .custom state choose, endpoints, hint =>
    let (state, e) := choose state endpoints hint
    (.custom state choose, e)

/-- The first of the endpoints with the greatest weight. -/
def heaviestOf : List Endpoint → Option Endpoint
  | [] => none
  | e :: es =>
    match heaviestOf es with
    | some f => if f.weight ≤ e.weight then some e else some f
    | none => some e

def first : Balancer := .ofRule fun endpoints _ => endpoints.head?
def last : Balancer := .ofRule fun endpoints _ => endpoints.getLast?
def nothing : Balancer := .ofRule fun _ _ => none
def heaviest : Balancer := .ofRule fun endpoints _ => heaviestOf endpoints

/-- Selects by the size of the hint. -/
def hintLength : Balancer :=
  .ofRule fun endpoints hint => endpoints[hint.utf8ByteSize % endpoints.length]?

/-- The balancer of a name, among those that are made without further data. -/
def ofName? : String → Option Balancer
  | "first" => some first
  | "last" => some last
  | "nothing" => some nothing
  | "heaviest" => some heaviest
  | "hint_length" => some hintLength
  | "round_robin" => some taking
  | _ => none

end Balancer

end Switchyard.Balance
