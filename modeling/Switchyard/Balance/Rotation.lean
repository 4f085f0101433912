import Switchyard.Balance.Fingerprint
import Switchyard.Endpoint
import Switchyard.Store

/-!
# Taking turns

Endpoints take turns: each cluster has a cursor, which counts the selections made for it, and the
next endpoint is the first usable one from the position that the cursor points at.  A cluster is
known by its hint; endpoints without a hint share a cursor with the endpoints of the same URLs.
Cursors are words and wrap around.
-/

namespace Switchyard.Balance

/-- How often a selection was made, for each cluster. -/
structure Rotation where
  cursors : Store String UInt64
deriving Repr, Inhabited

namespace Rotation

def empty : Rotation := ⟨.empty⟩

/-- The cluster that a selection belongs to. -/
def cursorKey (endpoints : List Endpoint) (hint : String) : String :=
  if hint = "" then "#" ++ hexOf (fingerprint (endpoints.map (·.url))) else hint

def cursor (r : Rotation) (key : String) : UInt64 := (r.cursors.find? key).getD 0

/-- Moves the cursor of a cluster on. -/
def advance (r : Rotation) (key : String) : Rotation := ⟨r.cursors.set key (r.cursor key + 1)⟩

/-- The endpoint `i` places after the one that a cursor points at, if it is usable. -/
def usableAt (endpoints : List Endpoint) (start : UInt64) (i : Nat) : Option Endpoint :=
  match endpoints[(start + UInt64.ofNat i).toNat % endpoints.length]? with
  | some e => if e.isUsable then some e else none
  | none => none

/-- The first usable endpoint in one lap from the position that a cursor points at. -/
def pick (endpoints : List Endpoint) (start : UInt64) : Option Endpoint :=
  (List.range endpoints.length).findSome? (usableAt endpoints start)

/-- The next endpoint of a cluster.  Where there are no endpoints, no cursor moves. -/
def next (r : Rotation) (endpoints : List Endpoint) (hint : String) : Rotation × Option Endpoint :=
  if endpoints.isEmpty then (r, none)
  else
    let key := cursorKey endpoints hint
    (r.advance key, pick endpoints (r.cursor key))

end Rotation

end Switchyard.Balance
