import Switchyard.Store
import Switchyard.Topology.Instance

/-!
# The cache

A directory remembers the instances of each cluster that it has looked up.  A list that is pushed
replaces what is there (`push`); the result of a first lookup fills a place that is vacant, and if
it is empty it leaves the cache as it is (`settle`).
-/

namespace Switchyard

/-- The instances of each cluster that is known. -/
abbrev Cache := Store String (List Instance)

namespace Cache

def empty : Cache := Store.empty

/-- Replaces the instances of a cluster. -/
def push (k : Cache) (contextId : String) (instances : List Instance) : Cache :=
  k.set contextId instances

/-- Sets the instances of a cluster that is not known yet. -/
def fill (k : Cache) (contextId : String) (instances : List Instance) : Cache :=
  match k.find? contextId with
  | some _ => k
  | none => k.set contextId instances

/-- The end of a first lookup that found some instances: the cache, and the instances that the
lookup answers with.  Where none were found, a list that was pushed meanwhile is the answer. -/
def settle (k : Cache) (contextId : String) (found : List Instance) :
    Cache × Option (List Instance) :=
  let k := if found.isEmpty then k else k.fill contextId found
  (k, k.find? contextId)

end Cache

end Switchyard
