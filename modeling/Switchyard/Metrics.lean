import Switchyard.Store

/-!
# Counts

What is counted while requests are dispatched.  A count is kept for each combination of labels
that has occurred.
-/

namespace Switchyard

/-- A count with its labels. -/
inductive Metric
  | requests (method outcome : String)
  /-- How many durations were recorded. -/
  | durations (method : String)
  | retries (method : String)
  | topologyUpdates (contextId : String)
  /-- How many instances the last update had. -/
  | topologyInstances (contextId : String)
  | queueRejections
deriving DecidableEq, Repr

/-- The name of a count with its labels. -/
def Metric.name : Metric → String
  | .requests method outcome =>
    "dispatch_requests_total\x7bmethod=" ++ method ++ ",outcome=" ++ outcome ++ "\x7d"
  | .durations method => "dispatch_request_duration_seconds\x7bmethod=" ++ method ++ "\x7d"
  | .retries method => "dispatch_retries_total\x7bmethod=" ++ method ++ "\x7d"
  | .topologyUpdates contextId =>
    "dispatch_topology_updates_total\x7bcontext_id=" ++ contextId ++ "\x7d"
  | .topologyInstances contextId =>
    "dispatch_topology_instances\x7bcontext_id=" ++ contextId ++ "\x7d"
  | .queueRejections => "gateway_queue_rejections_total\x7b\x7d"

abbrev Metrics := Store Metric Nat

namespace Metrics

def empty : Metrics := Store.empty

def value (m : Metrics) (k : Metric) : Nat := (m.find? k).getD 0

/-- Counts one more. -/
def count (m : Metrics) (k : Metric) : Metrics := m.set k (m.value k + 1)

theorem value_count (m : Metrics) (j k : Metric) :
    (m.count k).value j = if j = k then m.value j + 1 else m.value j := by
  simp only [value, count, Store.find?_set]
  split
  · next h => simp [h]
  · rfl

/-- A finished request. -/
def request (m : Metrics) (method outcome : String) : Metrics :=
  (m.count (.requests method outcome)).count (.durations method)

def retry (m : Metrics) (method : String) : Metrics := m.count (.retries method)

/-- A list of instances that was pushed. -/
def update (m : Metrics) (contextId : String) (instances : Nat) : Metrics :=
  (m.count (.topologyUpdates contextId)).set (.topologyInstances contextId) instances

theorem value_update (m : Metrics) (c d : String) (n : Nat) :
    (m.update c n).value (.topologyUpdates d)
      = m.value (.topologyUpdates d) + if c = d then 1 else 0 := by
  have hne : Metric.topologyUpdates d ≠ .topologyInstances c := by simp
  rw [update, value, Store.find?_set_of_ne _ hne, ← value, value_count]
  by_cases h : c = d
  · simp [h]
  · simp [h, Ne.symm h]

def rejection (m : Metrics) : Metrics := m.count .queueRejections

end Metrics

end Switchyard
