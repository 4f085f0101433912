import Mathlib.Algebra.BigOperators.Group.List.Basic
import Mathlib.Algebra.GroupWithZero.Nat
import Switchyard.Dispatch.Ledger

/-!
# Calls are conserved by the counts

Whatever happens to an execution, what it has cost in calls to the transport is made up for by what
it has come to (`Account.Balanced`), and what it has added to the counts can be told from its
account (`Account.due`).  The counts of a ledger are the sums of those over its accounts
(`Ledger.Kept`), so that when all executions are over the counts balance (`Ledger.conserves`),
whatever has prepared the requests and under whatever policies.
-/

namespace Switchyard

section Sums

variable {γ : Type} {xs : List γ}

theorem sum_map_set_add {i : Nat} {a : γ} (h : xs[i]? = some a) (b : γ) (f : γ → Nat) :
    ((xs.set i b).map f).sum + f a = (xs.map f).sum + f b := by
  induction xs generalizing i with
  | nil => simp at h
  | cons x xs ih =>
    cases i with
    | zero =>
      obtain rfl : x = a := by simpa using h
      simp only [List.set_cons_zero, List.map_cons, List.sum_cons]
      omega
    | succ i =>
      have := ih (i := i) (by simpa using h)
      simp only [List.set_cons_succ, List.map_cons, List.sum_cons]
      omega

theorem set_of_getElem? {i : Nat} {a : γ} (h : xs[i]? = some a) : xs.set i a = xs := by
  obtain ⟨hi, rfl⟩ := List.getElem?_eq_some_iff.mp h
  exact List.set_getElem_self hi

theorem sum_map_toNat (p : γ → Bool) : (xs.map fun x => (p x).toNat).sum = xs.countP p := by
  induction xs with
  | nil => rfl
  | cons x xs ih =>
    rw [List.map_cons, List.sum_cons, ih, List.countP_cons]
    cases p x <;> simp [Nat.add_comm]

theorem sum_map_filter (p : γ → Bool) (f : γ → Nat) :
    (xs.map fun x => (p x).toNat * f x).sum = ((xs.filter p).map f).sum := by
  induction xs with
  | nil => rfl
  | cons x xs ih =>
    rw [List.map_cons, List.sum_cons, ih]
    cases hp : p x <;> simp [hp]

end Sums

namespace Dispatch

open Http (Request Response)

namespace Happening

def isSent : Happening → Bool
  | .prepared (.ok _) => true
  | _ => false

def isFailure : Happening → Bool
  | .replied (.failure _) _ _ => true
  | _ => false

end Happening

namespace Execution

def isSending : Execution → Bool
  | .sending _ _ => true
  | _ => false

def isResting : Execution → Bool
  | .resting _ => true
  | _ => false

def isCrashed : Execution → Bool
  | .ended .crashed => true
  | _ => false

def result? : Execution → Option (Except Error Response)
  | .ended (.answered result) => some result
  | _ => none

end Execution

def isSuccess : Except Error Response → Bool
  | .ok _ => true
  | .error _ => false

def isIo : Except Error Response → Bool
  | .error (.io _ _ _) => true
  | _ => false

/-- The classes of results by the labels that they are counted under. -/
def classes : List (String × (Except Error Response → Bool)) :=
  [("success", isSuccess),
    ("topology", fun
      | .error (.topologyNotFound _) | .error (.noAvailableEndpoint _) => true
      | _ => false),
    ("io_error", isIo),
    ("invalid_url", fun | .error (.invalidUrl _ _) => true | _ => false),
    ("configuration", fun | .error (.configuration _) => true | _ => false)]

/-- A result is counted under the label of its class. -/
theorem outcomeOf_eq_iff (result : Except Error Response) :
    ∀ p ∈ classes, (outcomeOf result = p.1 ↔ p.2 result = true) := by
  rcases result with (_ | _ | _ | _ | _) | _ <;>
    simp [classes, outcomeOf, Error.label, isSuccess, isIo]

theorem outcomeOf_mem (result : Except Error Response) : outcomeOf result ∈ classes.map (·.1) := by
  rcases result with (_ | _ | _ | _ | _) | _ <;> simp [classes, outcomeOf, Error.label]

/-- Every result is in just one class. -/
theorem sum_classes (results : List (Except Error Response)) :
    (classes.map fun p => results.countP p.2).sum = results.length := by
  induction results with
  | nil => rfl
  | cons result results ih =>
    have hone : (classes.map fun p => if p.2 result = true then 1 else 0).sum = 1 := by
      rcases result with (_ | _ | _ | _ | _) | _ <;> rfl
    simp only [List.countP_cons, List.sum_map_add, ih, hone, List.length_cons]

namespace Call

/-- The transport has the last word on what fails for want of attempts. -/
theorem isIo_of_afterFailure {c : Call} {draw : Nat} {now : Span} {f : Failure} {e : Error}
    (h : c.afterFailure draw now f = .error e) : isIo (.error e) = true := by
  unfold afterFailure Retry.State.retry at h
  split_ifs at h
  · cases h
    rfl
  · cases h

end Call

/-- What the transport fails with in the end is that the attempts have run out. -/
theorem Execution.isIo_of_replied {x : Execution} {reply : Reply} {draw : Nat} {now : Span}
    {error : Error}
    (h : x.after (.replied reply draw now) = some (.ended (.answered (.error error)))) :
    isIo (.error error) = true := by
  cases x with
  | ready | preparing | resting | ended => cases h
  | sending c aimed =>
    cases reply with
    | response | crash => cases h
    | failure f =>
      have hfailed := Option.some.inj h
      unfold Execution.afterFailure at hfailed
      split at hfailed
      · rename_i he
        cases hfailed
        exact Call.isIo_of_afterFailure he
      · cases hfailed

/-- What happens to an execution costs a call, or is part of what the call comes to. -/
theorem Execution.after_balance {x y : Execution} {h : Happening} (hh : h.isPossible = true)
    (hx : x.after h = some y) : x.result? = none ∧ x.isCrashed = false
      ∧ h.isSent.toNat + x.isSending.toNat = h.isFailure.toNat + (y.result?.any isSuccess).toNat
        + y.isCrashed.toNat + y.isSending.toNat
      ∧ h.isFailure.toNat = y.isResting.toNat + (y.result?.any isIo).toNat
      ∧ h.isRested = x.isResting := by
  unfold after at hx
  split at hx
  · cases hx
    exact ⟨rfl, rfl, rfl, rfl, rfl⟩
  · rename_i c e
    cases hx
    cases e with
    -- only the transport makes this error, so no preparation ends with it
    | io => cases hh
    | _ => exact ⟨rfl, rfl, rfl, rfl, rfl⟩
  · cases hx
    exact ⟨rfl, rfl, rfl, rfl, rfl⟩
  · cases hx
    exact ⟨rfl, rfl, rfl, rfl, rfl⟩
  · cases hx
    exact ⟨rfl, rfl, rfl, rfl, rfl⟩
  · rename_i c aimed f draw now
    obtain rfl := Option.some.inj hx
    unfold afterFailure
    split
    · rename_i e he
      have := Call.isIo_of_afterFailure he
      cases e with
      | io => exact ⟨rfl, rfl, rfl, rfl, rfl⟩
      | _ => cases this
    · exact ⟨rfl, rfl, rfl, rfl, rfl⟩
  · cases hx
    exact ⟨rfl, rfl, rfl, rfl, rfl⟩
  · cases hx

/-- What an execution has cost is made up for by what it has come to. -/
structure Account.Balanced (a : Account) : Prop where
  sent : a.log.countP Happening.isSent = a.log.countP Happening.isFailure
    + (a.progress.result?.any isSuccess).toNat + a.progress.isCrashed.toNat
    + a.progress.isSending.toNat
  failed : a.log.countP Happening.isFailure = a.log.countP Happening.isRested
    + a.progress.isResting.toNat + (a.progress.result?.any isIo).toNat

theorem countP_concat (log : List Happening) (h : Happening) (p : Happening → Bool) :
    (log ++ [h]).countP p = log.countP p + (p h).toNat := by
  rw [List.countP_append, List.countP_singleton]
  cases p h <;> rfl

theorem Account.Balanced.after {a : Account} {h : Happening} {x : Execution} (ha : a.Balanced)
    (hh : h.isPossible = true) (hx : a.progress.after h = some x) :
    Account.Balanced ⟨a.request, a.log ++ [h], x⟩ := by
  obtain ⟨hsent, hfailed⟩ := ha
  obtain ⟨hresult, hcrashed, hcost, hfailure, hrested⟩ := Execution.after_balance hh hx
  simp only [hresult, hcrashed, ← hrested, Option.any_none, Bool.toNat_false] at hsent hfailed
  constructor
  · simp only [countP_concat]
    omega
  · simp only [countP_concat]
    omega

namespace Account

def isFor (a : Account) (m : String) : Bool := a.request.method == m

/-- What has been counted for an account, of what is counted for executions. -/
def due (a : Account) : Metric → Nat
  | .requests m outcome => (a.isFor m && a.progress.result?.map outcomeOf == some outcome).toNat
  | .durations m => (a.isFor m && a.progress.result?.isSome).toNat
  | .retries m =>
    (a.isFor m).toNat * (a.log.countP Happening.isRested + a.progress.isResting.toNat)
  | _ => 0

end Account

/-- Whether it is counted for executions. -/
def ofExecutions : Metric → Bool
  | .requests _ _ | .durations _ | .retries _ => true
  | _ => false

theorem value_update_of_executions (metrics : Metrics) (c : String) (n : Nat) {k : Metric}
    (hk : ofExecutions k = true) : (metrics.update c n).value k = metrics.value k := by
  have hinstances : k ≠ .topologyInstances c := by
    rintro rfl
    cases hk
  have hupdates : k ≠ .topologyUpdates c := by
    rintro rfl
    cases hk
  rw [Metrics.update, Metrics.value, Store.find?_set_of_ne _ hinstances, ← Metrics.value,
    Metrics.value_count, if_neg hupdates]

/-- What is noted of an execution is due to it. -/
theorem value_note (metrics : Metrics) (r : Request) (x : Execution) {k : Metric}
    (hk : ofExecutions k = true) :
    (metrics.note r x).value k = metrics.value k + Account.due ⟨r, [], x⟩ k := by
  rcases x with _ | _ | _ | c | (result | _)
  case resting =>
    show (metrics.count (.retries r.method)).value k = _
    rw [Metrics.value_count]
    cases k with
    | requests | durations => simp [Account.due, Execution.result?]
    | retries m =>
      by_cases hm : r.method = m
      · simp [Account.due, Account.isFor, hm, Execution.isResting]
      · simp [Account.due, Account.isFor, beq_false_of_ne hm, Ne.symm hm]
    | _ => cases hk
  case ended.answered =>
    show ((metrics.count (.requests r.method (outcomeOf result))).count
      (.durations r.method)).value k = _
    rw [Metrics.value_count, Metrics.value_count]
    cases k with
    | requests m outcome =>
      by_cases hm : r.method = m <;> by_cases ho : outcomeOf result = outcome
      · simp [Account.due, Account.isFor, hm, ho, Execution.result?]
      · simp [Account.due, Account.isFor, hm, ho, Ne.symm ho, Execution.result?]
      · simp [Account.due, Account.isFor, hm, Ne.symm hm]
      · simp [Account.due, Account.isFor, hm, Ne.symm hm]
    | durations m =>
      by_cases hm : r.method = m
      · simp [Account.due, Account.isFor, hm, Execution.result?]
      · simp [Account.due, Account.isFor, hm, Ne.symm hm]
    | retries m => simp [Account.due, Execution.isResting]
    | _ => cases hk
  all_goals
    show metrics.value k = _
    cases k <;> simp [Account.due, Execution.result?, Execution.isResting]

theorem Account.due_after {a : Account} {h : Happening} {x : Execution} (hh : h.isPossible = true)
    (hx : a.progress.after h = some x) (k : Metric) :
    Account.due ⟨a.request, a.log ++ [h], x⟩ k = a.due k + Account.due ⟨a.request, [], x⟩ k := by
  obtain ⟨hresult, -, -, -, hrested⟩ := Execution.after_balance hh hx
  cases k with
  | requests m outcome => simp [due, isFor, hresult]
  | durations m => simp [due, isFor, hresult]
  | retries m =>
    simp only [due, isFor, countP_concat, hrested, List.countP_nil, Nat.zero_add, Nat.mul_add]
  | _ => rfl

/-- The counts for a method balance with the results of its requests, with the number of requests
that were to be executed, and with the calls to the transport that were made and that failed. -/
structure Conserves (metrics : Metrics) (m : String) (results : List (Except Error Response))
    (executed sent failed : Nat) : Prop where
  classes : ∀ p ∈ classes, metrics.value (.requests m p.1) = results.countP p.2
  /-- Nothing is counted under another label. -/
  others : ∀ outcome, outcome ∉ Dispatch.classes.map (·.1) →
    metrics.value (.requests m outcome) = 0
  requests : (Dispatch.classes.map fun p => metrics.value (.requests m p.1)).sum = executed
  durations : metrics.value (.durations m) = executed
  /-- A call that failed was counted as a retry, or its execution has ended with this failure. -/
  failed_eq : metrics.value (.retries m) + results.countP isIo = failed
  sent_eq : sent = results.countP isSuccess + results.countP isIo + metrics.value (.retries m)

namespace Ledger

variable {l k : Ledger} {e : Event} {es : List Event}

structure Kept (l : Ledger) : Prop where
  balanced : ∀ a ∈ l.accounts, a.Balanced
  counts : ∀ j, ofExecutions j = true → l.metrics.value j = (l.accounts.map (·.due j)).sum

theorem step_happen {i : Nat} {h : Happening} (hs : l.step (.happen i h) = some k) :
    ∃ a x, l.accounts[i]? = some a ∧ h.isPossible = true ∧ a.progress.after h = some x
      ∧ k = ⟨l.accounts.set i ⟨a.request, a.log ++ [h], x⟩, l.metrics.note a.request x⟩ := by
  simp only [step] at hs
  split at hs
  · cases hs
  · rename_i a ha
    split_ifs at hs with hh
    obtain ⟨x, hx, rfl⟩ := Option.map_eq_some_iff.mp hs
    exact ⟨a, x, ha, hh, hx, rfl⟩

theorem kept_empty : empty.Kept := ⟨fun _ ha => absurd ha List.not_mem_nil, fun _ _ => rfl⟩

theorem Kept.step (h : l.Kept) (hs : l.step e = some k) : k.Kept := by
  cases e with
  | arrive policy r now =>
    obtain rfl := Option.some.inj hs
    refine ⟨fun a ha => ?_, fun j hj => ?_⟩
    · rcases List.mem_append.mp ha with ha | ha
      · exact h.balanced a ha
      · obtain rfl := List.mem_singleton.mp ha
        exact ⟨rfl, rfl⟩
    · have hnew : Account.due ⟨r, [.began now], .preparing (.start policy r now)⟩ j = 0 := by
        cases j <;> simp [Account.due, Execution.result?, Execution.isResting, Happening.isRested]
      simp only [List.map_append, List.map_singleton, List.sum_append, List.sum_singleton, hnew]
      exact h.counts j hj
  | happen i g =>
    obtain ⟨a, x, ha, hg, hx, rfl⟩ := step_happen hs
    refine ⟨fun b hb => ?_, fun j hj => ?_⟩
    · rcases List.mem_or_eq_of_mem_set hb with hb | rfl
      · exact h.balanced b hb
      · exact (h.balanced a (List.mem_of_getElem? ha)).after hg hx
    · have hsum := sum_map_set_add ha ⟨a.request, a.log ++ [g], x⟩ (·.due j)
      have hdue := Account.due_after hg hx j
      have hcount := h.counts j hj
      have hnote := value_note l.metrics a.request x hj
      show (l.metrics.note a.request x).value j
        = ((l.accounts.set i ⟨a.request, a.log ++ [g], x⟩).map (·.due j)).sum
      omega
  | update c n =>
    obtain rfl := Option.some.inj hs
    exact ⟨h.balanced, fun j hj => (value_update_of_executions l.metrics c n hj).trans (h.counts j hj)⟩
  | reject =>
    obtain rfl := Option.some.inj hs
    refine ⟨h.balanced, fun j hj => ?_⟩
    have hne : j ≠ .queueRejections := by
      rintro rfl
      cases hj
    show (l.metrics.count .queueRejections).value j = _
    rw [Metrics.value_count, if_neg hne]
    exact h.counts j hj

theorem Kept.run : ∀ {es : List Event} {l k : Ledger}, l.Kept → l.run es = some k → k.Kept
  | [], _, _, hl, h => Option.some.inj h ▸ hl
  | _ :: _, _, _, hl, h =>
    let ⟨_, hs, hr⟩ := Option.bind_eq_some_iff.mp h
    (hl.step hs).run hr

/-- The request that is to be executed from then on. -/
def Event.request? : Event → Option Request
  | .arrive _ r _ => some r
  | _ => none

def of (l : Ledger) (m : String) : List Account := l.accounts.filter (·.isFor m)

def results (l : Ledger) (m : String) : List (Except Error Response) :=
  (l.of m).filterMap (·.progress.result?)

/-- How often something has happened to the executions of a method. -/
def happened (l : Ledger) (m : String) (p : Happening → Bool) : Nat :=
  ((l.of m).map fun a => a.log.countP p).sum

theorem countP_results (l : Ledger) (m : String) (p : Except Error Response → Bool) :
    (l.results m).countP p = (l.of m).countP fun a => a.progress.result?.any p := by
  rw [results, List.countP_filterMap]
  refine List.countP_congr fun a _ => ?_
  cases a.progress.result? <;> simp

theorem step_requests (hs : l.step e = some k) :
    k.accounts.map (·.request) = l.accounts.map (·.request) ++ e.request?.toList := by
  cases e with
  | arrive policy r now =>
    obtain rfl := Option.some.inj hs
    simp [Event.request?]
  | happen i h =>
    obtain ⟨a, x, ha, -, -, rfl⟩ := step_happen hs
    have hsame : (l.accounts.map (·.request))[i]? = some a.request := by
      rw [List.getElem?_map, ha]
      rfl
    simp only [List.map_set, Event.request?, Option.toList_none, List.append_nil]
    exact set_of_getElem? hsame
  | update | reject =>
    obtain rfl := Option.some.inj hs
    simp [Event.request?]

theorem run_requests : ∀ {es : List Event} {l k : Ledger}, l.run es = some k →
    k.accounts.map (·.request) = l.accounts.map (·.request) ++ es.filterMap Event.request?
  | [], _, _, h => by simp [Option.some.inj h]
  | e :: es, _, _, h => by
    obtain ⟨u, hs, hr⟩ := Option.bind_eq_some_iff.mp h
    rw [run_requests hr, step_requests hs, List.append_assoc]
    cases e <;> rfl

theorem Kept.requests_eq (h : l.Kept) (m outcome : String) :
    l.metrics.value (.requests m outcome)
      = (l.results m).countP fun result => outcomeOf result == outcome := by
  rw [h.counts _ rfl, countP_results, of, List.countP_filter]
  simp only [Account.due]
  rw [sum_map_toNat]
  refine List.countP_congr fun a _ => ?_
  cases a.progress.result? <;> simp [and_comm]

theorem Kept.durations_eq (h : l.Kept) (m : String) :
    l.metrics.value (.durations m) = (l.results m).length := by
  rw [h.counts _ rfl, results, List.length_filterMap_eq_countP, of, List.countP_filter]
  simp only [Account.due]
  rw [sum_map_toNat]
  simp only [Bool.and_comm]

/-- A call that failed was counted as a retry, unless it was the last one that was allowed. -/
theorem Kept.retries_add (h : l.Kept) (m : String) :
    l.metrics.value (.retries m) + (l.results m).countP isIo
      = l.happened m Happening.isFailure := by
  rw [h.counts _ rfl, countP_results, ← sum_map_toNat]
  simp only [Account.due]
  rw [sum_map_filter, ← of, ← List.sum_map_add]
  refine congrArg List.sum (List.map_congr_left fun a ha => ?_)
  exact (h.balanced a (List.mem_of_mem_filter ha)).failed.symm

/-- A call has failed, or it has been answered, or it was the end of its execution, or it is still
out. -/
theorem Kept.sent_eq (h : l.Kept) (m : String) :
    l.happened m Happening.isSent = l.happened m Happening.isFailure
      + (l.results m).countP isSuccess + (l.of m).countP (·.progress.isCrashed)
      + (l.of m).countP (·.progress.isSending) := by
  rw [countP_results, ← sum_map_toNat, ← sum_map_toNat, ← sum_map_toNat]
  unfold happened
  rw [← List.sum_map_add, ← List.sum_map_add, ← List.sum_map_add]
  refine congrArg List.sum (List.map_congr_left fun a ha => ?_)
  exact (h.balanced a (List.mem_of_mem_filter ha)).sent

theorem Kept.classes_eq (h : l.Kept) (m : String) :
    ∀ p ∈ classes, l.metrics.value (.requests m p.1) = (l.results m).countP p.2 := by
  intro p hp
  rw [h.requests_eq]
  refine List.countP_congr fun result _ => ?_
  rw [beq_iff_eq, outcomeOf_eq_iff result p hp]

theorem Kept.sum_classes_eq (h : l.Kept) (m : String) :
    (classes.map fun p => l.metrics.value (.requests m p.1)).sum = (l.results m).length := by
  rw [← sum_classes]
  exact congrArg List.sum (List.map_congr_left (h.classes_eq m))

section Over

variable (hover : ∀ a ∈ l.accounts, ∃ result, a.progress = .ended (.answered result))
include hover

theorem length_results (m : String) : (l.results m).length = (l.of m).length := by
  rw [results, List.length_filterMap_eq_countP]
  refine List.countP_eq_length.mpr fun a ha => ?_
  obtain ⟨result, hp⟩ := hover a (List.mem_of_mem_filter ha)
  rw [hp]
  rfl

theorem countP_progress_eq_zero (m : String) {p : Execution → Bool}
    (hp : ∀ result, p (.ended (.answered result)) = false) :
    (l.of m).countP (p ·.progress) = 0 := by
  refine List.countP_eq_zero.mpr fun a ha => ?_
  obtain ⟨result, hprogress⟩ := hover a (List.mem_of_mem_filter ha)
  simp [hprogress, hp]

/-- There was a call for each response, for each result that says that one has failed, and for each
retry. -/
theorem Kept.calls_eq (h : l.Kept) (m : String) : l.happened m Happening.isSent
    = (l.results m).countP isSuccess + (l.results m).countP isIo
      + l.metrics.value (.retries m) := by
  have hcrashed := countP_progress_eq_zero hover m (p := Execution.isCrashed) fun _ => rfl
  have hsending := countP_progress_eq_zero hover m (p := Execution.isSending) fun _ => rfl
  have hsent := h.sent_eq m
  have hfailed := h.retries_add m
  omega

theorem Kept.conserves (h : l.Kept) (m : String) : Conserves l.metrics m (l.results m)
    (l.of m).length (l.happened m Happening.isSent) (l.happened m Happening.isFailure) where
  classes := h.classes_eq m
  others outcome ho := by
    rw [h.requests_eq]
    refine List.countP_eq_zero.mpr fun result _ heq => ho ?_
    exact beq_iff_eq.mp heq ▸ outcomeOf_mem result
  requests := (h.sum_classes_eq m).trans (length_results hover m)
  durations := (h.durations_eq m).trans (length_results hover m)
  failed_eq := h.retries_add m
  sent_eq := h.calls_eq hover m

end Over

/-- Calls are conserved by the counts.  Take any executions, each under a policy of its own, and
whatever happens to them, until all of them have been answered.  Then for any method the results of
each class are counted under its label, and nothing is counted under another; together these are as
many as there were requests to be executed, and so are the durations.  The calls to the transport
that failed are those that were counted as retries and those of the results that say so.  So there
was a call for each response, for each such result and for each retry. -/
theorem conserves (h : empty.run es = some l)
    (hover : ∀ a ∈ l.accounts, ∃ result, a.progress = .ended (.answered result)) (m : String) :
    Conserves l.metrics m (l.results m) ((es.filterMap Event.request?).countP (·.method == m))
      (l.happened m Happening.isSent) (l.happened m Happening.isFailure) := by
  have hrequests : l.accounts.map (·.request) = es.filterMap Event.request? := run_requests h
  have hall : (es.filterMap Event.request?).countP (·.method == m) = (l.of m).length := by
    rw [← hrequests, List.countP_map, List.countP_eq_length_filter]
    rfl
  rw [hall]
  exact (kept_empty.run h).conserves hover m

end Ledger

end Dispatch

end Switchyard
