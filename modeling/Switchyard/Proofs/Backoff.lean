import Mathlib.Algebra.Group.Nat.Defs
import Mathlib.Order.MinMax
import Mathlib.Tactic.SplitIfs
import Switchyard.Proofs.Replay

/-!
# How long is waited between attempts

In words that stop at their largest value the delay is what doubling without a bound comes to under
the maximum (`Retry.toNat_backoff`): where a product is stopped, the maximum is not larger.  So the
waits between the attempts of a request are a capped doubling, with a random part if there is one
(`Retry.State.sleeps_eq`), and an execution waits for just those that the failures on its record
lead to (`Dispatch.waits_of_execute`).
-/

namespace Switchyard

namespace Retry

theorem toNat_powTwo (n : Nat) : (powTwo n).toNat = min (2 ^ n) (2 ^ 64 - 1) := by
  unfold powTwo
  split_ifs with h
  · have hlt : 2 ^ n < 2 ^ 64 := Nat.pow_lt_pow_right (by decide) h
    rw [Nat.pow_eq, UInt64.toNat_ofNat_of_lt' hlt]
    omega
  · have hle : 2 ^ 64 ≤ 2 ^ n := Nat.pow_le_pow_right (by decide) (Nat.le_of_not_lt h)
    rw [show largest.toNat = 2 ^ 64 - 1 from rfl]
    omega

theorem toNat_mulCapped (a b : UInt64) :
    (mulCapped a b).toNat = min (a.toNat * b.toNat) (2 ^ 64 - 1) := by
  unfold mulCapped
  split_ifs with h
  · rw [UInt64.toNat_mul, Nat.mod_eq_of_lt h]
    have : a.toNat * b.toNat < 2 ^ 64 := h
    omega
  · have : 2 ^ 64 ≤ a.toNat * b.toNat := Nat.le_of_not_lt h
    rw [show largest.toNat = 2 ^ 64 - 1 from rfl]
    omega

/-- Stopping at the largest word makes no difference under a maximum that is a word. -/
theorem min_capped {a m : Nat} (hm : m < 2 ^ 64) (n : Nat) :
    min (min (a * min (2 ^ n) (2 ^ 64 - 1)) (2 ^ 64 - 1)) m = min (a * 2 ^ n) m := by
  -- a power that fits leaves only the product to stop at; one that does not fit takes any
  -- multiple but zero over the maximum
  rcases Nat.lt_or_ge (2 ^ n) (2 ^ 64) with h | h
  · rw [Nat.min_eq_left (show 2 ^ n ≤ 2 ^ 64 - 1 by omega)]
    omega
  · rcases Nat.eq_zero_or_pos a with rfl | ha
    · simp
    · have h1 := Nat.mul_le_mul_right (2 ^ 64 - 1) ha
      have h2 := Nat.mul_le_mul_right (2 ^ n) ha
      rw [Nat.min_eq_right (show 2 ^ 64 - 1 ≤ 2 ^ n by omega)]
      omega

/-- The delay before the attempt after the `k + 1`-st, but for its random part. -/
def Policy.due (p : Policy) (k : Nat) : Nat := min (p.period.toNat * 2 ^ k) p.maxPeriod.toNat

theorem toNat_backoff {p : Policy} {attempt : UInt32} {k : Nat} (h : attempt.toNat = k + 1) :
    (backoff attempt p.period p.maxPeriod).toNat = p.due k := by
  have hne : attempt ≠ 0 := fun h0 => by simp [h0] at h
  rw [backoff, if_neg hne, h, Nat.add_sub_cancel]
  have hcap : (mulCapped p.period (powTwo k)).toNat
      = min (p.period.toNat * min (2 ^ k) (2 ^ 64 - 1)) (2 ^ 64 - 1) := by
    rw [toNat_mulCapped, toNat_powTwo]
  have hmin := min_capped (a := p.period.toNat) p.maxPeriod.toNat_lt k
  rw [Policy.due, ← hmin, ← hcap]
  dsimp only
  split_ifs with hle <;> rw [UInt64.le_iff_toNat_le] at hle <;> omega

/-- A failed attempt, and what is at hand when it has failed. -/
structure Setback where
  draw : Nat
  elapsed : Span
  failed : Dispatch.Failed

/-- The delay of the policy with the random part that it asks for. -/
def Policy.delay (p : Policy) (k draw : Nat) : Span :=
  if p.jitter then Retry.withJitter draw (.ofMillis (p.due k)) else .ofMillis (p.due k)

/-- The random part is less than a tenth. -/
theorem Policy.delay_bounds (p : Policy) (k draw : Nat) :
    p.due k * 1000 ≤ (p.delay k draw).micros
      ∧ (p.delay k draw).micros ≤ (p.due k + (p.due k / 10 - 1)) * 1000 := by
  unfold delay Retry.withJitter
  split_ifs with hj h0
  · simp only [Span.ofMillis]
    omega
  · have hrange : jitterRange (.ofMillis (p.due k)) = p.due k / 10 := by
      rw [jitterRange, Span.millis_ofMillis]
    rw [hrange] at h0 ⊢
    have hlt := Nat.mod_lt draw (Nat.pos_of_ne_zero h0)
    simp only [Span.ofMillis, Span.addMillis]
    omega
  · simp only [Span.ofMillis]
    omega

/-- No delay is longer than the largest word of seconds. -/
theorem Policy.delay_lt (p : Policy) (k draw : Nat) :
    (p.delay k draw).micros < 2 ^ 64 * 1000000 := by
  have hle : p.due k ≤ p.maxPeriod.toNat := Nat.min_le_right _ _
  have hlt := p.maxPeriod.toNat_lt
  have := (p.delay_bounds k draw).2
  omega

namespace State

variable {s t : State}

/-- How long is waited for the attempts that setbacks lead to.  A setback that ends the request
changes nothing. -/
def sleeps (s : State) : List Setback → List Span
  | [] => []
  | b :: bs =>
    match s.retry b.draw b.elapsed b.failed with
    | .ok t => t.delay :: t.sleeps bs
    | .error _ => s.sleeps bs

theorem nextDelay_eq {k : Nat} (h : s.attempt.toNat = k + 1) (draw : Nat) :
    s.nextDelay draw = s.policy.delay k draw := by
  rw [nextDelay, toNat_backoff h, Policy.delay]

theorem isSpent_iff : s.isSpent = true ↔ s.left = 0 := by
  rw [isSpent, decide_eq_true_eq, UInt32.le_iff_toNat_le, left]
  omega

/-- While attempts are left a setback leads to the next one, which counts one more. -/
theorem retry_of_left {k n : Nat} (h : s.attempt.toNat = k + 1) (hleft : s.left = n + 1)
    (b : Setback) : ∃ t, s.retry b.draw b.elapsed b.failed = .ok t ∧ t.policy = s.policy
      ∧ t.attempt.toNat = k + 2 ∧ t.left = n ∧ t.delay = s.policy.delay k b.draw := by
  have hspent : s.isSpent = false := by
    rw [Bool.eq_false_iff, Ne, isSpent_iff]
    omega
  have hm := s.policy.maxAttempts.toNat_lt
  rw [left] at hleft
  have hnext : (s.attempt + 1).toNat = k + 2 := by
    rw [UInt32.toNat_add, UInt32.toNat_one]
    omega
  refine ⟨{ s with attempt := s.attempt + 1, delay := s.nextDelay b.draw },
    by simp [retry, hspent], rfl, hnext, ?_, nextDelay_eq h b.draw⟩
  show s.policy.maxAttempts.toNat - (s.attempt + 1).toNat = n
  rw [hnext]
  omega

theorem sleeps_of_spent (h : s.left = 0) (bs : List Setback) : s.sleeps bs = [] := by
  induction bs with
  | nil => rfl
  | cons b bs ih => simpa [sleeps, retry, isSpent_iff.mpr h] using ih

/-- The waits follow the policy for as long as attempts are left. -/
theorem sleeps_eq : ∀ (bs : List Setback) {s : State} {k : Nat}, s.attempt.toNat = k + 1 →
    s.sleeps bs = (bs.take s.left).mapIdx fun i b => s.policy.delay (k + i) b.draw
  | [], s, k, _ => by simp [sleeps]
  | b :: bs, s, k, h => by
    rcases hleft : s.left with _ | n
    · rw [sleeps_of_spent hleft]
      rfl
    · obtain ⟨t, hretry, hpolicy, hattempt, htleft, hdelay⟩ := retry_of_left h hleft b
      have ih := sleeps_eq bs hattempt
      rw [sleeps, hretry]
      dsimp only
      rw [ih, htleft, hdelay, hpolicy, List.take_succ_cons, List.mapIdx_cons]
      simp only [Nat.add_zero, Nat.add_assoc, Nat.add_comm 1]

end State

theorem due_ofSettings {settings : Config.RetrySettings} (h : settings.enabled = true) (k : Nat) :
    (Policy.ofSettings settings).due k
      = min (settings.period.toNat * 2 ^ k) settings.maxPeriod.toNat := by
  rw [Policy.ofSettings, if_pos h]
  rfl

theorem jitter_ofSettings {settings : Config.RetrySettings} (h : settings.enabled = true) :
    (Policy.ofSettings settings).jitter = settings.jitter := by
  rw [Policy.ofSettings, if_pos h]
  rfl

/-- The waits of a request under the policy of some settings. -/
theorem sleeps_start (settings : Config.RetrySettings) (bs : List Setback) :
    (State.start (.ofSettings settings)).sleeps bs
      = (bs.take (Dispatch.budget settings - 1)).mapIdx fun i b =>
        (Policy.ofSettings settings).delay i b.draw := by
  have hleft : (State.start (.ofSettings settings)).left = Dispatch.budget settings - 1 := by
    rw [State.left, ← Dispatch.maxAttempts_ofSettings]
    rfl
  rw [State.sleeps_eq bs (k := 0) rfl, hleft]
  simp only [Nat.zero_add]
  rfl

end Retry

namespace Dispatch

open Http (Request)
open Retry (Setback State)

variable {σ : Type}

/-- Surroundings that keep a record of how long they have waited. -/
def Surroundings.timed (e : Surroundings σ) : Surroundings (σ × List Span) where
  prepare r s :=
    let (t, result) := e.prepare r s.1
    ((t, s.2), result)
  send r s :=
    let (t, reply) := e.send r s.1
    ((t, s.2), reply)
  wait r delay s := (e.wait r delay s.1, s.2 ++ [delay])
  now s := e.now s.1
  draw s := e.draw s.1
  finish r result s := (e.finish r result s.1, s.2)

section Timed

variable {e : Surroundings σ} {s t : σ}

theorem prepare_timed {r : Request} {result : Except Error Request}
    (h : e.prepare r s = (t, result)) (log : List Span) :
    e.timed.prepare r (s, log) = ((t, log), result) := by
  simp only [Surroundings.timed, h]

theorem send_timed {r : Request} {reply : Reply} (h : e.send r s = (t, reply)) (log : List Span) :
    e.timed.send r (s, log) = ((t, log), reply) := by
  simp only [Surroundings.timed, h]

@[simp] theorem wait_timed (r : Request) (delay : Span) (log : List Span) :
    e.timed.wait r delay (s, log) = (e.wait r delay s, log ++ [delay]) := rfl

end Timed

theorem forgets_timed (e : Surroundings σ) : e.timed.Forgets Prod.fst e where
  prepare _ _ := rfl
  send _ _ := rfl
  wait _ _ _ := rfl
  now _ := rfl
  draw _ := rfl
  finish _ _ _ := rfl

/-- The setback that a happening is for a request whose execution began at that time. -/
def Happening.setback? (r : Request) (began : Span) : Happening → Option Setback
  | .replied (.failure f) draw now => some ⟨draw, now.since began, ⟨r.method, r.url, f⟩⟩
  | _ => none

namespace Call

variable {c d : Call} {draw : Nat} {now : Span} {f : Failure}

theorem retry_of_afterFailure (h : c.afterFailure draw now f = .ok d) :
    c.retries.retry draw (now.since c.began) ⟨c.request.method, c.request.url, f⟩ = .ok d.retries
      ∧ d.request = c.request ∧ d.began = c.began := by
  unfold afterFailure at h
  cases hr : c.retries.retry draw (now.since c.began) ⟨c.request.method, c.request.url, f⟩ with
  | error e => simp [hr, Except.map] at h
  | ok retries =>
    simp only [hr, Except.map, Except.ok.injEq] at h
    subst h
    exact ⟨rfl, rfl, rfl⟩

theorem retry_of_spent {err : Error} (h : c.afterFailure draw now f = .error err) :
    c.retries.retry draw (now.since c.began) ⟨c.request.method, c.request.url, f⟩
      = .error err := by
  unfold afterFailure at h
  cases hr : c.retries.retry draw (now.since c.began) ⟨c.request.method, c.request.url, f⟩ with
  | error e => simpa [hr, Except.map] using h
  | ok retries => simp [hr, Except.map] at h

/-- How long is waited from a call on, by the failures among what happens from then on. -/
def sleeps (c : Call) (hs : List Happening) : List Span :=
  c.retries.sleeps (hs.filterMap (Happening.setback? c.request c.began))

@[simp] theorem sleeps_nil (c : Call) : c.sleeps [] = [] := rfl

@[simp] theorem sleeps_prepared (c : Call) (result : Except Error Request)
    (hs : List Happening) : c.sleeps (.prepared result :: hs) = c.sleeps hs := rfl

@[simp] theorem sleeps_response (c : Call) (x : Http.Response) (draw : Nat) (now : Span)
    (hs : List Happening) : c.sleeps (.replied (.response x) draw now :: hs) = c.sleeps hs := rfl

@[simp] theorem sleeps_crash (c : Call) (draw : Nat) (now : Span) (hs : List Happening) :
    c.sleeps (.replied .crash draw now :: hs) = c.sleeps hs := rfl

theorem sleeps_spent {err : Error} (h : c.afterFailure draw now f = .error err)
    (hs : List Happening) : c.sleeps (.replied (.failure f) draw now :: hs) = c.sleeps hs := by
  simp only [sleeps, List.filterMap_cons, Happening.setback?, State.sleeps, retry_of_spent h]

theorem sleeps_retry (h : c.afterFailure draw now f = .ok d) (hs : List Happening) :
    c.sleeps (.replied (.failure f) draw now :: .rested :: hs)
      = d.retries.delay :: d.sleeps hs := by
  obtain ⟨hretry, hrequest, hbegan⟩ := retry_of_afterFailure h
  simp only [sleeps, List.filterMap_cons, Happening.setback?, State.sleeps, hretry, hrequest,
    hbegan]

end Call

/-- The attempts from a call on wait for what the failures that they meet lead to, and each wait is
on record. -/
theorem waits_of_attempts (e : Surroundings σ) (c : Call) (s : σ) (log : List Happening)
    (waits : List Span) :
    ∃ t hs, (attempts e.recorded.timed c ((s, log), waits)).1
        = ((t, log ++ hs), waits ++ c.sleeps hs)
      ∧ (c.sleeps hs).length = hs.countP Happening.isRested := by
  rcases hp : e.prepare c.request s with ⟨s₁, err | aimed⟩
  · refine ⟨s₁, [.prepared (.error err)], ?_, rfl⟩
    rw [attempts_of_unprepared (prepare_timed (prepare_recorded hp log) waits)]
    simp
  have hpt := prepare_timed (prepare_recorded hp log) waits
  rcases hs : e.send aimed s₁ with ⟨s₂, reply⟩
  have hst := send_timed (send_recorded hs (log ++ [.prepared (.ok aimed)])) waits
  rcases reply with x | f | _
  · refine ⟨s₂, [.prepared (.ok aimed), .replied (.response x) (e.draw s₂) (e.now s₂)], ?_, rfl⟩
    rw [attempts_of_response hpt hst]
    simp
  · cases hf : c.afterFailure (e.draw s₂) (e.now s₂) f with
    | error err =>
      refine ⟨s₂, [.prepared (.ok aimed), .replied (.failure f) (e.draw s₂) (e.now s₂)], ?_, ?_⟩
      · rw [attempts_of_spent hpt hst hf]
        simp [Call.sleeps_spent hf]
      · rw [Call.sleeps_prepared, Call.sleeps_spent hf]
        rfl
    | ok d =>
      have hdec := Call.left_afterFailure hf
      obtain ⟨t, hs', hat, hlen⟩ := waits_of_attempts e d (e.wait d.request d.retries.delay s₂)
        (log ++ [.prepared (.ok aimed)] ++ [.replied (.failure f) (e.draw s₂) (e.now s₂)]
          ++ [.rested]) (waits ++ [d.retries.delay])
      refine ⟨t, .prepared (.ok aimed) :: .replied (.failure f) (e.draw s₂) (e.now s₂)
        :: .rested :: hs', ?_, ?_⟩
      · rw [attempts_of_retry hpt hst hf, wait_timed, wait_recorded, hat]
        simp [Call.sleeps_retry hf]
      · rw [Call.sleeps_prepared, Call.sleeps_retry hf, List.length_cons, hlen]
        simp [List.countP_cons, Happening.isRested]
  · refine ⟨s₂, [.prepared (.ok aimed), .replied .crash (e.draw s₂) (e.now s₂)], ?_, rfl⟩
    rw [attempts_of_crash hpt hst]
    simp
termination_by c.retries.left

/-- An execution waits for what the failures on its record lead to, and each wait is on record. -/
theorem waits_of_execute (e : Surroundings σ) (policy : Retry.Policy) (r : Request) (s : σ) :
    ∃ t log waits ending,
      execute e.recorded.timed policy r ((s, [.began (e.now s)]), []) = (((t, log), waits), ending)
      ∧ waits = (State.start policy).sleeps (log.filterMap (Happening.setback? r (e.now s)))
      ∧ waits.length = log.countP Happening.isRested := by
  obtain ⟨t, hs, hat, hlen⟩ := waits_of_attempts e (.start policy r (e.now s)) s
    [.began (e.now s)] []
  have hnow : e.recorded.timed.now ((s, [.began (e.now s)]), []) = e.now s := rfl
  rw [execute, hnow]
  rcases hx : attempts e.recorded.timed (.start policy r (e.now s)) ((s, [.began (e.now s)]), [])
    with ⟨x, result | _⟩ <;> rw [hx] at hat <;> subst hat
  · exact ⟨e.finish r result t, _, _, _, rfl, rfl, hlen⟩
  · exact ⟨t, _, _, _, rfl, rfl, hlen⟩

/-- The records change nothing about an execution, and the one of what happens can be replayed. -/
theorem execute_of_records {e : Surroundings σ} {policy : Retry.Policy} {r : Request} {s t : σ}
    {log : List Happening} {waits : List Span} {ending : Ending}
    (h : execute e.recorded.timed policy r ((s, [.began (e.now s)]), [])
      = (((t, log), waits), ending)) :
    execute e.recorded policy r (s, [.began (e.now s)]) = ((t, log), ending)
      ∧ execute e policy r s = (t, ending)
      ∧ (Execution.ready policy r).replay log = some (.ended ending) := by
  have hrecorded := execute_of_forgets (forgets_timed e.recorded) policy r
    ((s, [.began (e.now s)]), [])
  have hplain := execute_of_forgets (forgets_recorded e) policy r (s, [.began (e.now s)])
  rw [h] at hrecorded
  rw [hrecorded] at hplain
  exact ⟨hrecorded, hplain, meets_iff_replay.mp ⟨σ, e, s, t, hrecorded⟩⟩

/-- The waits between the attempts for a request, under settings that allow some, double from the
period on and stop at the maximum, as in numbers without a bound, whatever the period, the maximum
and the number of attempts are.  There is one for each setback but the one that ends the request.
With a random part a wait is longer by less than a tenth, and never does a length of time exceed
the largest word of seconds.  An execution in any surroundings waits for just these: its setbacks
are the failures of the transport on its record, and it waits as often as the record tells of
another attempt to wait for. -/
theorem backs_off (settings : Config.RetrySettings) (henabled : settings.enabled = true)
    (setbacks : List Setback) :
    let policy := Retry.Policy.ofSettings settings
    let due := fun k => min (settings.period.toNat * 2 ^ k) settings.maxPeriod.toNat
    let sleeps := (State.start policy).sleeps setbacks
    sleeps.length = min setbacks.length (max 1 settings.maxAttempts.toNat - 1)
    ∧ (settings.jitter = false → ∀ k delay, sleeps[k]? = some delay → delay = Span.ofMillis (due k))
    ∧ (settings.jitter = true → ∀ k delay, sleeps[k]? = some delay →
      due k * 1000 ≤ delay.micros ∧ delay.micros ≤ (due k + (due k / 10 - 1)) * 1000)
    ∧ (∀ k, due k ≤ due (k + 1) ∧ due k ≤ settings.maxPeriod.toNat)
    ∧ (∀ delay ∈ sleeps, delay.micros < 2 ^ 64 * 1000000)
    ∧ ∀ (σ : Type) (e : Surroundings σ) (r : Request) (s : σ), ∃ t log waits ending,
      execute e.recorded.timed policy r ((s, [.began (e.now s)]), []) = (((t, log), waits), ending)
      ∧ execute e.recorded policy r (s, [.began (e.now s)]) = ((t, log), ending)
      ∧ execute e policy r s = (t, ending)
      ∧ (Execution.ready policy r).replay log = some (.ended ending)
      ∧ waits = (State.start policy).sleeps (log.filterMap (Happening.setback? r (e.now s)))
      ∧ waits.length = log.countP Happening.isRested := by
  intro policy due sleeps
  have hdue : ∀ k, policy.due k = due k := Retry.due_ofSettings henabled
  have hjitter : policy.jitter = settings.jitter := Retry.jitter_ofSettings henabled
  have hsleeps : sleeps = (setbacks.take (budget settings - 1)).mapIdx fun i b =>
      policy.delay i b.draw := Retry.sleeps_start settings setbacks
  have hdelay : ∀ k delay, sleeps[k]? = some delay → ∃ draw, delay = policy.delay k draw := by
    intro k delay hk
    rw [hsleeps, List.getElem?_mapIdx, Option.map_eq_some_iff] at hk
    obtain ⟨b, -, rfl⟩ := hk
    exact ⟨b.draw, rfl⟩
  refine ⟨?_, fun hoff k delay hk => ?_, fun _ k delay hk => ?_,
    fun k => ⟨?_, Nat.min_le_right _ _⟩, fun delay hmem => ?_, fun σ e r s => ?_⟩
  · rw [hsleeps, List.length_mapIdx, List.length_take, budget, if_pos henabled, Nat.min_comm]
  · obtain ⟨draw, rfl⟩ := hdelay k delay hk
    rw [Retry.Policy.delay, hjitter, hoff, if_neg Bool.false_ne_true, hdue]
  · obtain ⟨draw, rfl⟩ := hdelay k delay hk
    rw [← hdue]
    exact policy.delay_bounds k draw
  · have hpow : 2 ^ k ≤ 2 ^ (k + 1) := Nat.pow_le_pow_right (by decide) (Nat.le_add_right k 1)
    exact min_le_min_right _ (Nat.mul_le_mul_left _ hpow)
  · obtain ⟨k, hk⟩ := List.mem_iff_getElem?.mp hmem
    obtain ⟨draw, rfl⟩ := hdelay k delay hk
    exact policy.delay_lt k draw
  · obtain ⟨t, log, waits, ending, htimed, hwaits, hlen⟩ := waits_of_execute e policy r s
    obtain ⟨hrecorded, hplain, hreplay⟩ := execute_of_records htimed
    exact ⟨t, log, waits, ending, htimed, hrecorded, hplain, hreplay, hwaits, hlen⟩

/-- Settings whose products are too large for a word from the second wait on, and whose powers are
from the sixty-fifth on. -/
def steep : Config.RetrySettings :=
  { enabled := true, period := 0x8000000000000000, maxPeriod := 0xffffffffffffffff,
    maxAttempts := 0xffffffff }

def refusal : Failure := ⟨.connectionRefused, "refused"⟩

/-- Attempts that are refused, but for the third one. -/
def refusedTwice : Script where
  rest :=
    let attempt : Happening := .prepared (.ok (.get "http://a/" "c"))
    [attempt, .replied (.failure refusal) 7 .zero, .rested,
      attempt, .replied (.failure refusal) 7 .zero, .rested,
      attempt, .replied (.response (.make 200)) 7 .zero]
  draw := 0
  now := .zero

theorem backs_off_steep :
    let policy := Retry.Policy.ofSettings steep
    let sleeps := (State.start policy).sleeps
      (List.replicate 70 ⟨7, .zero, ⟨"GET", "/", refusal⟩⟩)
    sleeps.length = 70 ∧ sleeps[69]? = some (.ofMillis (2 ^ 64 - 1))
      ∧ ∃ t, execute Script.surroundings.recorded.timed policy (.get "/" "c")
          ((refusedTwice, [.began .zero]), [])
        = (((t, .began .zero :: refusedTwice.rest),
            [.ofMillis (2 ^ 63), .ofMillis (2 ^ 64 - 1)]), .answered (.ok (.make 200))) := by
  intro policy sleeps
  obtain ⟨hlen, -, -, -, -, hruns⟩ :=
    backs_off steep rfl (List.replicate 70 ⟨7, .zero, ⟨"GET", "/", refusal⟩⟩)
  have hget : ∀ {waits : List Span} {bs : List Setback}, waits = (State.start policy).sleeps bs →
      ∀ k, k < waits.length → waits[k]? = some (.ofMillis (min (2 ^ 63 * 2 ^ k) (2 ^ 64 - 1))) := by
    rintro _ bs rfl k hk
    obtain ⟨-, hoff, -⟩ := backs_off steep rfl bs
    have hsome := List.getElem?_eq_getElem hk
    rw [hsome, hoff rfl k _ hsome]
    rfl
  have hseventy : sleeps.length = 70 := hlen
  refine ⟨hseventy, hget rfl 69 (by rw [hseventy]; decide), ?_⟩
  obtain ⟨t, log, waits, ending, htimed, hrecorded, -, -, hwaits, hrests⟩ :=
    hruns Script Script.surroundings (.get "/" "c") refusedTwice
  -- the script is the record of its execution
  have hreplay : (Execution.preparing (.start policy (.get "/" "c") .zero)).replay
      refusedTwice.rest = some (.ended (.answered (.ok (.make 200)))) := rfl
  obtain ⟨u, hu⟩ := attempts_of_replay hreplay 0 .zero [.began .zero]
  obtain ⟨v, hv⟩ := execute_of_attempts (e := Script.surroundings) (s := refusedTwice) hu
  obtain ⟨⟨rfl, rfl⟩, rfl⟩ : (t = v ∧ log = .began .zero :: refusedTwice.rest)
      ∧ ending = .answered (.ok (.make 200)) := by
    simpa using hrecorded.symm.trans hv
  have htwo : waits.length = 2 := hrests
  have htimes : waits = [.ofMillis (2 ^ 63), .ofMillis (2 ^ 64 - 1)] := by
    refine List.ext_getElem? fun k => ?_
    rcases k with _ | _ | k
    · exact hget hwaits 0 (by rw [htwo]; decide)
    · exact hget hwaits 1 (by rw [htwo]; decide)
    · exact List.getElem?_eq_none (by omega)
  exact ⟨t, htimes ▸ htimed⟩

end Dispatch

end Switchyard
