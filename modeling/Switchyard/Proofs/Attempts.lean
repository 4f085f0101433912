import Mathlib.Logic.Function.Iterate
import Mathlib.Tactic.SplitIfs
import Switchyard.Dispatch.Execution

/-!
# Executing is scanning the attempts

What surroundings make of a request at each attempt, were all earlier ones to fail, is a sequence
of trials (`Surroundings.trials`).  An execution is a scan of that sequence within the budget of
the settings: it ends at the first trial that is not a failure of the transport, or with the
failure at the last one (`execute_eq_scan`).  The call at the `i`-th attempt counts `i`.
-/

namespace Switchyard.Dispatch

open Http (Request Response)

variable {σ : Type}

/-- How many attempts retry settings allow for a request. -/
def budget (s : Config.RetrySettings) : Nat := if s.enabled then max 1 s.maxAttempts.toNat else 1

/-- What an attempt meets. -/
inductive Trial
  /-- The request cannot be aimed at a server. -/
  | unprepared (e : Error)
  /-- The transport got a request, and was done with it some time after the execution began. -/
  | sent (aimed : Request) (reply : Reply) (elapsed : Span)

def Trial.isFailure : Trial → Bool
  | .sent _ (.failure _) _ => true
  | _ => false

/-- Looks at the trials from the `i`-th on, of `b` that are allowed: how many calls the transport
has got in the end, and the ending. -/
def scan (r : Request) (trial : Nat → Trial) (b i : Nat) : Nat × Ending :=
  match trial i with
  | .unprepared e => (i - 1, .answered (.error e))
  | .sent _ (.response x) _ => (i, .answered (.ok x))
  | .sent _ .crash _ => (i, .crashed)
  | .sent _ (.failure f) elapsed =>
    if i < b then scan r trial b (i + 1)
    else (i, .answered (.error (.io ⟨r.method, r.url, f⟩ (.ofNat b) elapsed)))
termination_by b - i

namespace Surroundings

variable (e : Surroundings σ)

/-- What the attempt of a call meets. -/
def trial (x : Call × σ) : Trial :=
  match e.prepare x.1.request x.2 with
  | (_, .error err) => .unprepared err
  | (s, .ok aimed) =>
    let (s, reply) := e.send aimed s
    .sent aimed reply ((e.now s).since x.1.began)

/-- The next attempt, if the one at hand fails and another one is allowed. -/
def next (x : Call × σ) : Call × σ :=
  match e.prepare x.1.request x.2 with
  | (_, .error _) => x
  | (s, .ok aimed) =>
    match e.send aimed s with
    | (s, .failure f) =>
      match x.1.afterFailure (e.draw s) (e.now s) f with
      | .ok c => (c, e.wait c.request c.retries.delay s)
      | .error _ => x
    | _ => x

/-- The call and the surroundings at the `i`-th attempt, were all earlier ones to fail. -/
def attempt (x : Call × σ) (i : Nat) : Call × σ := e.next^[i - 1] x

def trials (x : Call × σ) (i : Nat) : Trial := e.trial (e.attempt x i)

end Surroundings

section Steps

variable {e : Surroundings σ} {c : Call} {s s₁ s₂ : σ} {aimed : Request}

theorem attempts_of_unprepared {err : Error} (hp : e.prepare c.request s = (s₁, .error err)) :
    attempts e c s = (s₁, .answered (.error err)) := by
  rw [attempts, hp]

theorem attempts_of_response {x : Response} (hp : e.prepare c.request s = (s₁, .ok aimed))
    (hs : e.send aimed s₁ = (s₂, .response x)) :
    attempts e c s = (s₂, .answered (.ok x)) := by
  rw [attempts, hp]
  simp only [hs]

theorem attempts_of_crash (hp : e.prepare c.request s = (s₁, .ok aimed))
    (hs : e.send aimed s₁ = (s₂, .crash)) : attempts e c s = (s₂, .crashed) := by
  rw [attempts, hp]
  simp only [hs]

theorem attempts_of_spent {f : Failure} {err : Error}
    (hp : e.prepare c.request s = (s₁, .ok aimed)) (hs : e.send aimed s₁ = (s₂, .failure f))
    (ha : c.afterFailure (e.draw s₂) (e.now s₂) f = .error err) :
    attempts e c s = (s₂, .answered (.error err)) := by
  rw [attempts, hp]
  simp only [hs]
  split
  · rename_i err' h
    rw [ha, Except.error.injEq] at h
    rw [h]
  · rename_i d h
    rw [ha] at h
    cases h

theorem attempts_of_retry {f : Failure} {d : Call}
    (hp : e.prepare c.request s = (s₁, .ok aimed)) (hs : e.send aimed s₁ = (s₂, .failure f))
    (ha : c.afterFailure (e.draw s₂) (e.now s₂) f = .ok d) :
    attempts e c s = attempts e d (e.wait d.request d.retries.delay s₂) := by
  rw [attempts, hp]
  simp only [hs]
  split
  · rename_i err h
    rw [ha] at h
    cases h
  · rename_i d' h
    rw [ha, Except.ok.injEq] at h
    rw [h]

end Steps

section Recorded

variable {e : Surroundings σ} {s t : σ}

theorem prepare_recorded {r : Request} {result : Except Error Request}
    (h : e.prepare r s = (t, result)) (log : List Happening) :
    e.recorded.prepare r (s, log) = ((t, log ++ [.prepared result]), result) := by
  simp only [Surroundings.recorded, h]

theorem send_recorded {r : Request} {reply : Reply} (h : e.send r s = (t, reply))
    (log : List Happening) :
    e.recorded.send r (s, log) = ((t, log ++ [.replied reply (e.draw t) (e.now t)]), reply) := by
  simp only [Surroundings.recorded, h]

@[simp] theorem wait_recorded (r : Request) (delay : Span) (log : List Happening) :
    e.recorded.wait r delay (s, log) = (e.wait r delay s, log ++ [.rested]) := rfl

end Recorded

/-- What `f` leaves of the state of the surroundings `e'` is all that the surroundings `e` have. -/
structure Surroundings.Forgets {τ : Type} (e' : Surroundings τ) (f : τ → σ)
    (e : Surroundings σ) : Prop where
  prepare : ∀ r x, e.prepare r (f x) = (f (e'.prepare r x).1, (e'.prepare r x).2)
  send : ∀ r x, e.send r (f x) = (f (e'.send r x).1, (e'.send r x).2)
  wait : ∀ r delay x, e.wait r delay (f x) = f (e'.wait r delay x)
  now : ∀ x, e.now (f x) = e'.now x
  draw : ∀ x, e.draw (f x) = e'.draw x
  finish : ∀ r result x, e.finish r result (f x) = f (e'.finish r result x)

section Forgets

variable {τ : Type} {e' : Surroundings τ} {f : τ → σ} {e : Surroundings σ}

/-- A record of what happens changes nothing. -/
theorem forgets_recorded (e : Surroundings σ) : e.recorded.Forgets Prod.fst e where
  prepare _ _ := rfl
  send _ _ := rfl
  wait _ _ _ := rfl
  now _ := rfl
  draw _ := rfl
  finish _ _ _ := rfl

theorem attempts_of_forgets (h : e'.Forgets f e) (c : Call) (x : τ) :
    attempts e c (f x) = (f (attempts e' c x).1, (attempts e' c x).2) := by
  rcases hp' : e'.prepare c.request x with ⟨x₁, err | aimed⟩
  · have hp := h.prepare c.request x
    rw [hp'] at hp
    rw [attempts_of_unprepared hp', attempts_of_unprepared hp]
  have hp := h.prepare c.request x
  rw [hp'] at hp
  rcases hs' : e'.send aimed x₁ with ⟨x₂, reply⟩
  have hs := h.send aimed x₁
  rw [hs'] at hs
  rcases reply with a | fault | _
  · rw [attempts_of_response hp' hs', attempts_of_response hp hs]
  · rcases ha : c.afterFailure (e'.draw x₂) (e'.now x₂) fault with err | d
    · have ha' := ha
      rw [← h.draw, ← h.now] at ha
      rw [attempts_of_spent hp' hs' ha', attempts_of_spent hp hs ha]
    · have ha' := ha
      rw [← h.draw, ← h.now] at ha
      rw [attempts_of_retry hp' hs' ha', attempts_of_retry hp hs ha, h.wait,
        attempts_of_forgets h d]
  · rw [attempts_of_crash hp' hs', attempts_of_crash hp hs]
termination_by c.retries.left
decreasing_by exact Call.left_afterFailure ha'

theorem execute_of_forgets (h : e'.Forgets f e) (policy : Retry.Policy) (r : Request) (x : τ) :
    execute e policy r (f x) = (f (execute e' policy r x).1, (execute e' policy r x).2) := by
  rw [execute, execute, h.now, attempts_of_forgets h]
  rcases attempts e' (.start policy r (e'.now x)) x with ⟨y, result | _⟩
  · dsimp only
    rw [h.finish]
  · rfl

end Forgets

namespace Call

variable {c : Call} (draw : Nat) (now : Span) (f : Failure)

theorem afterFailure_of_last (h : c.retries.policy.maxAttempts ≤ c.retries.attempt) :
    c.afterFailure draw now f = .error
      (.io ⟨c.request.method, c.request.url, f⟩ c.retries.attempt (now.since c.began)) := by
  simp [afterFailure, Retry.State.retry, Retry.State.isSpent, h, Except.map]

/-- Before the last attempt a failure leads to the next one, which counts one more. -/
theorem afterFailure_of_more
    (h : c.retries.attempt.toNat < c.retries.policy.maxAttempts.toNat) :
    ∃ d, c.afterFailure draw now f = .ok d ∧ d.request = c.request ∧ d.began = c.began
      ∧ d.retries.policy = c.retries.policy
      ∧ d.retries.attempt.toNat = c.retries.attempt.toNat + 1 := by
  have hn : ¬ c.retries.policy.maxAttempts ≤ c.retries.attempt := by
    rw [UInt32.le_iff_toNat_le]
    omega
  have hm := c.retries.policy.maxAttempts.toNat_lt
  refine ⟨{ c with retries := { c.retries with
    attempt := c.retries.attempt + 1, delay := c.retries.nextDelay draw } }, ?_, rfl, rfl, rfl, ?_⟩
  · simp [afterFailure, Retry.State.retry, Retry.State.isSpent, hn, Except.map]
  · simp only [UInt32.toNat_add, UInt32.reduceToNat]
    omega

end Call

section Scan

variable (e : Surroundings σ)

theorem scan_of_unprepared {r : Request} {trial : Nat → Trial} {b i : Nat} {err : Error}
    (h : trial i = .unprepared err) : scan r trial b i = (i - 1, .answered (.error err)) := by
  rw [scan, h]

theorem scan_of_response {r aimed : Request} {trial : Nat → Trial} {b i : Nat} {x : Response}
    {elapsed : Span} (h : trial i = .sent aimed (.response x) elapsed) :
    scan r trial b i = (i, .answered (.ok x)) := by
  rw [scan, h]

theorem scan_of_crash {r aimed : Request} {trial : Nat → Trial} {b i : Nat} {elapsed : Span}
    (h : trial i = .sent aimed .crash elapsed) : scan r trial b i = (i, .crashed) := by
  rw [scan, h]

theorem scan_of_failure {r aimed : Request} {trial : Nat → Trial} {b i : Nat} {f : Failure}
    {elapsed : Span} (h : trial i = .sent aimed (.failure f) elapsed) :
    scan r trial b i = if i < b then scan r trial b (i + 1)
      else (i, .answered (.error (.io ⟨r.method, r.url, f⟩ (.ofNat b) elapsed))) := by
  rw [scan, h]

/-- From the call of the `i`-th attempt on, with `i - 1` replies on record, the attempts are a
scan. -/
theorem attempts_eq_scan {b i : Nat} (trial : Nat → Trial) (c : Call) (s : σ)
    (log : List Happening) (h1 : 1 ≤ i) (hib : i ≤ b) (hi : c.retries.attempt.toNat = i)
    (hb : c.retries.policy.maxAttempts.toNat = b)
    (hlog : log.countP Happening.isReply = i - 1)
    (htrial : ∀ k, trial (i + k) = e.trial (e.next^[k] (c, s))) :
    ∃ t log', attempts e.recorded c (s, log) = ((t, log'), (scan c.request trial b i).2)
      ∧ log'.countP Happening.isReply = (scan c.request trial b i).1
      ∧ (scan c.request trial b i).1 ≤ b := by
  have hti : trial i = e.trial (c, s) := htrial 0
  rcases hp : e.prepare c.request s with ⟨s₁, err | aimed⟩
  · have ht : trial i = .unprepared err := by simp only [hti, Surroundings.trial, hp]
    rw [scan_of_unprepared ht]
    refine ⟨s₁, _, attempts_of_unprepared (prepare_recorded hp log), ?_, by omega⟩
    simp [Happening.isReply, hlog]
  have hpr := prepare_recorded hp log
  rcases hs : e.send aimed s₁ with ⟨s₂, reply⟩
  have hsr := send_recorded hs (log ++ [.prepared (.ok aimed)])
  have ht : trial i = .sent aimed reply ((e.now s₂).since c.began) := by
    simp only [hti, Surroundings.trial, hp, hs]
  have hcount : (log ++ [Happening.prepared (.ok aimed)]
      ++ [Happening.replied reply (e.draw s₂) (e.now s₂)]).countP Happening.isReply = i := by
    simp only [List.countP_append, List.countP_singleton, hlog, Happening.isReply,
      Bool.false_eq_true, ↓reduceIte]
    omega
  rcases reply with x | f | _
  · rw [scan_of_response ht]
    exact ⟨s₂, _, attempts_of_response hpr hsr, hcount, hib⟩
  · rw [scan_of_failure ht]
    by_cases hlt : i < b
    · obtain ⟨d, hd, hreq, -, hpol, hatt⟩ :=
        Call.afterFailure_of_more (e.draw s₂) (e.now s₂) f (c := c) (by omega)
      have hnext : e.next (c, s) = (d, e.wait d.request d.retries.delay s₂) := by
        simp only [Surroundings.next, hp, hs, hd]
      -- the trials from the next attempt on are those of the call that it makes
      have htrial' : ∀ k, trial (i + 1 + k)
          = e.trial (e.next^[k] (d, e.wait d.request d.retries.delay s₂)) := by
        intro k
        rw [Nat.add_assoc, Nat.add_comm 1 k, htrial, Function.iterate_succ_apply, hnext]
      obtain ⟨t, log', har, hc, hle⟩ := attempts_eq_scan trial d
        (e.wait d.request d.retries.delay s₂)
        (log ++ [.prepared (.ok aimed)] ++ [.replied (.failure f) (e.draw s₂) (e.now s₂)]
          ++ [.rested])
        (by omega) hlt (hatt.trans (by rw [hi])) (by rw [hpol, hb])
        (by rw [List.countP_append, hcount]; rfl) htrial'
      rw [hreq] at har hc hle
      rw [if_pos hlt]
      refine ⟨t, log', ?_, hc, hle⟩
      rw [attempts_of_retry hpr hsr hd, wait_recorded, hreq, har]
    · have hlast : c.retries.policy.maxAttempts ≤ c.retries.attempt := by
        rw [UInt32.le_iff_toNat_le]
        omega
      have hspent := Call.afterFailure_of_last (e.draw s₂) (e.now s₂) f hlast
      have hatt : c.retries.attempt = UInt32.ofNat b := by
        rw [← UInt32.ofNat_toNat (x := c.retries.attempt), hi]
        congr 1
        omega
      rw [if_neg hlt, ← hatt]
      exact ⟨s₂, _, attempts_of_spent hpr hsr hspent, hcount, hib⟩
  · rw [scan_of_crash ht]
    exact ⟨s₂, _, attempts_of_crash hpr hsr, hcount, hib⟩
termination_by b - i

theorem maxAttempts_ofSettings (settings : Config.RetrySettings) :
    (Retry.Policy.ofSettings settings).maxAttempts.toNat = budget settings := by
  unfold Retry.Policy.ofSettings budget
  split_ifs
  · simp only [Retry.Policy.withJitter, Retry.Policy.make]
    split_ifs with h
    · simp [h]
    · have : settings.maxAttempts.toNat ≠ 0 := fun h0 => h (UInt32.toNat_inj.mp h0)
      omega
  · rfl

theorem budget_pos (settings : Config.RetrySettings) : 1 ≤ budget settings := by
  unfold budget
  split_ifs <;> omega

/-- While the trials fail and more attempts are allowed, each call counts one more. -/
theorem attempt_count {x : Call × σ} {b : Nat} (hx : x.1.retries.attempt.toNat = 1)
    (hb : x.1.retries.policy.maxAttempts.toNat = b) :
    ∀ {i : Nat}, 1 ≤ i → i ≤ b → (∀ j, 1 ≤ j → j < i → (e.trials x j).isFailure = true) →
      (e.attempt x i).1.retries.attempt.toNat = i
        ∧ (e.attempt x i).1.retries.policy.maxAttempts.toNat = b
  | 1, _, _, _ => ⟨hx, hb⟩
  | i + 2, _, hib, hf => by
    obtain ⟨ih, ihb⟩ := attempt_count hx hb (i := i + 1) (by omega) (by omega)
      fun j h1 hj => hf j h1 (by omega)
    have hlast := hf (i + 1) (by omega) (by omega)
    have hstep : e.attempt x (i + 2) = e.next (e.attempt x (i + 1)) := by
      simp only [Surroundings.attempt, Nat.add_one_sub_one, Function.iterate_succ_apply']
    rw [hstep]
    unfold Surroundings.trials at hlast
    generalize e.attempt x (i + 1) = y at ih ihb hlast ⊢
    obtain ⟨c, s⟩ := y
    simp only [] at ih ihb
    rcases hp : e.prepare c.request s with ⟨s₁, err | aimed⟩
    · simp [Surroundings.trial, hp, Trial.isFailure] at hlast
    rcases hs : e.send aimed s₁ with ⟨s₂, x | f | _⟩
    · simp [Surroundings.trial, hp, hs, Trial.isFailure] at hlast
    · obtain ⟨d, hd, -, -, hpol, hatt⟩ :=
        Call.afterFailure_of_more (e.draw s₂) (e.now s₂) f (c := c) (by omega)
      simp only [Surroundings.next, hp, hs, hd]
      exact ⟨by rw [hatt, ih], by rw [hpol, ihb]⟩
    · simp [Surroundings.trial, hp, hs, Trial.isFailure] at hlast

end Scan

theorem execute_of_attempts {e : Surroundings σ} {policy : Retry.Policy} {r : Request} {s t : σ}
    {log log' : List Happening} {ending : Ending}
    (h : attempts e.recorded (.start policy r (e.now s)) (s, log) = ((t, log'), ending)) :
    ∃ u, execute e.recorded policy r (s, log) = ((u, log'), ending) := by
  rw [execute, show e.recorded.now (s, log) = e.now s from rfl, h]
  cases ending with
  | answered x => exact ⟨e.finish r x t, rfl⟩
  | crashed => exact ⟨t, rfl⟩

/-- An execution under the policy of some settings is the scan of its trials within the budget of
the settings: the ending is that of the scan, the transport gets as many calls, of which there are
at most as many as the budget, and as long as the trials fail the counter of attempts counts them
without wrapping around. -/
theorem execute_eq_scan (e : Surroundings σ) (settings : Config.RetrySettings) (r : Request)
    (s : σ) :
    let policy := Retry.Policy.ofSettings settings
    let first : Call × σ := (.start policy r (e.now s), s)
    let result := scan r (e.trials first) (budget settings) 1
    (execute e policy r s).2 = result.2
      ∧ (∃ log, execute e.recorded policy r (s, []) = (((execute e policy r s).1, log), result.2)
        ∧ log.countP Happening.isReply = result.1)
      ∧ result.1 ≤ budget settings
      ∧ ∀ i, 1 ≤ i → i ≤ budget settings →
        (∀ j, 1 ≤ j → j < i → (e.trials first j).isFailure = true) →
        (e.attempt first i).1.retries.attempt.toNat = i := by
  intro policy first result
  obtain ⟨t, log, har, hc, hle⟩ := attempts_eq_scan e (e.trials first) first.1 s []
    (Nat.le_refl 1) (budget_pos settings) rfl (maxAttempts_ofSettings settings) rfl
    (fun k => by
      simp only [Surroundings.trials, Surroundings.attempt, Nat.add_sub_cancel_left]
      rfl)
  obtain ⟨u, hu⟩ := execute_of_attempts har
  have he : execute e policy r s = (u, result.2) := by
    rw [execute_of_forgets (forgets_recorded e) policy r (s, []), hu]
    rfl
  exact ⟨congrArg Prod.snd he, ⟨log, by rw [he]; exact hu, hc⟩, hle, fun i h1 hib hf =>
    (attempt_count e (x := first) rfl (maxAttempts_ofSettings settings) h1 hib hf).1⟩

end Switchyard.Dispatch
