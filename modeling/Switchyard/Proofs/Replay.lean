import Switchyard.Proofs.Attempts

/-!
# Executions step by step are executions

The happenings that an execution meets are those that it can be taken through step by step, to the
same ending (`meets_iff_replay`).  One way the record of the attempts is replayed; the other way
the happenings are a script for surroundings that do just that.
-/

namespace Switchyard.Dispatch

open Http (Request)

variable {σ : Type}

theorem replay_of_ended {a b : Ending} :
    ∀ {hs : List Happening}, (Execution.ended a).replay hs = some (.ended b) → hs = [] ∧ a = b
  | [], h => by
    simp only [Execution.replay, Option.some.injEq, Execution.ended.injEq] at h
    exact ⟨rfl, h⟩
  | _ :: _, h => by simp at h

theorem replay_cons {x z : Execution} {h : Happening} {hs : List Happening}
    (hx : x.replay (h :: hs) = some z) : ∃ y, x.after h = some y ∧ y.replay hs = some z :=
  Option.bind_eq_some_iff.mp hx

/-- What the attempts leave on record takes the execution to their ending. -/
theorem replay_of_attempts (e : Surroundings σ) (c : Call) (s : σ) (log : List Happening) :
    ∃ t hs ending, attempts e.recorded c (s, log) = ((t, log ++ hs), ending)
      ∧ (Execution.preparing c).replay hs = some (.ended ending) := by
  rcases hp : e.prepare c.request s with ⟨s₁, err | aimed⟩
  · exact ⟨s₁, _, _, attempts_of_unprepared (prepare_recorded hp log), rfl⟩
  have hpr := prepare_recorded hp log
  rcases hs : e.send aimed s₁ with ⟨s₂, reply⟩
  have hsr := send_recorded hs (log ++ [.prepared (.ok aimed)])
  rw [List.append_assoc] at hsr
  rcases reply with x | f | _
  · exact ⟨s₂, _, _, attempts_of_response hpr hsr, rfl⟩
  · rcases ha : c.afterFailure (e.draw s₂) (e.now s₂) f with err | d
    · refine ⟨s₂, _, _, attempts_of_spent hpr hsr ha, ?_⟩
      simp [Execution.replay, Execution.after, Execution.afterFailure, ha]
    · obtain ⟨t, hs', ending, hat, hrep⟩ := replay_of_attempts e d
        (e.wait d.request d.retries.delay s₂)
        (log ++ ([.prepared (.ok aimed)] ++ [.replied (.failure f) (e.draw s₂) (e.now s₂)])
          ++ [.rested])
      refine ⟨t, .prepared (.ok aimed) :: .replied (.failure f) (e.draw s₂) (e.now s₂)
        :: .rested :: hs', ending, ?_, ?_⟩
      · rw [attempts_of_retry hpr hsr ha, wait_recorded, hat]
        simp only [List.append_assoc, List.cons_append, List.nil_append]
      · simpa [Execution.replay, Execution.after, Execution.afterFailure, ha] using hrep
  · exact ⟨s₂, _, _, attempts_of_crash hpr hsr, rfl⟩
termination_by c.retries.left
decreasing_by exact Call.left_afterFailure ha

/-- Surroundings that do what a script says, as far as it goes, with the random number and the time
of the last reply. -/
structure Script where
  rest : List Happening
  draw : Nat
  now : Span

def Script.surroundings : Surroundings Script where
  prepare _ s :=
    match s.rest with
    | .prepared result :: hs => ({ s with rest := hs }, result)
    | _ => (s, .error (.configuration ""))
  send _ s :=
    match s.rest with
    | .replied reply draw now :: hs => (⟨hs, draw, now⟩, reply)
    | _ => (s, .crash)
  wait _ _ s := { s with rest := s.rest.tail }
  now s := s.now
  draw s := s.draw
  finish _ _ s := s

theorem prepare_script (r : Request) (result : Except Error Request) (hs : List Happening)
    (draw : Nat) (now : Span) : Script.surroundings.prepare r ⟨.prepared result :: hs, draw, now⟩
      = (⟨hs, draw, now⟩, result) := rfl

theorem send_script (r : Request) (reply : Reply) (d : Nat) (t : Span) (hs : List Happening)
    (draw : Nat) (now : Span) :
    Script.surroundings.send r ⟨.replied reply d t :: hs, draw, now⟩ = (⟨hs, d, t⟩, reply) := rfl

theorem wait_script (r : Request) (delay : Span) (h : Happening) (hs : List Happening)
    (draw : Nat) (now : Span) :
    Script.surroundings.wait r delay ⟨h :: hs, draw, now⟩ = ⟨hs, draw, now⟩ := rfl

/-- Happenings that take the execution to an ending are a script of attempts that end like this. -/
theorem attempts_of_replay {c : Call} {hs : List Happening} {ending : Ending}
    (h : (Execution.preparing c).replay hs = some (.ended ending)) (draw : Nat) (now : Span)
    (log : List Happening) :
    ∃ t, attempts Script.surroundings.recorded c (⟨hs, draw, now⟩, log)
      = ((t, log ++ hs), ending) := by
  rcases hs with _ | ⟨h₁, hs⟩
  · simp [Execution.replay] at h
  obtain ⟨y, hy, h⟩ := replay_cons h
  rcases h₁ with _ | (err | aimed) | _ | _ <;> simp only [Execution.after, reduceCtorEq,
    Option.some.injEq] at hy <;> subst hy
  · obtain ⟨rfl, rfl⟩ := replay_of_ended h
    exact ⟨_, attempts_of_unprepared (prepare_recorded (prepare_script _ _ _ _ _) log)⟩
  have hpr := prepare_recorded (prepare_script c.request (.ok aimed) hs draw now) log
  rcases hs with _ | ⟨h₂, hs⟩
  · simp [Execution.replay] at h
  obtain ⟨y, hy, h⟩ := replay_cons h
  rcases h₂ with _ | _ | ⟨reply, draw', now'⟩ | _ <;>
    simp only [Execution.after, reduceCtorEq] at hy
  have hsr : Script.surroundings.recorded.send aimed
      (⟨.replied reply draw' now' :: hs, draw, now⟩, log ++ [.prepared (.ok aimed)])
      = ((⟨hs, draw', now'⟩, log ++ ([.prepared (.ok aimed)] ++ [.replied reply draw' now'])),
        reply) := by
    rw [send_recorded (send_script aimed reply draw' now' hs draw now), List.append_assoc]
    rfl
  rcases reply with x | f | _
  · simp only [Option.some.injEq] at hy
    subst hy
    obtain ⟨rfl, rfl⟩ := replay_of_ended h
    exact ⟨_, attempts_of_response hpr hsr⟩
  · rcases ha : c.afterFailure draw' now' f with err | d <;>
      simp only [Execution.afterFailure, ha, Option.some.injEq] at hy <;>
      subst hy
    · obtain ⟨rfl, rfl⟩ := replay_of_ended h
      exact ⟨_, attempts_of_spent hpr hsr ha⟩
    rcases hs with _ | ⟨h₃, hs⟩
    · simp [Execution.replay] at h
    obtain ⟨y, hy, h⟩ := replay_cons h
    rcases h₃ with _ | _ | _ | _ <;> simp only [Execution.after, reduceCtorEq,
      Option.some.injEq] at hy
    subst hy
    obtain ⟨t, ht⟩ := attempts_of_replay h draw' now'
      (log ++ ([.prepared (.ok aimed)] ++ [.replied (.failure f) draw' now']) ++ [.rested])
    refine ⟨t, ?_⟩
    rw [attempts_of_retry hpr hsr ha, wait_recorded, wait_script]
    rw [ht]
    simp only [List.append_assoc, List.cons_append, List.nil_append]
  · simp only [Option.some.injEq] at hy
    subst hy
    obtain ⟨rfl, rfl⟩ := replay_of_ended h
    exact ⟨_, attempts_of_crash hpr hsr⟩
termination_by c.retries.left
decreasing_by exact Call.left_afterFailure ha

/-- An execution meets just the happenings that it can be taken through. -/
theorem meets_iff_replay {policy : Retry.Policy} {r : Request} {log : List Happening}
    {ending : Ending} :
    Meets policy r log ending ↔ (Execution.ready policy r).replay log = some (.ended ending) := by
  constructor
  · rintro ⟨σ, e, s, t, h⟩
    obtain ⟨u, hs, ending', hat, hrep⟩ := replay_of_attempts e
      (.start policy r (e.now s)) s [.began (e.now s)]
    obtain ⟨v, hv⟩ := execute_of_attempts hat
    rw [hv] at h
    simp only [Prod.mk.injEq] at h
    obtain ⟨⟨-, rfl⟩, rfl⟩ := h
    exact hrep
  · intro h
    rcases log with _ | ⟨h₁, hs⟩
    · simp [Execution.replay] at h
    obtain ⟨y, hy, h⟩ := replay_cons h
    rcases h₁ with now | _ | _ | _ <;> simp only [Execution.after, reduceCtorEq,
      Option.some.injEq] at hy
    subst hy
    obtain ⟨t, ht⟩ := attempts_of_replay h 0 now [.began now]
    obtain ⟨v, hv⟩ := execute_of_attempts (e := Script.surroundings) (s := ⟨hs, 0, now⟩) ht
    exact ⟨Script, Script.surroundings, ⟨hs, 0, now⟩, v, hv⟩

end Switchyard.Dispatch
