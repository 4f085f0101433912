import Switchyard.Proofs.QueuePlaces
import Switchyard.Proofs.Replay

/-!
# Answers are results of executions

In a pool at work a request is answered with what its own execution ended with
(`Service.Faithful`, kept by every event), and a request is dropped only when a worker has broken
down.  With the place that every request has in the pool, `Service.requests_accounted` says that no
request is lost, answered twice or taken for another.
-/

namespace Switchyard.Dispatch

/-- Whether the transport has broken down. -/
def Happening.isCrash : Happening → Bool
  | .replied .crash _ _ => true
  | _ => false

theorem isCrash_of_after {x : Execution} {h : Happening} (hx : x.after h = some (.ended .crashed)) :
    h.isCrash = true := by
  unfold Execution.after at hx
  split at hx
  case h_5 => rfl
  case h_6 c aimed f draw now =>
    unfold Execution.afterFailure at hx
    split at hx <;> simp at hx
  all_goals simp at hx

/-- An execution ends in a breakdown only if the transport has broken down. -/
theorem isCrash_of_replay : ∀ {hs : List Happening} {x : Execution},
    x.replay hs = some (.ended .crashed) → x = .ended .crashed ∨ ∃ h ∈ hs, h.isCrash = true
  | [], _, hx => Or.inl (Option.some.inj hx)
  | h :: hs, x, hx => by
    obtain ⟨y, hy, hz⟩ := replay_cons hx
    rcases isCrash_of_replay hz with rfl | ⟨g, hg, hc⟩
    · exact Or.inr ⟨h, List.mem_cons_self, isCrash_of_after hy⟩
    · exact Or.inr ⟨g, List.mem_cons_of_mem _ hg, hc⟩

end Switchyard.Dispatch

namespace Switchyard.Queue

namespace Pool

variable {α β : Type} {p q : Pool α β}

/-- Without a worker that is done with its request nothing is answered, and requests stay. -/
theorem Step.answers_eq {e : Event α β} (h : Step p e q) (he : e.isReply = false) :
    q.answers = p.answers
      ∧ ∀ {n : Nat} {a : α}, p.requests[n]? = some a → q.requests[n]? = some a := by
  cases h with
  | accept => exact ⟨rfl, getElem?_append_of_some⟩
  | complete | crash => simp [Event.isReply] at he
  | _ => exact ⟨rfl, id⟩

theorem Step.answers_of_crash {w n : Nat} {b : β} (h : Step p (.crash w) q)
    (hb : (n, .result b) ∈ q.answers) :
    (n, .result b) ∈ p.answers ∧ q.requests = p.requests := by
  cases h with
  | @crash _ t drains hw =>
    rcases closeIfDeserted_cases ((p.reply t.number .dropped).retire w (.dead drains)) with
      ⟨-, hq⟩ | ⟨-, unread, hq⟩
    · rw [hq] at hb ⊢
      exact ⟨by simpa [retire, reply] using hb, rfl⟩
    · rw [hq] at hb ⊢
      exact ⟨by simpa [retire, reply] using hb, rfl⟩

end Pool

namespace Service

open Dispatch (Execution Happening)

theorem logOf_append (s : Service) (n k : Nat) (h : Happening) :
    { s with log := s.log ++ [(k, h)] }.logOf n = s.logOf n ++ if k = n then [h] else [] := by
  by_cases hk : k = n <;> simp [logOf, hk]

/-- Answers are what executions ended with, and nothing is dropped unless one has broken down. -/
structure Faithful (policy : Retry.Policy) (s : Service) : Prop where
  accounted : s.pool.Accounted
  same : s.policy = policy
  executed : ∀ n result, (n, .result result) ∈ s.pool.answers → ∃ x, s.pool.requests[n]? = some x
    ∧ (Execution.ready policy x.request).replay (s.logOf n) = some (.ended (.answered result))
  undropped : (∀ g ∈ s.log, g.2.isCrash = false) → ∀ n, (n, .dropped) ∉ s.pool.answers

variable {policy : Retry.Policy} {s t : Service}

theorem Faithful.request_of_ticketAt (h : s.Faithful policy) {w : Nat} {k : Ticket Submission}
    (hw : s.ticketAt w = some k) : s.pool.requests[k.number]? = some k.payload := by
  obtain ⟨drains, hw⟩ := ticketAt_eq_some_iff.mp hw
  refine h.accounted.payload k (List.mem_append_right _ ?_)
  exact List.mem_filterMap.mpr ⟨_, List.mem_of_getElem? hw, rfl⟩

theorem Faithful.step {e : Event} (h : s.Faithful policy) (hs : Step s e t) :
    t.Faithful policy := by
  cases hs with
  | @queue e pool he hp =>
    obtain ⟨hans, hreq⟩ := hp.answers_eq he
    refine ⟨h.accounted.step hp, h.same, fun n result hn => ?_, fun hc => ?_⟩
    · obtain ⟨x, hx, hrep⟩ := h.executed n result (hans ▸ hn)
      exact ⟨x, hreq hx, hrep⟩
    · simp only [hans]
      exact h.undropped hc
  | @happen w k x y g hw hx hy =>
    refine ⟨h.accounted, h.same, fun n result hn => ?_, fun hc => ?_⟩
    · obtain ⟨z, hz, hrep⟩ := h.executed n result hn
      refine ⟨z, hz, ?_⟩
      have hk : k.number ≠ n := by
        -- nothing can happen any more to an execution that has ended
        rintro rfl
        rw [h.request_of_ticketAt hw, Option.some.injEq] at hz
        rw [execution?, h.same, hz, hrep, Option.some.injEq] at hx
        subst hx
        simp [Execution.after] at hy
      rw [logOf_append, if_neg hk, List.append_nil]
      exact hrep
    · exact h.undropped fun g hg => hc g (List.mem_append_left _ hg)
  | @answer w k result pool hw hx hp =>
    refine ⟨h.accounted.step hp, h.same, fun n r hn => ?_, fun hc n => ?_⟩
    · have hk := h.request_of_ticketAt hw
      rw [execution?, h.same] at hx
      obtain ⟨drains, hw⟩ := ticketAt_eq_some_iff.mp hw
      cases hp with
      | complete hw' =>
        rw [hw, Option.some.injEq, Worker.serving.injEq] at hw'
        obtain ⟨rfl, -⟩ := hw'
        rcases List.mem_append.mp hn with hn | hn
        · exact h.executed n r hn
        · simp only [List.mem_singleton, Prod.mk.injEq, Answer.result.injEq] at hn
          obtain ⟨rfl, rfl⟩ := hn
          exact ⟨_, hk, hx⟩
    · cases hp with
      | complete hw' =>
        intro hn
        rcases List.mem_append.mp hn with hn | hn
        · exact h.undropped hc n hn
        · simp at hn
  | @crash w k pool hw hx hp =>
    refine ⟨h.accounted.step hp, h.same, fun n r hn => ?_, fun hc => ?_⟩
    · obtain ⟨hn, hreq⟩ := hp.answers_of_crash hn
      rw [hreq]
      exact h.executed n r hn
    · exfalso
      rcases Dispatch.isCrash_of_replay hx with hx | ⟨g, hg, hcr⟩
      · cases hx
      · obtain ⟨m, hm, rfl⟩ := List.mem_map.mp hg
        rw [hc m (List.mem_of_mem_filter hm)] at hcr
        cases hcr

theorem faithful_start (policy : Retry.Policy) (capacity workers : Nat) (signal : Signal) :
    (start policy capacity workers signal).Faithful policy where
  accounted := Pool.accounted_start capacity workers signal
  same := rfl
  executed _ _ h := by cases h
  undropped _ _ h := by cases h

/-- The pool at work as it would be if nobody had given up waiting for a request. -/
def asIfWanted (n : Nat) (s : Service) : Service := { s with pool := s.pool.asIfWanted n }

/-- Whether somebody gives up waiting for a request by it. -/
def Event.abandons (n : Nat) : Event → Bool
  | .queue (.abandon k) => k == n
  | _ => false

theorem Step.asIfWanted {e : Event} (n : Nat) (h : Step s e t) (he : e.abandons n = false) :
    Step (s.asIfWanted n) e (t.asIfWanted n) := by
  cases h with
  | queue hr hp =>
    refine .queue hr (hp.asIfWanted n ?_)
    rintro k rfl rfl
    simp [Event.abandons] at he
  | happen hw hx hy => exact .happen (s := s.asIfWanted n) hw hx hy
  | answer hw hx hp =>
    exact .answer (s := s.asIfWanted n) hw hx (hp.asIfWanted n fun _ h => nomatch h)
  | crash hw hx hp =>
    exact .crash (s := s.asIfWanted n) hw hx (hp.asIfWanted n fun _ h => nomatch h)

theorem Step.asIfWanted_eq {e : Event} (n : Nat) (h : Step s e t) (he : e.abandons n = true) :
    t.asIfWanted n = s.asIfWanted n := by
  cases h with
  | queue _ hp =>
    cases hp with
    | abandon k =>
      simp only [Event.abandons, beq_iff_eq] at he
      subst he
      simp only [Service.asIfWanted, Pool.asIfWanted_abandon]
    | _ => cases he
  | _ => cases he

theorem run_asIfWanted (n : Nat) : ∀ {es : List Event} {s t : Service}, s.run es = some t →
    (s.asIfWanted n).run (es.filter fun e => !e.abandons n) = some (t.asIfWanted n)
  | [], _, _, h => congrArg (Option.map _) h
  | e :: es, s, t, h => by
    obtain ⟨u, hu, ht⟩ := Option.bind_eq_some_iff.mp h
    have ih := run_asIfWanted n ht
    have hstep := Step.of_step hu
    cases he : e.abandons n with
    | false =>
      rw [List.filter_cons_of_pos (by simp [he]), run, (hstep.asIfWanted n he).step_eq]
      exact ih
    | true =>
      rw [List.filter_cons_of_neg (by simp [he]), ← hstep.asIfWanted_eq n he]
      exact ih

/-- Whatever happens in a pool at work, of the requests that were taken in each one waits, is with
one worker or was answered, and only one of these and once.  It has stayed what it was, and an
answer is what an execution of that very request ends with, whose happenings are on record.
Workers take requests in the order in which they came.  Unless something breaks down none is
dropped.  Who gives up waiting for an answer makes no difference to anything else. -/
theorem requests_accounted {policy : Retry.Policy} {capacity workers : Nat} {signal : Signal}
    {es : List Event} {s : Service}
    (h : (start policy capacity workers signal).run es = some s) :
    (s.pool.waitingNumbers ++ s.pool.heldNumbers ++ s.pool.answeredNumbers).Perm
        (List.range s.pool.accepted)
      ∧ (∀ t ∈ s.pool.channel.waiting ++ s.pool.held, s.pool.requests[t.number]? = some t.payload)
      ∧ (∀ n result, (n, .result result) ∈ s.pool.answers → ∃ x, s.pool.requests[n]? = some x
        ∧ Dispatch.Meets policy x.request (s.logOf n) (.answered result))
      ∧ s.pool.received ++ s.pool.waitingNumbers <+: List.range s.pool.accepted
      ∧ ((∀ g ∈ s.log, g.2.isCrash = false) → (∀ n, (n, .dropped) ∉ s.pool.answers)
        ∧ s.pool.received ++ s.pool.waitingNumbers = List.range s.pool.accepted)
      ∧ ∀ n, (start policy capacity workers signal).run (es.filter fun e => !e.abandons n)
        = some (s.asIfWanted n) := by
  have hs : s.Faithful policy := run_keeps Faithful.step (faithful_start _ _ _ _) h
  refine ⟨?_, hs.accounted.payload, fun n result hn => ?_, hs.accounted.order, fun hc => ?_,
    fun n => run_asIfWanted n h⟩
  · rw [List.perm_iff_count]
    intro n
    rw [List.count_append, List.count_append, hs.accounted.places n]
  · obtain ⟨x, hx, hrep⟩ := hs.executed n result hn
    exact ⟨x, hx, Dispatch.meets_iff_replay.mpr hrep⟩
  · have hd := hs.undropped hc
    exact ⟨hd, hs.accounted.all.resolve_right fun ⟨_, n, hn⟩ => hd n hn⟩

/-- Two workers take two of three requests; the second one is done with the first, for whose answer
nobody waits any more. -/
def twoAtWork : List Event :=
  [.queue (.submit ⟨"a", .get "/a" "cluster"⟩), .queue (.submit ⟨"b", .get "/b" "cluster"⟩),
    .queue (.submit ⟨"c", .get "/c" "cluster"⟩), .queue (.receive 1), .queue (.receive 0),
    .queue (.abandon 0), .happen 1 (.began .zero),
    .happen 1 (.prepared (.error (.topologyNotFound "cluster"))), .reply 1]

theorem requests_accounted_two : ∃ s, (start .never 4 2 .make).run twoAtWork = some s
    ∧ s.pool.waitingNumbers = [2] ∧ s.pool.heldNumbers = [1] ∧ s.pool.unread = [0]
    ∧ Dispatch.Meets .never (.get "/a" "cluster") (s.logOf 0)
      (.answered (.error (.topologyNotFound "cluster")))
    ∧ (start .never 4 2 .make).run (twoAtWork.filter fun e => !e.abandons 0)
      = some (s.asIfWanted 0) := by
  obtain ⟨s, hs, hw, hh, hu, ha, hr⟩ : ∃ s, (start .never 4 2 .make).run twoAtWork = some s
      ∧ s.pool.waitingNumbers = [2] ∧ s.pool.heldNumbers = [1] ∧ s.pool.unread = [0]
      ∧ s.pool.answers = [(0, .result (.error (.topologyNotFound "cluster")))]
      ∧ s.pool.requests[0]? = some ⟨"a", .get "/a" "cluster"⟩ :=
    ⟨_, rfl, rfl, rfl, rfl, rfl, rfl⟩
  obtain ⟨-, -, hres, -, -, hwant⟩ := requests_accounted hs
  obtain ⟨x, hx, hm⟩ := hres 0 _ (ha ▸ List.mem_singleton_self _)
  rw [hr, Option.some.injEq] at hx
  subst hx
  exact ⟨s, hs, hw, hh, hu, hm, hwant 0⟩

end Service

end Switchyard.Queue
