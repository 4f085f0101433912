import Switchyard.Proofs.QueueAnswers
import Switchyard.Proofs.QueueRest

/-!
# Draining

A worker leaves only when the channel is closed and empty, and it stays so
(`Pool.isOver_of_run`).  After the signal the workers of a quiet pool have all left unless they
are busy or broken, and what they leave behind is an answer to every request that was taken in,
the result of its own execution (`Service.drains`).
-/

namespace Switchyard.Queue

variable {α β : Type}

theorem Worker.eq_finished {x : Worker α} (hl : x.isLive = false) (hd : x.isDead = false) :
    x = .finished := by
  cases x with
  | finished => rfl
  | dead => cases hd
  | selecting | closing | draining | serving => cases hl

namespace Pool

variable {p q : Pool α β} {g capacity workers : Nat}

theorem isOver_of_run {es : List (Event α β)} (h : p.run es = some q)
    (ho : p.channel.isOver = true) : q.channel.isOver = true :=
  run_keeps (P := fun p => p.channel.isOver = true) (fun ho hs => hs.isOver ho) ho h

/-- In a quiet pool that has been told to stop, workers that are neither busy nor broken have
left. -/
theorem IsQuiet.all_finished (hq : p.IsQuiet) (hw : p.Watchful g) (hst : p.Stopped g)
    (hh : p.held = []) (hd : ∀ x ∈ p.workers, x.isDead = false) :
    ∀ x ∈ p.workers, x = .finished := by
  intro x hx
  rcases hq.worker_cases hw hx with hb | hb | hb | ⟨-, -, hn⟩
  · obtain ⟨t, ht⟩ := Option.isSome_iff_exists.mp hb
    have hmem : t ∈ p.held := List.mem_filterMap.mpr ⟨x, hx, ht⟩
    rw [hh] at hmem
    cases hmem
  · rw [hd x hx] at hb
    cases hb
  · exact hb
  · exact absurd hst hn

/-- Where nothing waits and nobody is busy, everything was answered, and once. -/
theorem Accounted.answered_perm (h : p.Accounted) (hc : p.channel.waiting = [])
    (hh : p.held = []) : p.answeredNumbers.Perm (List.range p.accepted) := by
  have := h.perm
  rwa [waitingNumbers, heldNumbers, hc, hh] at this

end Pool

namespace Service

variable {s t : Service}

/-- What happens in a pool at work is a run of the pool. -/
theorem exists_pool_run : ∀ {es : List Event} {s t : Service}, s.run es = some t →
    ∃ es', s.pool.run es' = some t.pool ∧ ∀ e, .queue e ∈ es → e ∈ es'
  | [], _, _, h => ⟨[], congrArg (Option.map pool) h, fun _ he => nomatch he⟩
  | e :: es, _, _, h => by
    obtain ⟨u, hu, ht⟩ := Option.bind_eq_some_iff.mp h
    obtain ⟨es', hrun, hmem⟩ := exists_pool_run ht
    cases Step.of_step hu with
    | @queue e _ _ hp =>
      refine ⟨e :: es', by rw [Pool.run, hp.step_eq]; exact hrun, fun f hf => ?_⟩
      rcases List.mem_cons.mp hf with hf | hf
      · exact Event.queue.inj hf ▸ List.mem_cons_self
      · exact List.mem_cons_of_mem _ (hmem f hf)
    | happen =>
      exact ⟨es', hrun, fun f hf => hmem f ((List.mem_cons.mp hf).resolve_left (nomatch ·))⟩
    | answer _ _ hp | crash _ _ hp =>
      refine ⟨_ :: es', by rw [Pool.run, hp.step_eq]; exact hrun, fun f hf => ?_⟩
      exact List.mem_cons_of_mem _ (hmem f ((List.mem_cons.mp hf).resolve_left (nomatch ·)))

/-- After the signal a pool without breakdowns drains completely: once nobody is busy and no worker
can move, the channel is closed and empty, all workers have left, and every request that was taken
in was answered, once, with what its own execution ended with.  In any run the channel is closed
and empty as soon as one worker has left, and stays so. -/
theorem drains {policy : Retry.Policy} {capacity workers : Nat} {signal : Signal}
    {es : List Event} (h : (start policy capacity workers signal).run es = some s) :
    ((∀ g ∈ s.log, g.2.isCrash = false) → .queue .signal ∈ es → s.pool.held = [] →
      s.pool.IsQuiet →
        s.pool.channel.isOver = true
          ∧ s.pool.workers = List.replicate (max workers 1) .finished
          ∧ s.pool.answeredNumbers.Perm (List.range s.pool.accepted)
          ∧ ∀ n < s.pool.accepted, ∃ x result, s.pool.requests[n]? = some x
            ∧ (n, .result result) ∈ s.pool.answers
            ∧ Dispatch.Meets policy x.request (s.logOf n) (.answered result))
      ∧ (.finished ∈ s.pool.workers → ∀ es' t, s.run es' = some t →
        t.pool.channel.isClosed = true ∧ t.pool.channel.waiting = []) := by
  have hf : s.Faithful policy := run_keeps Faithful.step (faithful_start _ _ _ _) h
  obtain ⟨es', hrun, hmem⟩ := exists_pool_run h
  have hs : s.pool.Staffed capacity workers :=
    Pool.run_keeps Pool.Staffed.step (Pool.staffed_start _ _ _) hrun
  have hstart := Pool.watchful_start (α := Submission) (β := Result) capacity workers signal
  have hw : s.pool.Watchful signal.sent := Pool.run_keeps Pool.Watchful.step hstart hrun
  refine ⟨fun hcalm hsig hh hq => ?_, fun hfin es t ht => ?_⟩
  · have hnd := hf.undropped hcalm
    have hd : ∀ x ∈ s.pool.workers, x.isDead = false := fun x hx =>
      Bool.eq_false_iff.mpr fun hx' => (hs.dropped x hx hx').elim hnd
    have hall : ∀ x ∈ s.pool.workers, x = .finished := by
      rcases Pool.stopped_of_run hstart hrun (Or.inr ⟨_, hmem _ hsig, rfl⟩) with h0 | hst
      · intro x hx
        exact Worker.eq_finished (Pool.liveWorkers_eq_zero_iff.mp h0 x hx) (hd x hx)
      · exact hq.all_finished hw hst hh hd
    have hover : s.pool.channel.isOver = true := by
      obtain ⟨x, hx⟩ : ∃ x, x ∈ s.pool.workers := List.exists_mem_of_length_pos (by
        rw [hs.count]
        omega)
      exact hs.ended x hx (hall x hx)
    have hperm := hf.accounted.answered_perm (Channel.isOver_iff.mp hover).2 hh
    refine ⟨hover, List.eq_replicate_iff.mpr ⟨hs.count, hall⟩, hperm, fun n hn => ?_⟩
    obtain ⟨⟨m, a⟩, hma, rfl⟩ := List.mem_map.mp (hperm.mem_iff.mpr (List.mem_range.mpr hn))
    cases a with
    | dropped => exact absurd hma (hnd m)
    | result result =>
      obtain ⟨x, hx, hrep⟩ := hf.executed m result hma
      exact ⟨x, result, hx, hma, Dispatch.meets_iff_replay.mpr hrep⟩
  · obtain ⟨es', hrun', -⟩ := exists_pool_run ht
    exact Channel.isOver_iff.mp (Pool.isOver_of_run hrun' (hs.ended _ hfin rfl))

/-- One worker is busy and another request waits when the signal comes, twice. -/
def stoppedAtWork : List Event :=
  [.queue (.submit ⟨"a", .get "/a" "cluster"⟩), .queue (.receive 0),
    .queue (.submit ⟨"b", .get "/b" "cluster"⟩), .queue .signal, .queue .signal,
    .happen 0 (.began .zero), .happen 0 (.prepared (.error (.topologyNotFound "cluster"))),
    .reply 0, .queue (.notice 0), .queue (.close 0), .queue (.receive 0),
    .happen 0 (.began .zero), .happen 0 (.prepared (.error (.topologyNotFound "cluster"))),
    .reply 0, .queue (.leave 0)]

theorem drains_stoppedAtWork : ∃ s, (start .never 1 1 .make).run stoppedAtWork = some s
    ∧ s.pool.channel.isOver = true ∧ s.pool.workers = [.finished]
    ∧ s.pool.answeredNumbers.Perm [0, 1]
    ∧ Dispatch.Meets .never (.get "/b" "cluster") (s.logOf 1)
      (.answered (.error (.topologyNotFound "cluster"))) := by
  obtain ⟨s, hs, hlog, hheld, hfin, hn, ha, hr⟩ : ∃ s,
      (start .never 1 1 .make).run stoppedAtWork = some s
      ∧ (s.log.all fun g => !g.2.isCrash) = true ∧ s.pool.held = []
      ∧ s.pool.workers = [.finished] ∧ s.pool.accepted = 2
      ∧ s.pool.answers = [(0, .result (.error (.topologyNotFound "cluster"))),
        (1, .result (.error (.topologyNotFound "cluster")))]
      ∧ s.pool.requests[1]? = some ⟨"b", .get "/b" "cluster"⟩ :=
    ⟨_, rfl, rfl, rfl, rfl, rfl, rfl, rfl⟩
  have hcalm : ∀ g ∈ s.log, g.2.isCrash = false := by simpa using hlog
  have hq : s.pool.IsQuiet := Pool.isQuiet_of_still fun x hx => by
    rw [hfin, List.mem_singleton] at hx
    exact hx ▸ ⟨rfl, by simp⟩
  obtain ⟨hover, hw, hperm, hres⟩ := (drains hs).1 hcalm (by simp [stoppedAtWork]) hheld hq
  rw [hn] at hperm
  obtain ⟨x, result, hx, hmem, hm⟩ := hres 1 (by omega)
  rw [hr, Option.some.injEq] at hx
  rw [ha] at hmem
  subst hx
  simp only [List.mem_cons, Prod.mk.injEq, Nat.succ_ne_self, false_and, Answer.result.injEq,
    true_and, List.not_mem_nil, or_false, false_or] at hmem
  subst hmem
  exact ⟨s, hs, hover, hw, hperm, hm⟩

end Service

end Switchyard.Queue
