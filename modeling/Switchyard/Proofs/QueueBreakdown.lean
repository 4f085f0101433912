import Switchyard.Proofs.QueueRest

/-!
# Breakdowns

A breakdown costs the pool a worker for good and drops the request that the worker had.  The other
requests are not touched, until the last worker breaks down: then the channel is closed, and what
waits in it is dropped as well (`Pool.crashes_cost_workers`).
-/

namespace Switchyard.Queue

variable {α β : Type}

def Answer.isDropped : Answer β → Bool
  | .dropped => true
  | .result _ => false

/-- The requests that were dropped. -/
def droppedOf (answers : List (Nat × Answer β)) : List Nat :=
  (answers.filter (·.2.isDropped)).map (·.1)

theorem droppedOf_append (xs ys : List (Nat × Answer β)) :
    droppedOf (xs ++ ys) = droppedOf xs ++ droppedOf ys := by
  simp only [droppedOf, List.filter_append, List.map_append]

theorem droppedOf_dropped : ∀ ts : List (Ticket α),
    droppedOf (ts.map fun t => (t.number, (.dropped : Answer β))) = ts.map (·.number)
  | [] => rfl
  | t :: ts => congrArg (t.number :: ·) (droppedOf_dropped ts)

namespace Pool

/-- The request that a worker breaks down on by an event. -/
def brokenBy (p : Pool α β) : Event α β → List Nat
  | .crash w => (((p.workers[w]?).bind Worker.ticket?).map (·.number)).toList
  | _ => []

/-- The requests that workers break down on in a run, the latest last. -/
def brokenIn (p : Pool α β) : List (Event α β) → List Nat
  | [] => []
  | e :: es =>
    p.brokenBy e ++ match p.step e with
      | some q => q.brokenIn es
      | none => []

/-- The requests that were dropped, the latest last. -/
def droppedNumbers (p : Pool α β) : List Nat := droppedOf p.answers

variable {p q : Pool α β} {e : Event α β} {g : Nat} {broken : List Nat}

theorem brokenBy_crash {w : Nat} {t : Ticket α} {drains : Bool}
    (hw : p.workers[w]? = some (.serving t drains)) :
    p.brokenBy (.crash w) = [t.number] := by
  simp [brokenBy, hw, Worker.ticket?]

theorem brokenBy_of_calm (p : Pool α β) (he : e.isCrash = false) : p.brokenBy e = [] := by
  cases e with
  | crash => cases he
  | _ => rfl

theorem length_brokenBy (hs : Step p e q) :
    (p.brokenBy e).length = if e.isCrash then 1 else 0 := by
  cases hs with
  | crash hw =>
    rw [brokenBy_crash hw]
    rfl
  | _ => rfl

theorem brokenIn_cons (hs : Step p e q) (es : List (Event α β)) :
    p.brokenIn (e :: es) = p.brokenBy e ++ q.brokenIn es := by
  rw [brokenIn, hs.step_eq]

theorem length_brokenIn : ∀ {es : List (Event α β)} {p q : Pool α β}, p.run es = some q →
    (p.brokenIn es).length = es.countP Event.isCrash
  | [], _, _, _ => rfl
  | e :: es, _, _, h => by
    obtain ⟨r, hr, hq⟩ := run_cons_eq_some h
    rw [brokenIn_cons hr, List.length_append, length_brokenIn hq, length_brokenBy hr,
      List.countP_cons]
    omega

/-- What was dropped beside the requests that workers broke down on: nothing as long as a worker
lives, and what nobody has taken when none does. -/
def Lost (broken : List Nat) (p : Pool α β) : Prop := ∃ rest,
  p.droppedNumbers = broken ++ rest
    ∧ p.received ++ p.waitingNumbers ++ rest = List.range p.accepted
    ∧ (p.liveWorkers ≠ 0 → rest = [])

theorem Lost.of_live (h : p.Lost broken) (hl : p.liveWorkers ≠ 0) :
    p.droppedNumbers = broken ∧ p.received ++ p.waitingNumbers = List.range p.accepted := by
  obtain ⟨rest, hd, ho, hr⟩ := h
  rw [hr hl, List.append_nil] at hd ho
  exact ⟨hd, ho⟩

theorem lost_of_taken (hd : p.droppedNumbers = broken)
    (ho : p.received ++ p.waitingNumbers = List.range p.accepted) : p.Lost broken :=
  ⟨[], by rw [hd, List.append_nil], by rw [ho, List.append_nil], fun _ => rfl⟩

theorem Lost.crash {w : Nat} {t : Ticket α} {drains : Bool} (h : p.Lost broken)
    (hw : p.workers[w]? = some (.serving t drains)) :
    ((p.reply t.number .dropped).retire w (.dead drains)).closeIfDeserted.Lost
      (broken ++ [t.number]) := by
  obtain ⟨hd, ho⟩ := h.of_live (liveWorkers_ne_zero hw rfl)
  generalize hr : (p.reply t.number .dropped).retire w (.dead drains) = r
  have hdr : r.droppedNumbers = broken ++ [t.number] := by
    rw [← hd, ← hr]
    exact droppedOf_append p.answers _
  have hor : r.received ++ r.waitingNumbers = List.range r.accepted := hr ▸ ho
  rcases r.closeIfDeserted_cases with ⟨-, hq⟩ | ⟨hl, u, hq⟩ <;> rw [hq]
  · exact lost_of_taken hdr hor
  · refine ⟨r.waitingNumbers, ?_, ?_, fun hn => absurd hl hn⟩
    · rw [droppedNumbers, droppedOf_append, droppedOf_dropped]
      exact congrArg (· ++ r.waitingNumbers) hdr
    · rw [waitingNumbers, List.map_nil, List.append_nil]
      exact hor

theorem Lost.step_of_calm (h : p.Lost broken) (hw : p.Watchful g) (hs : Step p e q)
    (he : e.isCrash = false) : q.Lost broken := by
  cases hs with
  | accept ho =>
    obtain ⟨hopen, -, rfl⟩ := Channel.offer_eq_ok_iff.mp ho
    have hl : p.liveWorkers ≠ 0 := fun h0 => by
      rw [hw.deserted h0] at hopen
      cases hopen
    obtain ⟨hd, ho⟩ := h.of_live hl
    refine lost_of_taken hd ?_
    simp only [waitingNumbers, accepted, List.map_append, List.map_singleton, List.length_append,
      List.length_singleton, List.range_succ, ← List.append_assoc] at ho ⊢
    rw [ho]
  | receive hw' hwait =>
    obtain ⟨hd, ho⟩ := h.of_live (liveWorkers_ne_zero hw' (Worker.isLive_ready _))
    refine lost_of_taken hd ?_
    rw [waitingNumbers, hwait, List.map_cons, List.append_cons] at ho
    exact ho
  | notice hw' | close hw' =>
    obtain ⟨hd, ho⟩ := h.of_live (liveWorkers_ne_zero hw' rfl)
    exact lost_of_taken hd ho
  | complete hw' =>
    obtain ⟨hd, ho⟩ := h.of_live (liveWorkers_ne_zero hw' rfl)
    refine lost_of_taken ((droppedOf_append p.answers _).trans ?_) ho
    exact (List.append_nil _).trans hd
  | crash => cases he
  | leave hw' =>
    obtain ⟨hd, ho⟩ := h.of_live (liveWorkers_ne_zero hw' (Worker.isLive_ready _))
    exact lost_of_taken hd ho
  | _ => exact h

theorem Lost.step (h : p.Lost broken) (hw : p.Watchful g) (hs : Step p e q) :
    q.Lost (broken ++ p.brokenBy e) := by
  cases he : e.isCrash with
  | false =>
    rw [brokenBy_of_calm p he, List.append_nil]
    exact h.step_of_calm hw hs he
  | true =>
    cases hs with
    | crash hw' =>
      rw [brokenBy_crash hw']
      exact h.crash hw'
    | _ => cases he

theorem lost_of_run : ∀ {es : List (Event α β)} {p q : Pool α β} {broken : List Nat},
    p.Watchful g → p.Lost broken → p.run es = some q → q.Lost (broken ++ p.brokenIn es)
  | [], _, _, _, _, hl, h => by
    obtain rfl := Option.some.inj h
    rwa [brokenIn, List.append_nil]
  | e :: es, _, _, _, hw, hl, h => by
    obtain ⟨r, hr, hq⟩ := run_cons_eq_some h
    have := lost_of_run (hw.step hr) (hl.step hw hr) hq
    rwa [List.append_assoc, ← brokenIn_cons hr] at this

theorem lost_start (capacity workers : Nat) (signal : Signal) :
    (start capacity workers signal : Pool α β).Lost [] := lost_of_taken rfl rfl

/-- Who has left was told to, or had nobody to wait for. -/
def Dismissed (g : Nat) (p : Pool α β) : Prop :=
  ∀ x ∈ p.workers, x = .finished → p.Stopped g ∨ p.channel.producers = 0

theorem Step.producers_eq_zero (hs : Step p e q) (h : p.channel.producers = 0) :
    q.channel.producers = 0 := by
  cases hs with
  | accept ho =>
    obtain ⟨-, -, rfl⟩ := Channel.offer_eq_ok_iff.mp ho
    exact h
  | addProducer hp | dropProducer hp => exact absurd h hp
  | crash => exact (producers_closeIfDeserted _).trans h
  | _ => exact h

theorem Dismissed.step (h : p.Dismissed g) (hw : p.Watchful g) (hs : Step p e q) :
    q.Dismissed g := by
  rintro _ hx rfl
  rcases hs.finished_cases hx with hp | ⟨hl, ho⟩
  · exact (h _ hp rfl).imp (·.step hs) hs.producers_eq_zero
  · have hc := (Channel.isOver_iff.mp ho).1
    rw [Channel.isClosed, Bool.or_eq_true, beq_iff_eq] at hc
    exact hc.imp (fun hshut => ((hw.shut hshut).resolve_left hl).1.step hs) hs.producers_eq_zero

theorem dismissed_start (capacity workers : Nat) (signal : Signal) :
    (start capacity workers signal : Pool α β).Dismissed signal.sent := fun x hx hf => by
  cases (List.eq_of_mem_replicate hx).symm.trans hf

/-- Before a stop, and with somebody to wait for, workers live until they break down. -/
theorem Dismissed.live_add_dead (h : p.Dismissed g) (hst : ¬ p.Stopped g)
    (hp : p.channel.producers ≠ 0) :
    p.liveWorkers + p.workers.countP Worker.isDead = p.workers.length := by
  have hlive : ∀ x ∈ p.workers, x.isLive = true ↔ (!x.isDead) = true := by
    intro x hx
    cases x with
    | finished => exact ((h _ hx rfl).elim hst hp).elim
    | selecting | closing | draining | serving | dead => simp [Worker.isLive, Worker.isDead]
  rw [liveWorkers, List.countP_congr hlive, Nat.add_comm,
    List.length_eq_countP_add_countP Worker.isDead]
  simp only [Bool.not_eq_true, Bool.decide_eq_false]

/-- As long as nobody gives the signal and there is somebody to wait for, a pool has lost one
worker for each breakdown, and refuses requests for good just if all have broken down.  What was
dropped are the requests that workers broke down on, one each, and, when no worker is left, those
that nobody has taken. -/
theorem crashes_cost_workers {capacity workers : Nat} {signal : Signal} {es : List (Event α β)}
    (hs : signal.ended = false) (h : (start capacity workers signal).run es = some p)
    (hstop : ∀ e ∈ es, e.isStop = false) (hp : p.channel.producers ≠ 0) :
    p.liveWorkers + es.countP Event.isCrash = max workers 1
      ∧ (∀ a, p.submit a = .error .closed ↔ es.countP Event.isCrash = max workers 1)
      ∧ ((start capacity workers signal).brokenIn es).length = es.countP Event.isCrash
      ∧ ∃ rest, p.droppedNumbers = (start capacity workers signal).brokenIn es ++ rest
        ∧ p.received ++ p.waitingNumbers ++ rest = List.range p.accepted
        ∧ (es.countP Event.isCrash ≠ max workers 1 → rest = []) := by
  have hstart := watchful_start (α := α) (β := β) capacity workers signal
  have hw : p.Watchful signal.sent := run_keeps Watchful.step hstart h
  have hst : ¬ p.Stopped signal.sent := fun hst => by
    obtain ⟨e, he, hstop'⟩ := exists_isStop hs h hst
    rw [hstop e he] at hstop'
    cases hstop'
  have hd : p.Dismissed signal.sent := (run_keeps (P := fun p => p.Watchful _ ∧ p.Dismissed _)
    (fun hp hs => ⟨hp.1.step hs, hp.2.step hp.1 hs⟩) ⟨hstart, dismissed_start _ _ _⟩ h).2
  have hstaff : p.Staffed capacity workers := run_keeps Staffed.step (staffed_start _ _ _) h
  have hlive : p.liveWorkers + es.countP Event.isCrash = max workers 1 := by
    rw [← hstaff.count, ← hd.live_add_dead hst hp, deadWorkers_of_run h, deadWorkers_start,
      Nat.zero_add]
  have hclosed : p.channel.isClosed = true ↔ p.liveWorkers = 0 := by
    refine ⟨fun hc => ?_, hw.deserted⟩
    have hshut : p.channel.shut = true := by simpa [Channel.isClosed, hp] using hc
    exact (hw.shut hshut).resolve_right fun h => hst h.1
  refine ⟨hlive, fun a => ?_, length_brokenIn h, ?_⟩
  · rw [submit_eq_error_iff, offer, Channel.offer_eq_closed_iff, hclosed]
    omega
  · obtain ⟨rest, hdrop, horder, hrest⟩ := lost_of_run hstart (lost_start _ _ _) h
    exact ⟨rest, hdrop, horder, fun hne => hrest (by omega)⟩

/-- The only worker breaks down on the first of two requests: the other one is dropped as well, and
no more are taken in. -/
theorem crashes_cost_workers_last : ∃ p : Pool Nat Nat,
    (start 4 1 .make).run [.submit 7, .submit 8, .receive 0, .crash 0] = some p
      ∧ p.liveWorkers = 0 ∧ p.submit 9 = .error .closed ∧ p.droppedNumbers = [0, 1] := by
  obtain ⟨p, hp, hn, hb, hr⟩ : ∃ p : Pool Nat Nat,
      (start 4 1 .make).run [.submit 7, .submit 8, .receive 0, .crash 0] = some p
        ∧ p.channel.producers = 1
        ∧ (start 4 1 .make : Pool Nat Nat).brokenIn [.submit 7, .submit 8, .receive 0, .crash 0]
          = [0]
        ∧ p.received = [0] ∧ p.waitingNumbers = [] ∧ p.accepted = 2 :=
    ⟨_, rfl, rfl, rfl, rfl, rfl, rfl⟩
  obtain ⟨hlive, hclosed, -, rest, hdrop, horder, -⟩ :=
    crashes_cost_workers rfl hp (by simp [Event.isStop]) (by omega)
  rw [hr.1, hr.2.1, hr.2.2] at horder
  have hrest : rest = [1] := List.cons.inj horder |>.2
  refine ⟨p, hp, by simpa [Event.isCrash] using hlive, (hclosed 9).mpr rfl, ?_⟩
  rw [hdrop, hb, hrest]
  rfl

end Pool

end Switchyard.Queue
