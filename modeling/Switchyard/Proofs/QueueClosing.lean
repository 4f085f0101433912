import Switchyard.Proofs.QueueStep

/-!
# When the channel is closed

A pool is quiet when no worker can move before an answer comes.  In a quiet pool that has been told
to stop the channel is closed unless every worker is held up by the request that it answers, or has
broken down on it, since before it could see the signal (`Pool.submit_closed_iff`): closing is up
to a worker that waits for requests.
-/

namespace Switchyard.Queue

variable {α β : Type}

theorem forall_mem_set {γ : Type} {P : γ → Prop} {xs : List γ} {i : Nat} {a b : γ}
    (hi : xs[i]? = some a) (hab : P a → P b) (h : ∀ x ∈ xs, P x) : ∀ x ∈ xs.set i b, P x := by
  intro x hx
  rcases List.mem_or_eq_of_mem_set hx with hx | rfl
  · exact h x hx
  · exact hab (h a (List.mem_of_getElem? hi))

theorem exists_mem_set {γ : Type} {P : γ → Prop} {xs : List γ} {i : Nat} {a b : γ}
    (hi : xs[i]? = some a) (hab : P a → P b) (h : ∃ x ∈ xs, P x) : ∃ x ∈ xs.set i b, P x := by
  obtain ⟨x, hx, hP⟩ := h
  obtain ⟨j, hj⟩ := List.mem_iff_getElem?.mp hx
  have hlt := (List.getElem?_eq_some_iff.mp hi).1
  by_cases hij : i = j
  · subst hij
    rw [hi, Option.some.injEq] at hj
    exact ⟨b, List.mem_set hlt b, hab (hj ▸ hP)⟩
  · refine ⟨x, List.mem_of_getElem? (i := j) ?_, hP⟩
    rw [List.getElem?_set_ne hij, hj]

/-- Whether it is to bring a worker to a stop. -/
def Event.isStop : Event α β → Bool
  | .signal | .endSignal => true
  | _ => false

/-- Whether it is the move of a worker that need not wait for an answer. -/
def Event.isMove : Event α β → Bool
  | .acquire _ | .receive _ | .notice _ | .close _ | .leave _ => true
  | _ => false

namespace Worker

/-- It has not seen the signal, and may see it yet. -/
def listens : Worker α → Bool
  | .selecting | .serving _ false => true
  | _ => false

/-- It has seen the signal. -/
def hasHeard : Worker α → Bool
  | .closing | .draining | .serving _ true | .dead true => true
  | _ => false

/-- It has found the channel closed, or closed it. -/
def isPast : Worker α → Bool
  | .draining | .serving _ true | .dead true | .finished => true
  | _ => false

/-- It has a request, or broke down on one, that it took before it could see the signal. -/
def isHeldUp : Worker α → Bool
  | .serving _ false | .dead false => true
  | _ => false

variable (t : Ticket α) (drains : Bool)

@[simp] theorem listens_serving : (serving t drains).listens = !drains := by cases drains <;> rfl

@[simp] theorem listens_ready : (ready drains : Worker α).listens = !drains := by
  cases drains <;> rfl

@[simp] theorem hasHeard_serving : (serving t drains).hasHeard = drains := by cases drains <;> rfl

@[simp] theorem hasHeard_ready : (ready drains : Worker α).hasHeard = drains := by
  cases drains <;> rfl

@[simp] theorem hasHeard_dead : (dead drains : Worker α).hasHeard = drains := by
  cases drains <;> rfl

@[simp] theorem isPast_serving : (serving t drains).isPast = drains := by cases drains <;> rfl

@[simp] theorem isPast_ready : (ready drains : Worker α).isPast = drains := by cases drains <;> rfl

@[simp] theorem isPast_dead : (dead drains : Worker α).isPast = drains := by cases drains <;> rfl

@[simp] theorem isHeldUp_serving : (serving t drains).isHeldUp = !drains := by cases drains <;> rfl

@[simp] theorem isHeldUp_dead : (dead drains : Worker α).isHeldUp = !drains := by
  cases drains <;> rfl

theorem isHeldUp_of_isPast {x : Worker α} (h : x.isPast = true) : x.isHeldUp = false := by
  cases x with
  | serving | dead => simpa using h
  | draining | finished => rfl
  | selecting | closing => cases h

end Worker

namespace Pool

variable {p q : Pool α β} {e : Event α β}

/-- No worker can move. -/
def IsQuiet (p : Pool α β) : Prop := ∀ e : Event α β, e.isMove = true → p.step e = none

/-- Whether the signal has come, or cannot come any more, since `g` signals. -/
def Stopped (g : Nat) (p : Pool α β) : Prop := g < p.signal.sent ∨ p.signal.ended = true

section Deserted

@[simp] theorem workers_closeIfDeserted (p : Pool α β) : p.closeIfDeserted.workers = p.workers := by
  rcases p.closeIfDeserted_cases with ⟨-, h⟩ | ⟨-, u, h⟩ <;> rw [h]

@[simp] theorem holder_closeIfDeserted (p : Pool α β) : p.closeIfDeserted.holder = p.holder := by
  rcases p.closeIfDeserted_cases with ⟨-, h⟩ | ⟨-, u, h⟩ <;> rw [h]

@[simp] theorem signal_closeIfDeserted (p : Pool α β) : p.closeIfDeserted.signal = p.signal := by
  rcases p.closeIfDeserted_cases with ⟨-, h⟩ | ⟨-, u, h⟩ <;> rw [h]

@[simp] theorem firstReceiver_closeIfDeserted (p : Pool α β) :
    p.closeIfDeserted.firstReceiver = p.firstReceiver := by
  rcases p.closeIfDeserted_cases with ⟨-, h⟩ | ⟨-, u, h⟩ <;> rw [h]

theorem isClosed_closeIfDeserted (h : p.channel.isClosed = true) :
    p.closeIfDeserted.channel.isClosed = true := by
  rcases p.closeIfDeserted_cases with ⟨-, hq⟩ | ⟨-, u, hq⟩ <;> rw [hq]
  · exact h
  · rfl

end Deserted

theorem Step.holder_selecting (hs : Step p e q)
    (h : ∀ w, p.holder = some w → p.workers[w]? = some .selecting) :
    ∀ w, q.holder = some w → q.workers[w]? = some .selecting := by
  have hne : ∀ {v x}, p.workers[v]? = some x → x ≠ .selecting → ∀ w, p.holder = some w → v ≠ w := by
    rintro v x hv hx w hw rfl
    rw [h v hw, Option.some.injEq] at hv
    exact hx hv.symm
  cases hs with
  | acquire hw hh =>
    intro v hv
    exact Option.some.inj hv ▸ hw
  | receive | close | leave => intro v hv; simp_all [setWorker, retire]
  | @notice w signal hw hs =>
    intro v hv
    simp only [setWorker, release] at hv ⊢
    split_ifs at hv with hh
    have hvw : w ≠ v := by
      rintro rfl
      exact hh hv
    rw [List.getElem?_set_ne hvw, h v hv]
  | complete hw =>
    intro v hv
    simp only [setWorker, reply] at hv ⊢
    rw [List.getElem?_set_ne (hne hw (by simp) v hv), h v hv]
  | crash hw =>
    intro v hv
    simp only [holder_closeIfDeserted, workers_closeIfDeserted, retire, reply] at hv ⊢
    rw [List.getElem?_set_ne (hne hw (by simp) v hv), h v hv]
  | _ => exact h

/-- Those that may see the signal yet have got what there was at the start. -/
def Subscribed (g : Nat) (p : Pool α β) : Prop := ∀ w x, p.workers[w]? = some x →
  x.listens = true → p.signal.receivers[p.firstReceiver + w]? = some (some g)

theorem Subscribed.update {g w : Nat} {a b : Worker α} (h : p.Subscribed g)
    (hw : p.workers[w]? = some a) (hq : q.workers = p.workers.set w b)
    (hf : q.firstReceiver = p.firstReceiver)
    (hr : ∀ i, p.firstReceiver + w ≠ i → q.signal.receivers[i]? = p.signal.receivers[i]?)
    (hb : b.listens = true → a.listens = true ∧ q.signal = p.signal) : q.Subscribed g := by
  intro v x hv hx
  rw [hq] at hv
  rw [hf]
  by_cases hwv : w = v
  · subst hwv
    rw [List.getElem?_set_self (List.getElem?_eq_some_iff.mp hw).1, Option.some.injEq] at hv
    obtain ⟨ha, hs⟩ := hb (hv ▸ hx)
    rw [hs]
    exact h w a hw ha
  · rw [List.getElem?_set_ne hwv] at hv
    rw [hr _ (by omega)]
    exact h v x hv hx

theorem Subscribed.step {g : Nat} (h : p.Subscribed g) (hs : Step p e q) : q.Subscribed g := by
  cases hs with
  | signal =>
    intro w x hw hx
    simp only [Signal.receivers_trigger]
    exact h w x hw hx
  | @receive w drains t rest hw hc hf =>
    refine h.update hw rfl rfl (fun _ _ => rfl) fun hb => ⟨?_, rfl⟩
    rwa [Worker.listens_serving, ← Worker.listens_ready] at hb
  | notice hw hs =>
    obtain ⟨got, rfl⟩ := Signal.hear?_eq_some hs
    exact h.update hw rfl rfl (fun i hi => List.getElem?_set_ne hi) fun hb => by cases hb
  | close hw hh => exact h.update hw rfl rfl (fun _ _ => rfl) fun hb => by cases hb
  | @complete w t drains b hw =>
    refine h.update hw rfl rfl (fun _ _ => rfl) fun hb => ⟨?_, rfl⟩
    rwa [Worker.listens_ready, ← Worker.listens_serving t] at hb
  | @crash w t drains hw =>
    refine h.update hw (b := .dead drains) (by simp [retire, reply]) (by simp [retire, reply])
      (fun i hi => ?_) ?_
    · simp [retire, reply, Signal.unsubscribe, List.getElem?_set_ne hi]
    · intro hb
      simp [Worker.listens] at hb
  | leave hw hf ho =>
    exact h.update hw rfl rfl (fun i hi => List.getElem?_set_ne hi) fun hb => by cases hb
  | _ => exact h

theorem Step.signal_eq (hs : Step p e q) (he : e.isStop = false) :
    q.signal.sent = p.signal.sent ∧ q.signal.ended = p.signal.ended := by
  cases hs with
  | signal | endSignal => cases he
  | notice hw hs =>
    obtain ⟨got, rfl⟩ := Signal.hear?_eq_some hs
    exact ⟨rfl, rfl⟩
  | crash hw => simp [retire, reply, Signal.unsubscribe]
  | _ => exact ⟨rfl, rfl⟩

theorem Step.sent_le (hs : Step p e q) : p.signal.sent ≤ q.signal.sent := by
  cases he : e.isStop with
  | false => exact Nat.le_of_eq (hs.signal_eq he).1.symm
  | true =>
    cases hs with
    | signal => exact p.signal.sent_le_trigger
    | endSignal => exact Nat.le_refl _
    | _ => cases he

theorem Stopped.step {g : Nat} (h : p.Stopped g) (hs : Step p e q) : q.Stopped g := by
  rcases h with h | h
  · exact Or.inl (Nat.lt_of_lt_of_le h hs.sent_le)
  · refine Or.inr ?_
    cases he : e.isStop with
    | false => exact (hs.signal_eq he).2.trans h
    | true =>
      cases hs with
      | signal => simp [Signal.trigger, h]
      | endSignal => rfl
      | _ => cases he

theorem Step.isClosed (hs : Step p e q) (h : p.channel.isClosed = true) :
    q.channel.isClosed = true := by
  cases hs with
  | accept ho =>
    obtain ⟨hopen, -, -⟩ := Channel.offer_eq_ok_iff.mp ho
    rw [h] at hopen
    cases hopen
  | addProducer hp =>
    simp only [Channel.isClosed, Bool.or_eq_true, beq_iff_eq] at h ⊢
    exact h.imp_right fun h0 => absurd h0 hp
  | dropProducer hp =>
    simp only [Channel.isClosed, Bool.or_eq_true, beq_iff_eq] at h ⊢
    exact h.imp_right fun h0 => absurd h0 hp
  | close => rfl
  | crash hw => exact isClosed_closeIfDeserted h
  | _ => exact h

/-- What holds of a pool whatever has happened, if `g` signals had been sent at its start. -/
structure Watchful (g : Nat) (p : Pool α β) : Prop where
  holder : ∀ w, p.holder = some w → p.workers[w]? = some .selecting
  subscribed : p.Subscribed g
  sent : g ≤ p.signal.sent
  heard : ∀ x ∈ p.workers, x.hasHeard = true → p.Stopped g
  past : ∀ x ∈ p.workers, x.isPast = true → p.channel.isClosed = true
  deserted : p.liveWorkers = 0 → p.channel.isClosed = true
  /-- The channel is closed by a worker that has seen the signal, or when no worker is left. -/
  shut : p.channel.shut = true →
    p.liveWorkers = 0 ∨ p.Stopped g ∧ ∃ x ∈ p.workers, x.isPast = true

variable {g : Nat}

theorem Watchful.stopped_of_hear {w : Nat} (h : p.Watchful g)
    (hw : p.workers[w]? = some .selecting) : (p.hear? w).isSome = true ↔ p.Stopped g :=
  Signal.hear?_isSome_iff (h.subscribed w _ hw rfl)

theorem Watchful.heard_step (h : p.Watchful g) (hs : Step p e q) :
    ∀ x ∈ q.workers, x.hasHeard = true → q.Stopped g := by
  have hst : ∀ x ∈ p.workers, x.hasHeard = true → q.Stopped g := fun x hx hh =>
    (h.heard x hx hh).step hs
  cases hs with
  | receive hw => exact forall_mem_set hw (by simp) hst
  | notice hw hs =>
    refine forall_mem_set hw (fun _ _ => ?_) hst
    exact ((h.stopped_of_hear hw).mp (hs ▸ rfl)).step (.notice hw hs)
  | close hw => exact forall_mem_set hw (fun hc _ => hc rfl) hst
  | complete hw => exact forall_mem_set hw (by simp) hst
  | crash hw =>
    rw [workers_closeIfDeserted]
    exact forall_mem_set hw (by simp) hst
  | leave hw => exact forall_mem_set hw (fun _ hb => by cases hb) hst
  | _ => exact hst

theorem Watchful.past_step (h : p.Watchful g) (hs : Step p e q) :
    ∀ x ∈ q.workers, x.isPast = true → q.channel.isClosed = true := by
  have hcl : ∀ x ∈ p.workers, x.isPast = true → q.channel.isClosed = true := fun x hx hp =>
    hs.isClosed (h.past x hx hp)
  cases hs with
  | receive hw => exact forall_mem_set hw (by simp) hcl
  | notice hw => exact forall_mem_set hw (fun _ hb => by cases hb) hcl
  | close => exact fun _ _ _ => rfl
  | complete hw => exact forall_mem_set hw (by simp) hcl
  | crash hw =>
    rw [workers_closeIfDeserted]
    exact forall_mem_set hw (by simp) hcl
  | leave hw hf ho =>
    rw [Channel.isOver, Bool.and_eq_true] at ho
    exact fun _ _ _ => ho.1
  | _ => exact hcl

theorem liveWorkers_ne_zero_of_set {w : Nat} {a b : Worker α} (hw : p.workers[w]? = some a)
    (hb : b.isLive = true) (hq : q.workers = p.workers.set w b) : q.liveWorkers ≠ 0 := by
  rw [Ne, liveWorkers_eq_zero_iff, hq]
  intro hl
  rw [hl b (List.mem_set (List.getElem?_eq_some_iff.mp hw).1 b)] at hb
  cases hb

theorem Watchful.deserted_step (h : p.Watchful g) (hs : Step p e q) (hl : q.liveWorkers = 0) :
    q.channel.isClosed = true := by
  have hcl : p.liveWorkers = 0 → q.channel.isClosed = true := fun h0 => hs.isClosed (h.deserted h0)
  cases hs with
  | receive hw => exact absurd hl (liveWorkers_ne_zero_of_set hw rfl rfl)
  | notice hw => exact absurd hl (liveWorkers_ne_zero_of_set hw rfl rfl)
  | close => rfl
  | complete hw => exact absurd hl (liveWorkers_ne_zero_of_set hw (Worker.isLive_ready _) rfl)
  | @crash w t drains hw =>
    rcases closeIfDeserted_cases ((p.reply t.number .dropped).retire w (.dead drains)) with
      ⟨hl', hq⟩ | ⟨-, u, hq⟩
    · rw [hq] at hl
      exact absurd hl hl'
    · rw [hq]
      rfl
  | leave hw hf ho =>
    rw [Channel.isOver, Bool.and_eq_true] at ho
    exact ho.1
  | _ => exact hcl hl

theorem Watchful.shut_step (h : p.Watchful g) (hs : Step p e q) (hq : q.channel.shut = true) :
    q.liveWorkers = 0 ∨ q.Stopped g ∧ ∃ x ∈ q.workers, x.isPast = true := by
  have hst : p.Stopped g → q.Stopped g := fun h => h.step hs
  have hset : ∀ {w a b}, p.channel.shut = true → p.workers[w]? = some a → a.isLive = true →
      (a.isPast = true → b.isPast = true) →
      q.Stopped g ∧ ∃ x ∈ p.workers.set w b, x.isPast = true := by
    intro w a b hp hw ha hab
    rcases h.shut hp with h0 | ⟨hs, hx⟩
    · rw [liveWorkers_eq_zero_iff] at h0
      rw [h0 a (List.mem_of_getElem? hw)] at ha
      cases ha
    · exact ⟨hst hs, exists_mem_set hw hab hx⟩
  cases hs with
  | accept ho =>
    obtain ⟨-, -, rfl⟩ := Channel.offer_eq_ok_iff.mp ho
    exact h.shut hq
  | receive hw => exact Or.inr (hset hq hw (by simp) (by simp))
  | notice hw => exact Or.inr (hset hq hw rfl fun hp => by cases hp)
  | close hw =>
    -- who closes the channel has seen the signal
    refine Or.inr ⟨hst (h.heard _ (List.mem_of_getElem? hw) rfl), .draining, ?_, rfl⟩
    exact List.mem_set (List.getElem?_eq_some_iff.mp hw).1 _
  | complete hw => exact Or.inr (hset hq hw rfl (by simp))
  | @crash w t drains hw =>
    rcases closeIfDeserted_cases ((p.reply t.number .dropped).retire w (.dead drains)) with
      ⟨-, hq'⟩ | ⟨hl, -⟩
    · rw [hq'] at hq
      rw [workers_closeIfDeserted]
      exact Or.inr (hset hq hw rfl (by simp))
    · rw [liveWorkers, workers_closeIfDeserted]
      exact Or.inl hl
  | leave hw => exact Or.inr (hset hq hw (by simp) fun _ => rfl)
  | signal | endSignal => exact (h.shut hq).imp_right fun hs => ⟨hst hs.1, hs.2⟩
  | _ => exact h.shut hq

theorem Watchful.step (h : p.Watchful g) (hs : Step p e q) : q.Watchful g where
  holder := hs.holder_selecting h.holder
  subscribed := h.subscribed.step hs
  sent := Nat.le_trans h.sent hs.sent_le
  heard := h.heard_step hs
  past := h.past_step hs
  deserted := h.deserted_step hs
  shut := h.shut_step hs

theorem watchful_start (capacity workers : Nat) (signal : Signal) :
    (start capacity workers signal : Pool α β).Watchful signal.sent where
  holder _ h := by cases h
  subscribed w x hw hx := by
    simp only [start, List.getElem?_replicate, Signal.receivers_subscribeAll] at hw ⊢
    split_ifs at hw with hlt
    rw [List.getElem?_append_right (by omega), List.getElem?_replicate,
      if_pos (by omega)]
  sent := Nat.le_of_eq (signal.sent_subscribeAll _).symm
  heard x hx hh := by
    rw [List.eq_of_mem_replicate hx] at hh
    cases hh
  past x hx hp := by
    rw [List.eq_of_mem_replicate hx] at hp
    cases hp
  deserted h := by
    simp only [liveWorkers, start, List.countP_replicate, Worker.isLive, ↓reduceIte] at h
    omega
  shut h := by cases h

theorem Step.deserted (hs : Step p e q) (h : p.liveWorkers = 0) : q.liveWorkers = 0 := by
  have hne : ∀ {w : Nat} {a : Worker α}, p.workers[w]? = some a → a.isLive = true → False := by
    intro w a hw ha
    rw [liveWorkers_eq_zero_iff.mp h a (List.mem_of_getElem? hw)] at ha
    cases ha
  cases hs with
  | receive hw | leave hw => exact (hne hw (Worker.isLive_ready _)).elim
  | notice hw | close hw | complete hw | crash hw => exact (hne hw rfl).elim
  | _ => exact h

/-- A signal comes to a worker, unless they have all seen one before or none is left. -/
theorem Watchful.trigger (h : p.Watchful g) :
    p.liveWorkers = 0 ∨ Stopped g { p with signal := p.signal.trigger } := by
  by_cases hend : p.signal.ended = true
  · exact Or.inr (Or.inr (by simp [Signal.trigger, hend]))
  by_cases hcount : p.signal.receiverCount = 0
  · -- the signal is lost, so no worker may see it yet
    by_cases hx : ∃ x ∈ p.workers, x.hasHeard = true
    · obtain ⟨x, hx, hh⟩ := hx
      exact Or.inr ((h.heard x hx hh).step .signal)
    · refine Or.inl (liveWorkers_eq_zero_iff.mpr fun x hm => ?_)
      obtain ⟨w, hw⟩ := List.mem_iff_getElem?.mp hm
      have hl : x.listens = false := Bool.eq_false_iff.mpr fun hl =>
        List.countP_eq_zero.mp hcount _ (List.mem_of_getElem? (h.subscribed w x hw hl)) rfl
      have hh : x.hasHeard = false := Bool.eq_false_iff.mpr fun hh => hx ⟨x, hm, hh⟩
      cases x with
      | serving t drains => cases drains <;> simp at hl hh
      | selecting | closing | draining => simp [Worker.listens, Worker.hasHeard] at hl hh
      | finished | dead => rfl
  · have := h.sent
    refine Or.inr (Or.inl ?_)
    simp only [Signal.trigger, hend, hcount, Bool.false_eq_true, decide_false, Bool.or_self,
      ↓reduceIte]
    omega

theorem signal_of_run : ∀ {es : List (Event α β)} {p q : Pool α β}, p.run es = some q →
    (∀ e ∈ es, e.isStop = false) →
    q.signal.sent = p.signal.sent ∧ q.signal.ended = p.signal.ended
  | [], _, _, h, _ => Option.some.inj h ▸ ⟨rfl, rfl⟩
  | e :: es, _, _, h, he => by
    obtain ⟨r, hr, hq⟩ := run_cons_eq_some h
    have ih := signal_of_run hq fun e hm => he e (List.mem_cons_of_mem _ hm)
    have hs := hr.signal_eq (he e List.mem_cons_self)
    exact ⟨ih.1.trans hs.1, ih.2.trans hs.2⟩

/-- After a stop the signal has come, or there is nobody left that it could come to. -/
theorem stopped_of_run : ∀ {es : List (Event α β)} {p q : Pool α β}, p.Watchful g →
    p.run es = some q → (p.liveWorkers = 0 ∨ p.Stopped g) ∨ (∃ e ∈ es, e.isStop = true) →
    q.liveWorkers = 0 ∨ q.Stopped g
  | [], _, _, _, h, he => by
    obtain rfl := Option.some.inj h
    rcases he with he | ⟨e, he, -⟩
    · exact he
    · cases he
  | e :: es, p, _, hp, h, he => by
    obtain ⟨r, hr, hq⟩ := run_cons_eq_some h
    refine stopped_of_run (hp.step hr) hq ?_
    rcases he with he | ⟨e', he, hstop⟩
    · exact Or.inl (he.imp hr.deserted fun hs => hs.step hr)
    rcases List.mem_cons.mp he with rfl | he
    · left
      cases hr with
      | signal => exact hp.trigger
      | endSignal => exact Or.inr (Or.inr rfl)
      | _ => cases hstop
    · exact Or.inr ⟨e', he, hstop⟩

/-- Only a worker that waits keeps the channel from others. -/
theorem Watchful.holder_eq_none (h : p.Watchful g)
    (hn : ∀ w : Nat, p.workers[w]? ≠ some .selecting) : p.holder = none := by
  rcases hh : p.holder with _ | v
  · rfl
  · exact absurd (h.holder v hh) (hn v)

/-- In a quiet pool that has been told to stop no worker waits for a request or is about to
close. -/
theorem IsQuiet.not_selecting {w : Nat} (hq : p.IsQuiet) (h : p.Watchful g) (hs : p.Stopped g) :
    p.workers[w]? ≠ some .selecting := by
  intro hw
  obtain ⟨t, ht⟩ := Option.isSome_iff_exists.mp ((h.stopped_of_hear hw).mpr hs)
  have := hq (.notice w) rfl
  rw [(Step.notice (β := β) hw ht).step_eq] at this
  cases this

theorem IsQuiet.not_closing {w : Nat} (hq : p.IsQuiet) (h : p.Watchful g) (hs : p.Stopped g) :
    p.workers[w]? ≠ some .closing := by
  intro hw
  have hfree := h.holder_eq_none fun _ => hq.not_selecting h hs
  have := hq (.close w) rfl
  rw [(Step.close (β := β) hw hfree).step_eq] at this
  cases this

theorem isQuiet_of_still (h : ∀ x ∈ p.workers, x.ready? = none ∧ x ≠ .closing) : p.IsQuiet := by
  intro e he
  refine Option.eq_none_iff_forall_ne_some.mpr fun q hs => ?_
  have hne : ∀ {w : Nat} {x : Worker α}, p.workers[w]? = some x →
      x.ready? = none ∧ x ≠ .closing := fun hw => h _ (List.mem_of_getElem? hw)
  cases Step.of_step hs with
  | acquire hw => exact nomatch (hne hw).1
  | receive hw => exact nomatch (Worker.ready?_eq_some_iff.mpr rfl).symm.trans (hne hw).1
  | notice hw => exact nomatch (hne hw).1
  | close hw => exact (hne hw).2 rfl
  | leave hw => exact nomatch (Worker.ready?_eq_some_iff.mpr rfl).symm.trans (hne hw).1
  | _ => cases he

theorem isQuiet_of_serving (h : ∀ x ∈ p.workers, ∃ t drains, x = .serving t drains) :
    p.IsQuiet :=
  isQuiet_of_still fun x hx => by
    obtain ⟨t, drains, rfl⟩ := h x hx
    exact ⟨rfl, by simp⟩

theorem submit_refused_iff (a : α) :
    p.submit a = .error .closed ∧ p.step (.submit a) = some p ↔ p.channel.isClosed = true := by
  rw [submit_eq_error_iff, offer, Channel.offer_eq_closed_iff]
  refine and_iff_left_of_imp fun h => (Step.refuse (r := .closed) ?_).step_eq
  rw [offer, Channel.offer_eq_closed_iff, h]

theorem exists_isStop {capacity workers : Nat} {signal : Signal} {es : List (Event α β)}
    (hs : signal.ended = false) (h : (start capacity workers signal).run es = some p)
    (hst : p.Stopped signal.sent) : ∃ e ∈ es, e.isStop = true := by
  by_cases hne : ∃ e ∈ es, e.isStop = true
  · exact hne
  · obtain ⟨hsent, hended⟩ := signal_of_run h fun e he =>
      Bool.eq_false_iff.mpr fun hstop => hne ⟨e, he, hstop⟩
    simp only [start, Signal.sent_subscribeAll, Signal.ended_subscribeAll] at hsent hended
    rcases hst with hst | hst
    · omega
    · rw [hended, hs] at hst
      cases hst

/-- In a quiet pool that still has producers a request is refused for good, and changes nothing,
just if no worker is left, or there has been a stop since the start and some worker is not held
up. -/
theorem submit_closed_iff {capacity workers : Nat} {signal : Signal} {es : List (Event α β)}
    (hs : signal.ended = false) (h : (start capacity workers signal).run es = some p)
    (hq : p.IsQuiet) (hp : p.channel.producers ≠ 0) (a : α) :
    p.submit a = .error .closed ∧ p.step (.submit a) = some p
      ↔ p.liveWorkers = 0
        ∨ (∃ e ∈ es, e.isStop = true) ∧ ∃ x ∈ p.workers, x.isHeldUp = false := by
  have hstart := watchful_start (α := α) (β := β) capacity workers signal
  have hw : p.Watchful signal.sent := run_keeps Watchful.step hstart h
  rw [submit_refused_iff]
  constructor
  · intro hc
    have hshut : p.channel.shut = true := by
      simpa [Channel.isClosed, hp] using hc
    rcases hw.shut hshut with h0 | ⟨hst, x, hx, hpast⟩
    · exact Or.inl h0
    · exact Or.inr ⟨exists_isStop hs h hst, x, hx, Worker.isHeldUp_of_isPast hpast⟩
  · rintro (h0 | ⟨hstop, x, hx, hfree⟩)
    · exact hw.deserted h0
    rcases stopped_of_run hstart h (Or.inr hstop) with h0 | hst
    · exact hw.deserted h0
    refine hw.past x hx ?_
    obtain ⟨w, hx⟩ := List.mem_iff_getElem?.mp hx
    cases x with
    | selecting => exact absurd hx (hq.not_selecting hw hst)
    | closing => exact absurd hx (hq.not_closing hw hst)
    | serving | dead => simpa using hfree
    | draining | finished => rfl

/-- A worker that is busy when the signal comes leaves the channel open. -/
theorem submit_closed_iff_busy : ∃ p : Pool Nat Nat,
    (start 4 1 .make).run [.submit 7, .receive 0, .signal] = some p ∧ p.IsQuiet
      ∧ p.channel.producers ≠ 0 ∧ p.submit 8 ≠ .error .closed := by
  obtain ⟨p, hp, hw, hc⟩ : ∃ p : Pool Nat Nat,
      (start 4 1 .make).run [.submit 7, .receive 0, .signal] = some p
        ∧ p.workers = [.serving ⟨0, 7⟩ false] ∧ p.channel.producers = 1 :=
    ⟨_, rfl, rfl, rfl⟩
  have hq : p.IsQuiet := isQuiet_of_serving fun x hx => by
    rw [hw, List.mem_singleton] at hx
    exact ⟨_, _, hx⟩
  have hn : p.channel.producers ≠ 0 := by omega
  refine ⟨p, hp, hq, hn, fun h => ?_⟩
  rcases (submit_closed_iff rfl hp hq hn 8).mp ⟨h, by simp only [step, h]⟩ with
    h0 | ⟨-, x, hx, hfree⟩
  · rw [liveWorkers, hw] at h0
    cases h0
  · rw [hw, List.mem_singleton] at hx
    rw [hx] at hfree
    cases hfree

end Pool

end Switchyard.Queue
