import Switchyard.Proofs.QueueClosing
import Switchyard.Proofs.QueuePlaces

/-!
# Pools at rest

The channel and the workers keep to their numbers whatever happens (`Pool.Staffed`).  In a quiet
pool a worker that is neither gone nor busy waits on an empty channel (`IsQuiet.worker_cases`), so
without breakdowns as many requests are being answered as there are workers for them
(`Pool.runs_within_bounds`).
-/

namespace Switchyard.Queue

variable {α β : Type}

namespace Channel

variable {c : Channel α}

theorem isOver_iff : c.isOver = true ↔ c.isClosed = true ∧ c.waiting = [] := by
  rw [isOver, Bool.and_eq_true, List.isEmpty_iff]

theorem offer_of_room (a : α) (hc : c.isClosed = false)
    (hr : c.waiting.length < c.capacity) :
    c.offer a = .ok { c with waiting := c.waiting ++ [a] } :=
  offer_eq_ok_iff.mpr ⟨hc, by simpa [isFull] using hr, rfl⟩

end Channel

/-- Whether a worker breaks down by it. -/
def Event.isCrash : Event α β → Bool
  | .crash _ => true
  | _ => false

namespace Worker

def isDead : Worker α → Bool
  | .dead _ => true
  | _ => false

@[simp] theorem isDead_ready (drains : Bool) : (ready drains : Worker α).isDead = false := by
  cases drains <;> rfl

end Worker

namespace Pool

variable {p q : Pool α β} {e : Event α β} {g : Nat}

section Deserted

@[simp] theorem capacity_closeIfDeserted (p : Pool α β) :
    p.closeIfDeserted.channel.capacity = p.channel.capacity := by
  rcases p.closeIfDeserted_cases with ⟨-, h⟩ | ⟨-, u, h⟩ <;> rw [h]

@[simp] theorem producers_closeIfDeserted (p : Pool α β) :
    p.closeIfDeserted.channel.producers = p.channel.producers := by
  rcases p.closeIfDeserted_cases with ⟨-, h⟩ | ⟨-, u, h⟩ <;> rw [h]

theorem waiting_closeIfDeserted_sublist (p : Pool α β) :
    p.closeIfDeserted.channel.waiting.Sublist p.channel.waiting := by
  rcases p.closeIfDeserted_cases with ⟨-, h⟩ | ⟨-, u, h⟩ <;> rw [h]
  exact List.nil_sublist _

theorem answers_subset_closeIfDeserted (p : Pool α β) :
    p.answers ⊆ p.closeIfDeserted.answers := by
  rcases p.closeIfDeserted_cases with ⟨-, h⟩ | ⟨-, u, h⟩ <;> rw [h]
  · exact List.Subset.refl _
  · exact List.subset_append_left _ _

end Deserted

/-- Nothing comes into a channel that is over. -/
theorem Step.isOver (hs : Step p e q) (h : p.channel.isOver = true) :
    q.channel.isOver = true := by
  obtain ⟨hc, hw⟩ := Channel.isOver_iff.mp h
  refine Channel.isOver_iff.mpr ⟨hs.isClosed hc, ?_⟩
  cases hs with
  | accept ho =>
    obtain ⟨hopen, -, -⟩ := Channel.offer_eq_ok_iff.mp ho
    rw [hc] at hopen
    cases hopen
  | receive _ hwait =>
    rw [hw] at hwait
    cases hwait
  | crash => exact List.sublist_nil.mp (hw ▸ waiting_closeIfDeserted_sublist _)
  | _ => exact hw

/-- The numbers that a pool keeps to, and what its workers have left behind. -/
structure Staffed (capacity workers : Nat) (p : Pool α β) : Prop where
  count : p.workers.length = max workers 1
  capacity : p.channel.capacity = max capacity 1
  room : p.channel.waiting.length ≤ p.channel.capacity
  /-- A worker leaves only when nothing is left. -/
  ended : ∀ x ∈ p.workers, x = .finished → p.channel.isOver = true
  /-- A worker breaks down only on a request, which is dropped then. -/
  dropped : ∀ x ∈ p.workers, x.isDead = true → ∃ n, (n, .dropped) ∈ p.answers

variable {capacity workers : Nat}

theorem Step.length_workers (hs : Step p e q) : q.workers.length = p.workers.length := by
  cases hs with
  | crash => rw [workers_closeIfDeserted]; exact List.length_set
  | receive | notice | close | complete | leave => exact List.length_set
  | _ => rfl

theorem Step.capacity_eq (hs : Step p e q) : q.channel.capacity = p.channel.capacity := by
  cases hs with
  | accept ho =>
    obtain ⟨-, -, rfl⟩ := Channel.offer_eq_ok_iff.mp ho
    rfl
  | crash => exact capacity_closeIfDeserted _
  | _ => rfl

theorem Step.length_waiting_le (hs : Step p e q)
    (h : p.channel.waiting.length ≤ p.channel.capacity) :
    q.channel.waiting.length ≤ p.channel.capacity := by
  cases hs with
  | accept ho =>
    obtain ⟨-, hroom, rfl⟩ := Channel.offer_eq_ok_iff.mp ho
    simp only [Channel.isFull, decide_eq_false_iff_not, Nat.not_le] at hroom
    simp only [List.length_append, List.length_singleton]
    omega
  | receive _ hwait =>
    rw [hwait, List.length_cons] at h
    exact Nat.le_of_succ_le h
  | crash => exact Nat.le_trans (waiting_closeIfDeserted_sublist _).length_le h
  | _ => exact h

/-- What became of a request stays. -/
theorem Step.answers_subset (hs : Step p e q) : p.answers ⊆ q.answers := by
  cases hs with
  | complete => exact List.subset_append_left _ _
  | crash => exact fun _ ha => answers_subset_closeIfDeserted _ (List.mem_append_left _ ha)
  | _ => exact List.Subset.refl _

theorem liveWorkers_ne_zero {w : Nat} {a : Worker α} (hw : p.workers[w]? = some a)
    (ha : a.isLive = true) : p.liveWorkers ≠ 0 := by
  intro h
  rw [liveWorkers_eq_zero_iff.mp h a (List.mem_of_getElem? hw)] at ha
  cases ha

/-- Who has left just now has found nothing left. -/
theorem Step.finished_cases (hs : Step p e q) (hx : .finished ∈ q.workers) :
    .finished ∈ p.workers ∨ p.liveWorkers ≠ 0 ∧ p.channel.isOver = true := by
  cases hs with
  | receive | notice | close =>
    exact Or.inl ((List.mem_or_eq_of_mem_set hx).resolve_right (nomatch ·))
  | @complete w t drains =>
    refine Or.inl ((List.mem_or_eq_of_mem_set hx).resolve_right fun h => ?_)
    cases drains <;> cases h
  | crash =>
    rw [workers_closeIfDeserted] at hx
    exact Or.inl ((List.mem_or_eq_of_mem_set hx).resolve_right (nomatch ·))
  | leave hw hf ho => exact Or.inr ⟨liveWorkers_ne_zero hw (Worker.isLive_ready _), ho⟩
  | _ => exact Or.inl hx

theorem Staffed.ended_step (h : p.Staffed capacity workers) (hs : Step p e q) :
    ∀ x ∈ q.workers, x = .finished → q.channel.isOver = true := by
  rintro _ hx rfl
  rcases hs.finished_cases hx with hp | ⟨-, ho⟩
  · exact hs.isOver (h.ended _ hp rfl)
  · exact hs.isOver ho

theorem Staffed.dropped_step (h : p.Staffed capacity workers) (hs : Step p e q) :
    ∀ x ∈ q.workers, x.isDead = true → ∃ n, (n, .dropped) ∈ q.answers := by
  have hdr : ∀ x ∈ p.workers, x.isDead = true → ∃ n, (n, .dropped) ∈ q.answers := fun x hx hd =>
    (h.dropped x hx hd).imp fun _ hn => hs.answers_subset hn
  cases hs with
  | receive hw | notice hw | close hw | leave hw =>
    exact forall_mem_set hw (fun _ hd => nomatch hd) hdr
  | complete hw => exact forall_mem_set hw (by simp) hdr
  | crash =>
    intro _ _ _
    exact ⟨_, answers_subset_closeIfDeserted _
      (List.mem_append_right _ (List.mem_singleton_self _))⟩
  | _ => exact hdr

theorem Staffed.step (h : p.Staffed capacity workers) (hs : Step p e q) :
    q.Staffed capacity workers where
  count := hs.length_workers.trans h.count
  capacity := hs.capacity_eq.trans h.capacity
  room := hs.capacity_eq ▸ hs.length_waiting_le h.room
  ended := h.ended_step hs
  dropped := h.dropped_step hs

theorem staffed_start (capacity workers : Nat) (signal : Signal) :
    (start capacity workers signal : Pool α β).Staffed capacity workers where
  count := List.length_replicate
  capacity := rfl
  room := Nat.zero_le _
  ended x hx hf := by cases (List.eq_of_mem_replicate hx).symm.trans hf
  dropped x hx hd := by
    rw [List.eq_of_mem_replicate hx] at hd
    cases hd

section Quiet

/-- Somebody can take what waits, if a worker waits for it. -/
theorem IsQuiet.waiting_eq_nil {w : Nat} (hq : p.IsQuiet) (h : p.Watchful g)
    (hw : p.workers[w]? = some .selecting) : p.channel.waiting = [] := by
  rcases hc : p.channel.waiting with _ | ⟨t, rest⟩
  · rfl
  -- the channel is with one of those who wait, or free for all of them
  obtain ⟨v, hv, hf⟩ : ∃ v, p.workers[v]? = some (.ready false) ∧ p.isFreeFor v = true := by
    rcases hh : p.holder with _ | v
    · exact ⟨w, hw, by simp [isFreeFor, hh]⟩
    · exact ⟨v, h.holder v hh, by simp [isFreeFor, hh]⟩
  have := hq (.receive v) rfl
  rw [(Step.receive (β := β) hv hc hf).step_eq] at this
  cases this

theorem IsQuiet.not_draining {w : Nat} (hq : p.IsQuiet) (h : p.Watchful g) :
    p.workers[w]? ≠ some .draining := by
  intro (hw : p.workers[w]? = some (.ready true))
  have hmem := List.mem_of_getElem? hw
  have hst := h.heard _ hmem rfl
  have hfree : p.isFreeFor w = true := by
    rw [isFreeFor, h.holder_eq_none fun _ => hq.not_selecting h hst]
    rfl
  rcases hc : p.channel.waiting with _ | ⟨t, rest⟩
  · have := hq (.leave w) rfl
    rw [(Step.leave (β := β) hw hfree
      (Channel.isOver_iff.mpr ⟨h.past _ hmem rfl, hc⟩)).step_eq] at this
    cases this
  · have := hq (.receive w) rfl
    rw [(Step.receive (β := β) hw hc hfree).step_eq] at this
    cases this

/-- In a quiet pool a worker is busy or gone, or it waits on an empty channel. -/
theorem IsQuiet.worker_cases (hq : p.IsQuiet) (h : p.Watchful g) {x : Worker α}
    (hx : x ∈ p.workers) : x.ticket?.isSome = true ∨ x.isDead = true ∨ x = .finished
      ∨ x = .selecting ∧ p.channel.waiting = [] ∧ ¬ p.Stopped g := by
  obtain ⟨w, hw⟩ := List.mem_iff_getElem?.mp hx
  cases x with
  | serving => exact Or.inl rfl
  | dead => exact Or.inr (Or.inl rfl)
  | finished => exact Or.inr (Or.inr (Or.inl rfl))
  | selecting =>
    exact Or.inr (Or.inr (Or.inr ⟨rfl, hq.waiting_eq_nil h hw,
      fun hst => hq.not_selecting h hst hw⟩))
  | closing => exact absurd hw (hq.not_closing h (h.heard _ hx rfl))
  | draining => exact absurd hw (hq.not_draining h)

end Quiet

theorem length_held (p : Pool α β) :
    p.held.length = p.workers.countP fun x => x.ticket?.isSome :=
  List.length_filterMap_eq_countP

theorem Accounted.perm (h : p.Accounted) :
    (p.waitingNumbers ++ p.heldNumbers ++ p.answeredNumbers).Perm (List.range p.accepted) := by
  rw [List.perm_iff_count]
  intro n
  rw [List.count_append, List.count_append, h.places n]

theorem Accounted.accepted_eq (h : p.Accounted) :
    p.accepted = p.channel.waiting.length + p.held.length + p.answers.length := by
  simpa [waitingNumbers, heldNumbers, answeredNumbers, Nat.add_assoc]
    using h.perm.length_eq.symm

/-- In a quiet pool without broken workers, whoever is not busy has nothing to do. -/
theorem IsQuiet.held_eq (hq : p.IsQuiet) (hw : p.Watchful g) (hs : p.Staffed capacity workers)
    (ha : p.Accounted) (hd : ∀ x ∈ p.workers, x.isDead = false) :
    p.held.length = min (max workers 1) (p.accepted - p.answers.length) := by
  have hle : p.held.length ≤ max workers 1 := by
    rw [length_held, ← hs.count]
    exact List.countP_le_length
  have hacc := ha.accepted_eq
  by_cases hall : ∀ x ∈ p.workers, x.ticket?.isSome = true
  · have : p.held.length = max workers 1 := by
      rw [length_held, ← hs.count]
      exact List.countP_eq_length.mpr hall
    omega
  · -- somebody is idle, so nothing waits
    obtain ⟨x, hx, hn⟩ : ∃ x ∈ p.workers, ¬ x.ticket?.isSome = true := by
      simpa only [not_forall, exists_prop] using hall
    have hempty : p.channel.waiting = [] := by
      rcases hq.worker_cases hw hx with hb | hb | rfl | ⟨-, hb, -⟩
      · exact absurd hb hn
      · rw [hd x hx] at hb
        cases hb
      · exact (Channel.isOver_iff.mp (hs.ended _ hx rfl)).2
      · exact hb
    rw [hempty, List.length_nil] at hacc
    omega

theorem Step.deadWorkers_eq (hs : Step p e q) : q.workers.countP Worker.isDead
    = p.workers.countP Worker.isDead + if e.isCrash then 1 else 0 := by
  have hset : ∀ {w a b}, p.workers[w]? = some a → a.isDead = false →
      (p.workers.set w b).countP Worker.isDead
        = p.workers.countP Worker.isDead + if b.isDead then 1 else 0 := by
    intro w a b hw ha
    obtain ⟨hlt, rfl⟩ := List.getElem?_eq_some_iff.mp hw
    simp [List.countP_set hlt, ha]
  cases hs with
  | receive hw => exact hset hw (Worker.isDead_ready _)
  | notice hw | close hw => exact hset hw rfl
  | @complete w t drains b hw =>
    have := hset (b := .ready drains) hw rfl
    rwa [Worker.isDead_ready] at this
  | crash hw =>
    rw [workers_closeIfDeserted]
    exact hset hw rfl
  | leave hw => exact hset hw (Worker.isDead_ready _)
  | _ => rfl

/-- As many workers are dead as have broken down. -/
theorem deadWorkers_of_run : ∀ {es : List (Event α β)} {p q : Pool α β}, p.run es = some q →
    q.workers.countP Worker.isDead
      = p.workers.countP Worker.isDead + es.countP Event.isCrash
  | [], _, _, h => Option.some.inj h ▸ rfl
  | e :: es, _, _, h => by
    obtain ⟨r, hr, hq⟩ := run_cons_eq_some h
    rw [deadWorkers_of_run hq, hr.deadWorkers_eq, List.countP_cons]
    omega

theorem deadWorkers_start (capacity workers : Nat) (signal : Signal) :
    (start capacity workers signal : Pool α β).workers.countP Worker.isDead = 0 := by
  simp [start, List.countP_replicate, Worker.isDead]

/-- At most as many requests wait as the channel has room for, and at most as many are being
answered as there are workers.  A request is refused for good just if the channel is closed, and
for now just if it is open and full; otherwise it waits behind the others.  A refusal changes
nothing.  Where no worker has broken down and none can move, every worker that could be busy is. -/
theorem runs_within_bounds {es : List (Event α β)} {signal : Signal}
    (h : (start capacity workers signal).run es = some p) :
    p.channel.waiting.length ≤ max capacity 1
      ∧ p.held.length ≤ max workers 1
      ∧ (∀ a, (p.submit a = .error .closed ↔ p.channel.isClosed = true)
        ∧ (p.submit a = .error .full
          ↔ p.channel.isClosed = false ∧ p.channel.waiting.length = max capacity 1)
        ∧ (p.channel.isClosed = false → p.channel.waiting.length ≠ max capacity 1 →
          p.submit a = .ok { p with
            channel := { p.channel with waiting := p.channel.waiting ++ [⟨p.accepted, a⟩] }
            requests := p.requests ++ [a] })
        ∧ ∀ r, p.submit a = .error r → p.step (.submit a) = some p)
      ∧ ((∀ e ∈ es, e.isCrash = false) → p.IsQuiet →
        p.held.length = min (max workers 1) (p.accepted - p.answers.length)
          ∧ (.selecting ∈ p.workers → p.channel.waiting = [])) := by
  have hs : p.Staffed capacity workers := run_keeps Staffed.step (staffed_start _ _ _) h
  have hw : p.Watchful signal.sent := run_keeps Watchful.step (watchful_start _ _ _) h
  have ha : p.Accounted := run_keeps Accounted.step (accounted_start _ _ _) h
  have hroom := hs.room
  rw [hs.capacity] at hroom
  refine ⟨hroom, ?_, fun a => ⟨?_, ?_, fun hopen hne => ?_, fun r hr => ?_⟩,
    fun hcalm hq => ⟨?_, ?_⟩⟩
  · rw [length_held, ← hs.count]
    exact List.countP_le_length
  · rw [submit_eq_error_iff, offer, Channel.offer_eq_closed_iff]
  · rw [submit_eq_error_iff, offer, Channel.offer_eq_full_iff, Channel.isFull, decide_eq_true_iff,
      hs.capacity]
    exact and_congr_right fun _ => ⟨fun hle => Nat.le_antisymm hroom hle, Nat.le_of_eq ∘ Eq.symm⟩
  · have := Channel.offer_of_room (⟨p.accepted, a⟩ : Ticket α) hopen
      (Nat.lt_of_le_of_ne (hs.capacity ▸ hroom) (hs.capacity ▸ hne))
    simp only [submit, offer, this]
  · exact (Step.refuse (submit_eq_error_iff.mp hr)).step_eq
  · refine hq.held_eq hw hs ha fun x hx => ?_
    have hnone : p.workers.countP Worker.isDead = 0 := by
      rw [deadWorkers_of_run h, deadWorkers_start, Nat.zero_add, List.countP_eq_zero]
      exact fun e he => by simp [hcalm e he]
    simpa using List.countP_eq_zero.mp hnone x hx
  · intro hsel
    obtain ⟨w, hw'⟩ := List.mem_iff_getElem?.mp hsel
    exact hq.waiting_eq_nil hw hw'

/-- One worker is busy and one request waits, which is all that there is room for. -/
theorem runs_within_bounds_one : ∃ p : Pool Nat Nat,
    (start 0 0 .make).run [.submit 7, .receive 0, .submit 8] = some p
      ∧ p.submit 9 = .error .full ∧ p.step (.submit 9) = some p
      ∧ p.held.length = min 1 (p.accepted - p.answers.length) := by
  obtain ⟨p, hp, hw, hc, hn⟩ : ∃ p : Pool Nat Nat,
      (start 0 0 .make).run [.submit 7, .receive 0, .submit 8] = some p
        ∧ p.workers = [.serving ⟨0, 7⟩ false] ∧ p.channel.isClosed = false
        ∧ p.channel.waiting.length = 1 :=
    ⟨_, rfl, rfl, rfl, rfl⟩
  obtain ⟨-, -, hsub, hrest⟩ := runs_within_bounds hp
  have hq : p.IsQuiet := isQuiet_of_serving fun x hx => by
    rw [hw, List.mem_singleton] at hx
    exact ⟨_, _, hx⟩
  have hfull := (hsub 9).2.1.mpr ⟨hc, hn⟩
  refine ⟨p, hp, hfull, (hsub 9).2.2.2 _ hfull, (hrest ?_ hq).1⟩
  simp [Event.isCrash]

end Pool

end Switchyard.Queue
