import Mathlib.Tactic.SplitIfs
import Switchyard.Queue.Service

/-!
# What an event does to a pool

`Pool.Step` lists what can happen in a pool and what comes of it, one rule for each party's move,
with everything the move depends on.  The function that runs agrees with it
(`Pool.step_eq_some_iff`), so a property of pools is kept by events if each rule keeps it
(`Pool.run_keeps`).  `Service.Step` does the same for a pool at work: there a worker is done with
its request only when the execution is over.
-/

namespace Switchyard.Queue

variable {α β : Type}

namespace Channel

theorem offer_eq_ok_iff {c d : Channel α} {a : α} :
    c.offer a = .ok d ↔ c.isClosed = false ∧ c.isFull = false
      ∧ d = { c with waiting := c.waiting ++ [a] } := by
  unfold offer
  split_ifs with h1 h2
  · simp [h1]
  · simp [h2]
  · simp only [Except.ok.injEq, Bool.not_eq_true] at h1 h2 ⊢
    exact ⟨fun h => ⟨h1, h2, h.symm⟩, fun h => h.2.2.symm⟩

end Channel

namespace Pool

/-- The rules by which things happen in a pool. -/
inductive Step (p : Pool α β) : Event α β → Pool α β → Prop
  | accept {a : α} {channel : Channel (Ticket α)} (h : p.offer a = .ok channel) :
    Step p (.submit a) { p with channel, requests := p.requests ++ [a] }
  | refuse {a : α} {r : Refusal} (h : p.offer a = .error r) : Step p (.submit a) p
  | addProducer (h : p.channel.producers ≠ 0) : Step p .addProducer
      { p with channel := { p.channel with producers := p.channel.producers + 1 } }
  | dropProducer (h : p.channel.producers ≠ 0) : Step p .dropProducer
      { p with channel := { p.channel with producers := p.channel.producers - 1 } }
  | signal : Step p .signal { p with signal := p.signal.trigger }
  | endSignal : Step p .endSignal { p with signal := p.signal.close }
  | abandon (number : Nat) :
    Step p (.abandon number) { p with abandoned := number :: p.abandoned }
  | acquire {w : Nat} (hw : p.workers[w]? = some .selecting) (hh : p.holder = none) :
    Step p (.acquire w) { p with holder := some w }
  | receive {w : Nat} {drains : Bool} {t : Ticket α} {rest : List (Ticket α)}
    (hw : p.workers[w]? = some (.ready drains)) (hc : p.channel.waiting = t :: rest)
    (hf : p.isFreeFor w = true) : Step p (.receive w)
      ({ p with
        channel := { p.channel with waiting := rest }
        holder := none
        received := p.received ++ [t.number] }.setWorker w (.serving t drains))
  | notice {w : Nat} {signal : Signal} (hw : p.workers[w]? = some .selecting)
    (hs : p.hear? w = some signal) :
    Step p (.notice w) ({ p.release w with signal }.setWorker w .closing)
  | close {w : Nat} (hw : p.workers[w]? = some .closing) (hh : p.holder = none) :
    Step p (.close w) ({ p with channel := p.channel.shutDown }.setWorker w .draining)
  | complete {w : Nat} {t : Ticket α} {drains : Bool} {b : β}
    (hw : p.workers[w]? = some (.serving t drains)) :
    Step p (.complete w b) ((p.reply t.number (.result b)).setWorker w (.ready drains))
  | crash {w : Nat} {t : Ticket α} {drains : Bool}
    (hw : p.workers[w]? = some (.serving t drains)) :
    Step p (.crash w) ((p.reply t.number .dropped).retire w (.dead drains)).closeIfDeserted
  | leave {w : Nat} {drains : Bool} (hw : p.workers[w]? = some (.ready drains))
    (hf : p.isFreeFor w = true) (ho : p.channel.isOver = true) :
    Step p (.leave w) ({ p with holder := none }.retire w .finished)

variable {p q : Pool α β}

theorem dropAll_eq : ∀ (ts : List (Ticket α)) (p : Pool α β), ∃ unread,
    p.dropAll ts = { p with answers := p.answers ++ ts.map (fun t => (t.number, .dropped)), unread }
  | [], p => ⟨p.unread, by simp [dropAll]⟩
  | t :: ts, p => by
    obtain ⟨unread, h⟩ := dropAll_eq ts (p.reply t.number .dropped)
    refine ⟨unread, h.trans ?_⟩
    simp [reply]

theorem closeIfDeserted_cases (p : Pool α β) :
    p.liveWorkers ≠ 0 ∧ p.closeIfDeserted = p
      ∨ p.liveWorkers = 0 ∧ ∃ unread, p.closeIfDeserted = { p with
        channel := { p.channel with waiting := [], shut := true }
        answers := p.answers ++ p.channel.waiting.map (fun t => (t.number, .dropped))
        unread } := by
  unfold closeIfDeserted
  split_ifs with h
  · exact Or.inr ⟨h, dropAll_eq p.channel.waiting _⟩
  · exact Or.inl ⟨h, rfl⟩

theorem liveWorkers_eq_zero_iff : p.liveWorkers = 0 ↔ ∀ x ∈ p.workers, x.isLive = false := by
  simp only [liveWorkers, List.countP_eq_zero, Bool.not_eq_true]

theorem bind_ready?_eq_some_iff {x : Option (Worker α)} {drains : Bool} :
    x.bind Worker.ready? = some drains ↔ x = some (.ready drains) := by
  rw [Option.bind_eq_some_iff]
  simp only [Worker.ready?_eq_some_iff, exists_eq_right]

theorem Step.step_eq {e : Event α β} (h : Step p e q) : p.step e = some q := by
  cases h with
  | accept h => simp only [step, submit, h]
  | refuse h => simp only [step, submit, h]
  | addProducer h => simp only [step, h, ↓reduceIte]
  | dropProducer h => simp only [step, h, ↓reduceIte]
  | signal => rfl
  | endSignal => rfl
  | abandon number => rfl
  | acquire hw hh => simp only [step, hw, hh]
  | receive hw hc hf =>
    simp only [step, bind_ready?_eq_some_iff.mpr hw, Channel.take, hc, hf, ↓reduceIte]
  | notice hw hs => simp only [step, hw, hs]
  | close hw hh => simp only [step, hw, hh]
  | complete hw => simp only [step, hw]
  | crash hw => simp only [step, hw]
  | leave hw hf ho =>
    simp only [step, bind_ready?_eq_some_iff.mpr hw, hf, ho, Bool.and_self, ↓reduceIte]

theorem Step.of_step {e : Event α β} (h : p.step e = some q) : Step p e q := by
  cases e with
  | submit a =>
    simp only [step, submit] at h
    cases ho : p.offer a with
    | ok channel =>
      simp only [ho, Option.some.injEq] at h
      exact h ▸ .accept ho
    | error r =>
      simp only [ho, Option.some.injEq] at h
      exact h ▸ .refuse ho
  | addProducer =>
    simp only [step] at h
    split_ifs at h with hp
    exact Option.some.inj h ▸ .addProducer hp
  | dropProducer =>
    simp only [step] at h
    split_ifs at h with hp
    exact Option.some.inj h ▸ .dropProducer hp
  | signal => exact Option.some.inj h ▸ .signal
  | endSignal => exact Option.some.inj h ▸ .endSignal
  | abandon number => exact Option.some.inj h ▸ .abandon number
  | acquire w =>
    simp only [step] at h
    split at h
    · rename_i hw hh
      exact Option.some.inj h ▸ .acquire hw hh
    · simp at h
  | receive w =>
    simp only [step] at h
    split at h
    · rename_i drains t channel hw hc
      rw [bind_ready?_eq_some_iff] at hw
      split_ifs at h with hf
      unfold Channel.take at hc
      split at hc
      · simp at hc
      · rename_i t' rest hwait
        simp only [Option.some.injEq, Prod.mk.injEq] at hc
        obtain ⟨rfl, rfl⟩ := hc
        exact Option.some.inj h ▸ .receive hw hwait hf
    · simp at h
  | notice w =>
    simp only [step] at h
    split at h
    · rename_i signal hw hs
      exact Option.some.inj h ▸ .notice hw hs
    · simp at h
  | close w =>
    simp only [step] at h
    split at h
    · rename_i hw hh
      exact Option.some.inj h ▸ .close hw hh
    · simp at h
  | complete w b =>
    simp only [step] at h
    split at h
    · rename_i t drains hw
      exact Option.some.inj h ▸ .complete hw
    · simp at h
  | crash w =>
    simp only [step] at h
    split at h
    · rename_i t drains hw
      exact Option.some.inj h ▸ .crash hw
    · simp at h
  | leave w =>
    simp only [step] at h
    split at h
    · rename_i drains hw
      rw [bind_ready?_eq_some_iff] at hw
      split_ifs at h with hfo
      rw [Bool.and_eq_true] at hfo
      exact Option.some.inj h ▸ .leave hw hfo.1 hfo.2
    · simp at h

theorem submit_eq_error_iff {a : α} {r : Refusal} :
    p.submit a = .error r ↔ p.offer a = .error r := by
  unfold submit
  cases p.offer a <;> simp

/-- What happens is what the rules say. -/
theorem step_eq_some_iff {e : Event α β} : p.step e = some q ↔ Step p e q :=
  ⟨Step.of_step, Step.step_eq⟩

theorem run_cons_eq_some {e : Event α β} {es : List (Event α β)} (h : p.run (e :: es) = some q) :
    ∃ r, Step p e r ∧ r.run es = some q := by
  obtain ⟨r, hr, hq⟩ := Option.bind_eq_some_iff.mp h
  exact ⟨r, .of_step hr, hq⟩

/-- What every rule keeps is kept by every run. -/
theorem run_keeps {P : Pool α β → Prop}
    (hP : ∀ {p q : Pool α β} {e : Event α β}, P p → Step p e q → P q) :
    ∀ {es : List (Event α β)} {p q : Pool α β}, P p → p.run es = some q → P q
  | [], _, _, hp, h => Option.some.inj h ▸ hp
  | _ :: _, _, _, hp, h =>
    let ⟨_, hr, hq⟩ := run_cons_eq_some h
    run_keeps hP (hP hp hr) hq

end Pool

namespace Service

open Dispatch (Execution Happening)

/-- The rules by which things happen in a pool at work. -/
inductive Step (s : Service) : Event → Service → Prop
  | queue {e : Queue.Event Submission Result} {pool : DispatchPool} (he : e.isReply = false)
    (h : Pool.Step s.pool e pool) : Step s (.queue e) { s with pool }
  | happen {w : Nat} {t : Ticket Submission} {x y : Execution} {h : Happening}
    (hw : s.ticketAt w = some t) (hx : s.execution? t = some x) (hy : x.after h = some y) :
    Step s (.happen w h) { s with log := s.log ++ [(t.number, h)] }
  | answer {w : Nat} {t : Ticket Submission} {result : Result} {pool : DispatchPool}
    (hw : s.ticketAt w = some t) (hx : s.execution? t = some (.ended (.answered result)))
    (h : Pool.Step s.pool (.complete w result) pool) : Step s (.reply w) { s with pool }
  | crash {w : Nat} {t : Ticket Submission} {pool : DispatchPool}
    (hw : s.ticketAt w = some t) (hx : s.execution? t = some (.ended .crashed))
    (h : Pool.Step s.pool (.crash w) pool) : Step s (.reply w) { s with pool }

variable {s t : Service}

theorem ticketAt_eq_some_iff {w : Nat} {k : Ticket Submission} :
    s.ticketAt w = some k ↔ ∃ drains, s.pool.workers[w]? = some (.serving k drains) := by
  unfold ticketAt
  rw [Option.bind_eq_some_iff]
  constructor
  · rintro ⟨x, hx, hk⟩
    cases x <;> simp only [Worker.ticket?, reduceCtorEq, Option.some.injEq] at hk
    exact ⟨_, hk ▸ hx⟩
  · rintro ⟨drains, h⟩
    exact ⟨_, h, rfl⟩

theorem inPool_eq_some {e : Queue.Event Submission Result} (h : s.inPool e = some t) :
    ∃ pool, Pool.Step s.pool e pool ∧ t = { s with pool } := by
  obtain ⟨pool, hp, rfl⟩ := Option.map_eq_some_iff.mp h
  exact ⟨pool, .of_step hp, rfl⟩

theorem Step.step_eq {e : Event} (h : Step s e t) : s.step e = some t := by
  cases h with
  | queue he h =>
    simp only [step, he, Bool.false_eq_true, ↓reduceIte, inPool, h.step_eq, Option.map_some]
  | happen hw hx hy => simp only [step, hw, hx, hy, Option.bind_some]
  | answer hw hx h =>
    simp only [step, hw, hx, Option.bind_some, inPool, h.step_eq, Option.map_some]
  | crash hw hx h =>
    simp only [step, hw, hx, Option.bind_some, inPool, h.step_eq, Option.map_some]

theorem Step.of_step {e : Event} (h : s.step e = some t) : Step s e t := by
  cases e with
  | queue e =>
    simp only [step] at h
    split_ifs at h with he
    obtain ⟨pool, hp, rfl⟩ := inPool_eq_some h
    exact .queue (Bool.not_eq_true _ ▸ he) hp
  | happen w g =>
    simp only [step] at h
    split at h
    · rename_i k hw
      split at h
      · rename_i y hy
        obtain ⟨x, hx, hy⟩ := Option.bind_eq_some_iff.mp hy
        exact Option.some.inj h ▸ .happen hw hx hy
      · simp at h
    · simp at h
  | reply w =>
    simp only [step] at h
    split at h
    · rename_i result hr
      obtain ⟨k, hw, hx⟩ := Option.bind_eq_some_iff.mp hr
      obtain ⟨pool, hp, rfl⟩ := inPool_eq_some h
      exact .answer hw hx hp
    · rename_i hr
      obtain ⟨k, hw, hx⟩ := Option.bind_eq_some_iff.mp hr
      obtain ⟨pool, hp, rfl⟩ := inPool_eq_some h
      exact .crash hw hx hp
    · simp at h

theorem run_keeps {P : Service → Prop}
    (hP : ∀ {s t : Service} {e : Event}, P s → Step s e t → P t) :
    ∀ {es : List Event} {s t : Service}, P s → s.run es = some t → P t
  | [], _, _, hs, h => Option.some.inj h ▸ hs
  | _ :: _, _, _, hs, h =>
    let ⟨_, hr, ht⟩ := Option.bind_eq_some_iff.mp h
    run_keeps hP (hP hs (.of_step hr)) ht

end Service

end Switchyard.Queue
