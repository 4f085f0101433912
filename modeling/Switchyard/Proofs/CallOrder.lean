import Mathlib.Data.Int.CardIntervalMod
import Switchyard.Proofs.FairShare
import Switchyard.Proofs.TrafficStep

/-!
# The order of calls

Where all endpoints are usable, a call selects the one whose turn it is by the number of earlier
calls for its cluster, whatever else was called for (`Rotation.next_after`), so no two places of a
list are ever more than one selection apart (`Rotation.count_placesFor_le`).

Callers side by side come to what they would one after the other, in the order in which they moved
their cursors (`Callers.ordered_of_run`): the step in which a caller moves its cursor takes the
value that the calls before it have left, and all its other steps change nothing for the rest.
-/

namespace Switchyard.Balance

/-- The endpoint that is next in turn after some calls, if every one of them is usable. -/
def Call.inTurn (c : Call) (before : List Call) : Option Endpoint :=
  c.endpoints[before.countP (·.isFor c.hint) % c.endpoints.length]?

namespace Rotation

theorem place_of_usable {endpoints : List Endpoint} {start : UInt64}
    (h : isUsableAt endpoints (start.toNat % endpoints.length) = true) :
    place endpoints start = some (start.toNat % endpoints.length) := by
  have hpos : 0 < endpoints.length := Nat.zero_lt_of_lt (isUsableAt_lt h)
  exact find?_of_head? (head?_lap hpos start) h

section Named

variable {before : List Call} {c : Call} {hint : String}

theorem countP_moves (h : ∀ b ∈ before, b.hint ≠ "") (hint : String) :
    before.countP (·.moves hint) = before.countP (·.isFor hint) :=
  List.countP_congr fun b hb => by rw [Call.moves_eq_isFor (h b hb)]

theorem toNat_cursor_after (h : ∀ b ∈ before, b.hint ≠ "")
    (hlt : before.countP (·.isFor hint) < 2 ^ 64) :
    ((empty.after before).cursor hint).toNat = before.countP (·.isFor hint) := by
  rw [cursor_after, countP_moves h, show empty.cursor hint = 0 from rfl, UInt64.zero_add,
    UInt64.toNat_ofNat_of_lt' hlt]

theorem isUsableAt_of_lt {endpoints : List Endpoint} {p : Nat}
    (h : ∀ e ∈ endpoints, e.isUsable = true) (hp : p < endpoints.length) :
    isUsableAt endpoints p = true :=
  isUsableAt_iff.mpr ⟨endpoints[p], List.getElem?_eq_getElem hp, h _ (List.getElem_mem hp)⟩

/-- A call selects the endpoint that is next in turn. -/
theorem next_after (hbefore : ∀ b ∈ before, b.hint ≠ "") (hc : c.hint ≠ "")
    (husable : ∀ e ∈ c.endpoints, e.isUsable = true)
    (hlt : before.countP (·.isFor c.hint) < 2 ^ 64) :
    ((empty.after before).next c.endpoints c.hint).2 = c.inTurn before := by
  rw [next_snd_eq_nextPlace, nextPlace, Call.key_of_named hc, Call.inTurn]
  by_cases hnil : c.endpoints = []
  · simp [hnil, place, lap]
  · have hp := Nat.mod_lt ((empty.after before).cursor c.hint).toNat (List.length_pos_iff.mpr hnil)
    rw [place_of_usable (isUsableAt_of_lt husable hp), Option.bind_some,
      toNat_cursor_after hbefore hlt]

end Named

section Fixed

variable {calls : List Call} {hint : String} {endpoints : List Endpoint}

/-- Calls for one list of usable endpoints take one place after the other. -/
theorem placesFor_of_usable (hnamed : ∀ c ∈ calls, c.hint ≠ "")
    (husable : ∀ c ∈ calls, ∀ e ∈ c.endpoints, e.isUsable = true)
    (hlist : ∀ c ∈ calls, c.isFor hint = true → c.endpoints = endpoints)
    (hle : calls.countP (·.isFor hint) ≤ 2 ^ 64) (hpos : 0 < endpoints.length) :
    empty.placesFor hint calls
      = (List.range (calls.countP (·.isFor hint))).map fun k => some (k % endpoints.length) := by
  rw [placesFor_eq empty fun c hc hm => hlist c hc (Call.moves_eq_isFor (hnamed c hc) hint ▸ hm),
    countP_moves hnamed]
  refine List.map_congr_left fun k hk => ?_
  have hlt := List.mem_range.mp hk
  obtain ⟨c, hc, hfor⟩ := List.countP_pos_iff.mp (Nat.zero_lt_of_lt hlt)
  have hall : ∀ e ∈ endpoints, e.isUsable = true := hlist c hc hfor ▸ husable c hc
  have hk' : (UInt64.ofNat k).toNat = k := UInt64.toNat_ofNat_of_lt' (hlt.trans_le hle)
  rw [show empty.cursor hint = 0 from rfl, UInt64.zero_add, place_of_usable, hk']
  exact isUsableAt_of_lt hall (Nat.mod_lt _ hpos)

/-- No place is selected more than once more often than any other one. -/
theorem count_placesFor_le (hnamed : ∀ c ∈ calls, c.hint ≠ "")
    (husable : ∀ c ∈ calls, ∀ e ∈ c.endpoints, e.isUsable = true)
    (hlist : ∀ c ∈ calls, c.isFor hint = true → c.endpoints = endpoints)
    (hle : calls.countP (·.isFor hint) ≤ 2 ^ 64) {p q : Nat} (hp : p < endpoints.length)
    (hq : q < endpoints.length) : (empty.placesFor hint calls).count (some p)
      ≤ (empty.placesFor hint calls).count (some q) + 1 := by
  have hpos : 0 < endpoints.length := Nat.zero_lt_of_lt hp
  have hcount : ∀ i < endpoints.length, (empty.placesFor hint calls).count (some i)
      = (calls.countP (·.isFor hint)).count (· ≡ i [MOD endpoints.length]) := by
    intro i hi
    rw [placesFor_of_usable hnamed husable hlist hle hpos, List.count, List.countP_map, Nat.count]
    refine List.countP_congr fun k _ => ?_
    simp [Nat.ModEq, Nat.mod_eq_of_lt hi]
  rw [hcount p hp, hcount q hq, Nat.count_modEq_card _ hpos, Nat.count_modEq_card _ hpos]
  split_ifs <;> omega

end Fixed

end Rotation

theorem Caller.goOn_cases {x : Caller} {r : Rotation} {stage : CallStage}
    (h : x.goOn r = some stage) :
    x.stage = .asked ∧ x.call.endpoints = [] ∧ stage = .answered none
    ∨ x.stage = .asked ∧ x.call.endpoints ≠ [] ∧ stage = .missed
    ∨ (x.stage = .asked ∧ x.call.endpoints ≠ [] ∨ x.stage = .missed)
      ∧ stage = .turned (r.cursor x.call.key)
    ∨ ∃ start, x.stage = .turned start
      ∧ stage = .answered (Rotation.pick x.call.endpoints start) := by
  unfold goOn at h
  split at h
  · rename_i hstage
    simp only [List.isEmpty_iff] at h
    split_ifs at h with hnil hfound
    · exact Or.inl ⟨hstage, hnil, (Option.some.inj h).symm⟩
    · rw [← Call.key_of_named hfound.1] at h
      exact Or.inr (Or.inr (Or.inl ⟨Or.inl ⟨hstage, hnil⟩, (Option.some.inj h).symm⟩))
    · exact Or.inr (Or.inl ⟨hstage, hnil, (Option.some.inj h).symm⟩)
  · rename_i hstage
    exact Or.inr (Or.inr (Or.inl ⟨Or.inr hstage, (Option.some.inj h).symm⟩))
  · rename_i start hstage
    exact Or.inr (Or.inr (Or.inr ⟨start, hstage, (Option.some.inj h).symm⟩))
  · cases h

/-- Nobody ever waits for anybody else. -/
theorem Caller.exists_goOn {x : Caller} (h : ∀ result, x.stage ≠ .answered result)
    (r : Rotation) : ∃ stage, x.goOn r = some stage := by
  unfold goOn
  split
  · split_ifs <;> exact ⟨_, rfl⟩
  · exact ⟨_, rfl⟩
  · exact ⟨_, rfl⟩
  · rename_i result hstage
    exact absurd hstage (h result)

namespace Callers

open Dispatch (getElem?_set_cases getElem?_concat_cases)

/-- A caller has moved its cursor, which had the value that the calls before its own have left. -/
def Turned (r : Rotation) (turns : List CallTurn) (i : Nat) (c : Call) (start : UInt64) : Prop :=
  c.endpoints ≠ [] ∧ ∃ before rest, turns = before ++ ⟨i, c⟩ :: rest
    ∧ start = (r.after (before.map (·.call))).cursor c.key

/-- Where a caller is, by the calls that have moved a cursor. -/
def Stands (r : Rotation) (turns : List CallTurn) (i : Nat) (x : Caller) : Prop :=
  match x.stage with
  | .asked => ∀ t ∈ turns, t.caller ≠ i
  | .missed => x.call.endpoints ≠ [] ∧ ∀ t ∈ turns, t.caller ≠ i
  | .turned start => Turned r turns i x.call start
  | .answered result => x.call.endpoints = [] ∧ result = none
    ∨ ∃ start, Turned r turns i x.call start ∧ result = Rotation.pick x.call.endpoints start

/-- Callers who have called one after the other, from a rotation on, in the order of their turns. -/
structure Ordered (r : Rotation) (s : Callers) : Prop where
  rotation : s.rotation = r.after (s.turns.map (·.call))
  once : (s.turns.map (·.caller)).Nodup
  known : ∀ t ∈ s.turns, t.caller < s.callers.length
  stands : ∀ i x, s.callers[i]? = some x → Stands r s.turns i x

variable {r : Rotation} {s t : Callers} {turns : List CallTurn} {i j : Nat} {x : Caller} {c : Call}

theorem ordered_start (r : Rotation) : Ordered r (start r) :=
  ⟨rfl, List.nodup_nil, by simp [start], by simp [start]⟩

theorem Turned.concat {start : UInt64} (h : Turned r turns i c start) (u : CallTurn) :
    Turned r (turns ++ [u]) i c start := by
  obtain ⟨hne, before, rest, rfl, hstart⟩ := h
  exact ⟨hne, before, rest ++ [u], by simp, hstart⟩

/-- The turn of another caller makes no difference. -/
theorem Stands.concat (h : Stands r turns j x) (hj : j ≠ i) :
    Stands r (turns ++ [⟨i, c⟩]) j x := by
  have hothers : (∀ t ∈ turns, t.caller ≠ j) → ∀ t ∈ turns ++ [⟨i, c⟩], t.caller ≠ j := by
    intro hold t ht
    rcases List.mem_append.mp ht with ht | ht
    · exact hold t ht
    · rw [List.mem_singleton.mp ht]
      exact Ne.symm hj
  unfold Stands at h ⊢
  cases hstage : x.stage with
  | asked => rw [hstage] at h; exact hothers h
  | missed => rw [hstage] at h; exact ⟨h.1, hothers h.2⟩
  | turned start => rw [hstage] at h; exact h.concat _
  | answered result =>
    rw [hstage] at h
    rcases h with h | ⟨start, ht, hr⟩
    · exact Or.inl h
    · exact Or.inr ⟨start, ht.concat _, hr⟩

theorem Ordered.ask (h : Ordered r s) (c : Call) :
    Ordered r { s with callers := s.callers ++ [⟨c, .asked⟩] } := by
  refine ⟨h.rotation, h.once, fun t ht => ?_, fun j y hj => ?_⟩
  · have := h.known t ht
    simp only [List.length_append]
    omega
  · rcases getElem?_concat_cases hj with hj | ⟨rfl, rfl⟩
    · exact h.stands j y hj
    · exact fun t ht => Nat.ne_of_lt (h.known t ht)

/-- A caller gets to a stage without a turn. -/
theorem Ordered.move (h : Ordered r s) (hi : s.callers[i]? = some x) {stage : CallStage}
    (hstands : Stands r s.turns i ⟨x.call, stage⟩) :
    Ordered r { s with callers := s.callers.set i ⟨x.call, stage⟩ } := by
  refine ⟨h.rotation, h.once, fun t ht => ?_, fun j y hj => ?_⟩
  · simpa using h.known t ht
  · rcases getElem?_set_cases hi hj with ⟨rfl, rfl⟩ | ⟨-, hj⟩
    · exact hstands
    · exact h.stands j y hj

/-- A caller takes its turn. -/
theorem Ordered.turn (h : Ordered r s) (hi : s.callers[i]? = some x)
    (hne : x.call.endpoints ≠ []) (hnew : ∀ t ∈ s.turns, t.caller ≠ i) :
    Ordered r (s.put i x.call (.turned (s.rotation.cursor x.call.key))) := by
  have hlt := (List.getElem?_eq_some_iff.mp hi).1
  refine ⟨?_, ?_, fun t ht => ?_, fun j y hj => ?_⟩
  · simp only [put]
    rw [List.map_append, List.map_singleton, Rotation.after_concat, Rotation.next_fst, if_neg hne,
      ← h.rotation]
  · simp only [put]
    rw [List.map_append, List.map_singleton, List.nodup_append]
    refine ⟨h.once, List.nodup_singleton _, fun a ha b hb => ?_⟩
    obtain ⟨t, ht, rfl⟩ := List.mem_map.mp ha
    rw [List.mem_singleton.mp hb]
    exact hnew t ht
  · simp only [put, List.length_set]
    rcases List.mem_append.mp ht with ht | ht
    · exact h.known t ht
    · rw [List.mem_singleton.mp ht]
      exact hlt
  · rcases getElem?_set_cases hi hj with ⟨rfl, rfl⟩ | ⟨hne', hj⟩
    · exact ⟨hne, s.turns, [], rfl, by rw [h.rotation]⟩
    · exact (h.stands j y hj).concat hne'

theorem Ordered.step {e : Event} (h : Ordered r s) (hstep : s.step e = some t) : Ordered r t := by
  cases e with
  | ask c =>
    cases hstep
    exact h.ask c
  | goOn i =>
    simp only [Callers.step] at hstep
    split at hstep
    · cases hstep
    rename_i x hi
    obtain ⟨stage, hgo, rfl⟩ := Option.map_eq_some_iff.mp hstep
    have hx := h.stands i x hi
    unfold Stands at hx
    -- only the third way takes a turn
    rcases Caller.goOn_cases hgo with ⟨hstage, hnil, rfl⟩ | ⟨hstage, hne, rfl⟩ | ⟨hstage, rfl⟩
      | ⟨start, hstage, rfl⟩
    · exact h.move hi (Or.inl ⟨hnil, rfl⟩)
    · rw [hstage] at hx
      exact h.move hi ⟨hne, hx⟩
    · rcases hstage with ⟨hstage, hne⟩ | hstage
      · rw [hstage] at hx
        exact h.turn hi hne hx
      · rw [hstage] at hx
        exact h.turn hi hx.1 hx.2
    · rw [hstage] at hx
      exact h.move hi (Or.inr ⟨start, hx, rfl⟩)

theorem ordered_of_run {events : List Event} (h : Ordered r s) (hrun : s.run events = some t) :
    Ordered r t := by
  induction events generalizing s with
  | nil =>
    cases hrun
    exact h
  | cons e es ih =>
    obtain ⟨u, hu, hrun⟩ := Option.bind_eq_some_iff.mp hrun
    exact ih (h.step hu) hrun

theorem Ordered.answer_eq (h : Ordered r s) {result : Option Endpoint}
    (hi : s.callers[i]? = some ⟨c, .answered result⟩) : c.endpoints = [] ∧ result = none
      ∨ ∃ before rest, s.turns = before ++ ⟨i, c⟩ :: rest
        ∧ result = ((r.after (before.map (·.call))).next c.endpoints c.hint).2 := by
  rcases h.stands i _ hi with hnil | ⟨start, ⟨-, before, rest, hturns, hstart⟩, hresult⟩
  · exact Or.inl hnil
  · refine Or.inr ⟨before, rest, hturns, ?_⟩
    rw [Rotation.next_snd, ← hstart]
    exact hresult

theorem exists_step (hi : s.callers[i]? = some x) (h : ∀ result, x.stage ≠ .answered result) :
    ∃ t, s.step (.goOn i) = some t := by
  obtain ⟨stage, hgo⟩ := Caller.exists_goOn h s.rotation
  refine ⟨s.put i x.call stage, ?_⟩
  simp only [step, hi, hgo, Option.map_some]

end Callers

/-- Calls that name their clusters, for lists of usable endpoints only, are answered in turn: each
with the endpoint at the number of earlier calls for its cluster, counted around its own list.
Calls for other clusters and for empty lists are not counted, and a list that has changed goes on
where the last one stopped.  So after any number of calls for one list no two of its places are
more than one selection apart.  Callers side by side have the answers of calls in the order in
which they have moved their cursors, each of them once, and can always go on. -/
theorem Rotation.selects_in_turn (calls : List Call) (hnamed : ∀ c ∈ calls, c.hint ≠ "")
    (husable : ∀ c ∈ calls, ∀ e ∈ c.endpoints, e.isUsable = true) :
    (∀ before c rest, calls = before ++ c :: rest → before.countP (·.isFor c.hint) < 2 ^ 64 →
      ((empty.after before).next c.endpoints c.hint).2 = c.inTurn before)
    ∧ (∀ hint endpoints, (∀ c ∈ calls, c.isFor hint = true → c.endpoints = endpoints) →
      ∀ n, (calls.take n).countP (·.isFor hint) ≤ 2 ^ 64 →
        ∀ p < endpoints.length, ∀ q < endpoints.length,
          (empty.placesFor hint (calls.take n)).count (some p)
            ≤ (empty.placesFor hint (calls.take n)).count (some q) + 1)
    ∧ ∀ events s, (Callers.start empty).run events = some s → s.turns.map (·.call) = calls →
      (s.turns.map (·.caller)).Nodup ∧ ∀ i x, s.callers[i]? = some x →
        (∀ result, x.stage = .answered result → x.call.endpoints = [] ∧ result = none
          ∨ ∃ before rest, s.turns = before ++ ⟨i, x.call⟩ :: rest
            ∧ ((before.map (·.call)).countP (·.isFor x.call.hint) < 2 ^ 64 →
              result = x.call.inTurn (before.map (·.call))))
        ∧ ((∀ result, x.stage ≠ .answered result) → ∃ t, s.step (.goOn i) = some t) := by
  have hlaw : ∀ before c rest, calls = before ++ c :: rest →
      before.countP (·.isFor c.hint) < 2 ^ 64 →
      ((empty.after before).next c.endpoints c.hint).2 = c.inTurn before := by
    rintro before c rest rfl hlt
    exact next_after (fun b hb => hnamed b (List.mem_append_left _ hb)) (hnamed c (by simp))
      (husable c (by simp)) hlt
  refine ⟨hlaw, fun hint endpoints hlist n hle p hp q hq => ?_, fun events s hrun hcalls => ?_⟩
  · have hmem : ∀ c ∈ calls.take n, c ∈ calls := fun c hc => List.mem_of_mem_take hc
    exact count_placesFor_le (fun c hc => hnamed c (hmem c hc)) (fun c hc => husable c (hmem c hc))
      (fun c hc => hlist c (hmem c hc)) hle hp hq
  · have hs := Callers.ordered_of_run (Callers.ordered_start empty) hrun
    refine ⟨hs.once, fun i ⟨c, stage⟩ hi => ⟨?_, Callers.exists_step hi⟩⟩
    rintro result rfl
    rcases hs.answer_eq hi with hnil | ⟨before, rest, hturns, hresult⟩
    · exact Or.inl hnil
    · refine Or.inr ⟨before, rest, hturns, fun hlt => ?_⟩
      rw [hresult]
      refine hlaw _ _ (rest.map (·.call)) ?_ hlt
      rw [← hcalls, hturns, List.map_append, List.map_cons]

/-- Calls for a cluster before and after its list has changed. -/
def grownList : List Call :=
  [⟨[⟨"a", 1, .unknown⟩], "x"⟩, ⟨[⟨"b", 1, .healthy⟩, ⟨"c", 1, .unknown⟩], "x"⟩]

/-- The callers of `grownList`, both of whom look for the cursor before it is made, and one with
nothing to select from. -/
def bothMissed : List Callers.Event :=
  [.ask ⟨[⟨"b", 1, .healthy⟩, ⟨"c", 1, .unknown⟩], "x"⟩, .ask ⟨[⟨"a", 1, .unknown⟩], "x"⟩,
    .ask ⟨[], "x"⟩, .goOn 0, .goOn 1, .goOn 2, .goOn 1, .goOn 0, .goOn 0]

theorem Rotation.selects_in_turn_bothMissed :
    ((empty.after (grownList.take 1)).next [⟨"b", 1, .healthy⟩, ⟨"c", 1, .unknown⟩] "x").2
      = some ⟨"c", 1, .unknown⟩
    ∧ ∃ s, (Callers.start empty).run bothMissed = some s ∧ s.turns.map (·.call) = grownList
      ∧ s.callers.map (·.stage)
        = [.answered (some ⟨"c", 1, .unknown⟩), .turned 0, .answered none]
      ∧ ∃ t, s.step (.goOn 1) = some t := by
  obtain ⟨hlaw, -, hcallers⟩ := selects_in_turn grownList (by decide) (by decide)
  have hlast := hlaw (grownList.take 1) ⟨[⟨"b", 1, .healthy⟩, ⟨"c", 1, .unknown⟩], "x"⟩ [] rfl
    (by decide)
  refine ⟨hlast, _, rfl, rfl, rfl, ?_⟩
  obtain ⟨-, hall⟩ := hcallers bothMissed _ rfl rfl
  obtain ⟨-, hgo⟩ := hall 1 _ rfl
  exact hgo fun result h => by cases h

end Switchyard.Balance
