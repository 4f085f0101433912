import Switchyard.Proofs.Correlation
import Switchyard.Proofs.Refusals
import Switchyard.Proofs.Trimming

/-!
# The cluster that a request names

A value of the context header is a name between gaps (`Spells`) if all its bytes are text and one
of them is no gap; it is read off the value by trimming (`names_iff`).

A request that names a cluster is for it and for no other.  The default is for the others
(`Inbound.unnamed_iff`): those without a value, those whose first value is blank, and those whose
first value has a byte that is no text, whatever else it says.
-/

namespace Switchyard

namespace Gateway

open Http (Headers textOf?)

/-- A tab or a space. -/
def IsGap (b : UInt8) : Prop := b = 9 ∨ b = 32

/-- A byte of a text: a tab, or a printable character of ASCII. -/
def IsText (b : UInt8) : Prop := b = 9 ∨ 32 ≤ b ∧ b < 127

def textOf (bytes : List UInt8) : String := String.ofList (bytes.map fun b => Char.ofNat b.toNat)

/-- What a value of the context header names: a text that is left of it when the gaps at both ends
are gone. -/
def Spells (value : List UInt8) (c : String) : Prop :=
  ∃ before name after, value = before ++ name ++ after ∧ (∀ b ∈ before ++ after, IsGap b)
    ∧ (∀ b ∈ name, IsText b) ∧ name ≠ [] ∧ (∀ b ∈ name.head?, ¬IsGap b)
    ∧ (∀ b ∈ name.getLast?, ¬IsGap b) ∧ c = textOf name

theorem IsGap.isText {b : UInt8} (h : IsGap b) : IsText b := by
  rcases h with rfl | rfl
  · exact Or.inl rfl
  · exact Or.inr (by decide)

theorem isBlank_iff_isGap {b : UInt8} (h : IsText b) :
    isBlank (Char.ofNat b.toNat) = true ↔ IsGap b := by
  have hall : ∀ n : Fin 127, n.val = 9 ∨ 32 ≤ n.val →
      (isBlank (Char.ofNat n.val) = true ↔ n.val = 9 ∨ n.val = 32) := by decide +kernel
  have hb : b.toNat = 9 ∨ 32 ≤ b.toNat ∧ b.toNat < 127 := by
    rcases h with rfl | h
    · exact Or.inl rfl
    · exact Or.inr ⟨UInt8.le_iff_toNat_le.mp h.1, UInt8.lt_iff_toNat_lt.mp h.2⟩
  rw [hall ⟨b.toNat, by omega⟩ (hb.imp_right And.left)]
  unfold IsGap
  rw [← UInt8.toNat_inj, ← UInt8.toNat_inj]
  rfl

theorem textOf?_eq_some_iff {value : List UInt8} {t : String} :
    textOf? value = some t ↔ (∀ b ∈ value, IsText b) ∧ t = textOf value := by
  have hall : value.all (fun b => b == 9 || (32 ≤ b && b < 127)) = true ↔ ∀ b ∈ value, IsText b := by
    simp [IsText]
  unfold textOf?
  rw [← hall]
  split_ifs with h
  · simp [h, textOf, eq_comm]
  · simp [h]

theorem toList_textOf (bytes : List UInt8) :
    (textOf bytes).toList = bytes.map fun b => Char.ofNat b.toNat := String.toList_ofList

theorem Spells.trim_eq {value : List UInt8} {c : String} (h : Spells value c) :
    (∀ b ∈ value, IsText b) ∧ trim (textOf value) = c ∧ c ≠ "" := by
  obtain ⟨before, name, after, rfl, hgaps, htext, hne, hhead, hlast, rfl⟩ := h
  have hgap : ∀ b, IsGap b → isBlank (Char.ofNat b.toNat) = true :=
    fun b hb => (isBlank_iff_isGap hb.isText).mpr hb
  have hsolid : ∀ b ∈ name, ¬IsGap b → isBlank (Char.ofNat b.toNat) = false :=
    fun b hb hn => Bool.not_eq_true _ ▸ mt (isBlank_iff_isGap (htext b hb)).mp hn
  refine ⟨fun b hb => ?_, ?_, ?_⟩
  · rw [List.mem_append, List.mem_append] at hb
    rcases hb with (hb | hb) | hb
    · exact (hgaps b (List.mem_append_left _ hb)).isText
    · exact htext b hb
    · exact (hgaps b (List.mem_append_right _ hb)).isText
  · rw [trim, toList_textOf, List.map_append, List.map_append, trimBoth_append, textOf]
    · intro c hc
      obtain ⟨b, hb, rfl⟩ := List.mem_map.mp hc
      exact hgap b (hgaps b (List.mem_append_left _ hb))
    · intro c hc
      obtain ⟨b, hb, rfl⟩ := List.mem_map.mp hc
      exact hgap b (hgaps b (List.mem_append_right _ hb))
    · simpa using hne
    · intro c hc
      rw [List.head?_map] at hc
      obtain ⟨b, hb, rfl⟩ := Option.map_eq_some_iff.mp hc
      exact hsolid b (List.mem_of_head? hb) (hhead b hb)
    · intro c hc
      rw [List.getLast?_map] at hc
      obtain ⟨b, hb, rfl⟩ := Option.map_eq_some_iff.mp hc
      exact hsolid b (List.mem_of_getLast? hb) (hlast b hb)
  · intro hc
    have := congrArg String.toList hc
    rw [toList_textOf] at this
    exact hne (List.map_eq_nil_iff.mp this)

theorem spells_trim {value : List UInt8} (htext : ∀ b ∈ value, IsText b)
    (hne : trim (textOf value) ≠ "") : Spells value (trim (textOf value)) := by
  obtain ⟨before, after, heq, hb, ha, hhead, hlast⟩ :=
    exists_of_trimBoth isBlank (textOf value).toList
  rw [← trim_toList] at heq hhead hlast
  rw [toList_textOf] at heq
  obtain ⟨front, vafter, rfl, hfront, rfl⟩ := List.map_eq_append_iff.mp heq
  obtain ⟨vbefore, name, rfl, rfl, hname⟩ := List.map_eq_append_iff.mp hfront
  rw [← hname] at hhead hlast
  have hgap : ∀ b ∈ vbefore ++ name ++ vafter, isBlank (Char.ofNat b.toNat) = true → IsGap b :=
    fun b hm hb => (isBlank_iff_isGap (htext b hm)).mp hb
  have hsolid : ∀ b, isBlank (Char.ofNat b.toNat) = false → ¬IsGap b := fun b hb hg => by
    rw [(isBlank_iff_isGap hg.isText).mpr hg] at hb
    cases hb
  refine ⟨vbefore, name, vafter, rfl, fun b hm => ?_, fun b hm => htext b (by simp [hm]), ?_,
    fun b hm => hsolid b (hhead _ ?_), fun b hm => hsolid b (hlast _ ?_), ?_⟩
  · rcases List.mem_append.mp hm with hm | hm
    · exact hgap b (by simp [hm]) (hb _ (List.mem_map_of_mem hm))
    · exact hgap b (by simp [hm]) (ha _ (List.mem_map_of_mem hm))
  · rintro rfl
    exact hne (String.toList_injective hname.symm)
  · rw [List.head?_map]
    exact Option.mem_map_of_mem _ hm
  · rw [List.getLast?_map]
    exact Option.mem_map_of_mem _ hm
  · exact String.ofList_toList.symm.trans (congrArg String.ofList hname.symm)

/-- A request names a cluster by the first value of its context header. -/
def Inbound.Names (i : Inbound) (c : String) : Prop :=
  ∃ value, Headers.first? contextHeader i.headers = some value ∧ Spells value c

theorem Inbound.names_iff {i : Inbound} {c : String} :
    i.Names c ↔ contextId i.headers none = some c := by
  symm
  unfold contextId
  constructor
  · intro h
    split at h
    · cases h
    · rename_i named hnamed
      obtain ⟨value, hvalue, ht⟩ := Option.bind_eq_some_iff.mp hnamed
      obtain ⟨htext, rfl⟩ := textOf?_eq_some_iff.mp ht
      split_ifs at h with hne
      obtain rfl := Option.some.inj h
      exact ⟨value, hvalue, spells_trim htext hne⟩
  · rintro ⟨value, hvalue, hspells⟩
    obtain ⟨htext, rfl, hne⟩ := hspells.trim_eq
    have ht : textOf? value = some (textOf value) := textOf?_eq_some_iff.mpr ⟨htext, rfl⟩
    simp only [hvalue, Option.bind_some, ht, if_neg hne]

/-- What the default is for, if there is one. -/
theorem contextId_eq_or (hs : Headers) (default : Option String) :
    contextId hs default = (contextId hs none).or default := by
  unfold contextId
  split
  · rfl
  · split_ifs <;> rfl

theorem exists_spells_iff {value : List UInt8} :
    (∃ c, Spells value c) ↔ (∀ b ∈ value, IsText b) ∧ ∃ b ∈ value, ¬IsGap b := by
  constructor
  · rintro ⟨c, hc⟩
    refine ⟨hc.trim_eq.1, ?_⟩
    obtain ⟨before, name, after, rfl, -, -, hne, hhead, -, -⟩ := hc
    obtain ⟨b, name, rfl⟩ := List.exists_cons_of_ne_nil hne
    exact ⟨b, by simp, hhead b rfl⟩
  · rintro ⟨htext, b, hb, hgap⟩
    refine ⟨_, spells_trim htext fun hempty => hgap ?_⟩
    have hblank : ∀ c ∈ (textOf value).toList, isBlank c = true :=
      trimBoth_eq_nil_iff.mp (by rw [← trim_toList, hempty]; rfl)
    rw [toList_textOf] at hblank
    exact (isBlank_iff_isGap (htext b hb)).mp (hblank _ (List.mem_map_of_mem hb))

/-- A request names no cluster if it has no value, if there is a byte in its first value that is no
text, or if that is blank. -/
theorem Inbound.unnamed_iff {i : Inbound} : (∀ c, ¬i.Names c)
    ↔ ∀ value, Headers.first? contextHeader i.headers = some value →
      (∃ b ∈ value, ¬IsText b) ∨ ∀ b ∈ value, IsGap b := by
  constructor
  · intro h value hvalue
    by_contra hnot
    push Not at hnot
    obtain ⟨c, hc⟩ := exists_spells_iff.mpr hnot
    exact h c ⟨value, hvalue, hc⟩
  · rintro h c ⟨value, hvalue, hc⟩
    obtain ⟨htext, b, hb, hgap⟩ := exists_spells_iff.mp ⟨c, hc⟩
    rcases h value hvalue with ⟨b', hb', hnot⟩ | hall
    · exact hnot (htext b' hb')
    · exact hgap (hall b hb)

theorem Front.contextId_of_admitted {g : Front} {i : Inbound} {x : Queue.Submission}
    (h : g.admit i = .admitted x) : contextId i.headers g.defaultContextId
      = some x.request.contextId := by
  unfold Front.admit at h
  split at h
  · cases h
  · rename_i c hc
    split_ifs at h
    obtain rfl := Admission.admitted.inj h
    exact hc

namespace Site

variable {s : Site} {v : Visit}

/-- The request with that number in the queue is for that cluster, and so is every trip that is
made for it and every turn that a balancer takes for it. -/
structure IsFor (s : Site) (n : Nat) (c : String) : Prop where
  request : ∃ x, s.pool.requests[n]? = some x ∧ x.request.contextId = c
  trip : ∀ (k : Nat) (trip : Dispatch.Trip), s.pool.received[k]? = some n →
    s.traffic.trips[k]? = some trip → trip.request.contextId = c
  turn : ∀ turn ∈ s.traffic.turns, s.pool.received[turn.trip]? = some n →
    turn.request.contextId = c

section Run

variable {g : Front} {capacity workers : Nat} {signal : Signal} {d : Dispatch.Dispatcher}
  {es : List Event}

/-- A request that is let in is for the cluster that it names, or for the default. -/
theorem isFor_of_run (h : (start g capacity workers signal d).run es = some s) (hv : v ∈ s.visits)
    {n : Nat} (hn : v.place = .ok n) :
    ∃ c, contextId v.inbound.headers s.front.defaultContextId = some c ∧ s.IsFor n c := by
  have hlinked := linked_of_run h
  have hn := Visit.number?_eq_some_iff.mpr hn
  obtain ⟨x, hx, hxn⟩ := hlinked.admitted v hv n hn
  have hc := Front.contextId_of_admitted hx
  rw [Visit.received, contextId_withId] at hc
  refine ⟨_, hc, ⟨x, hxn, rfl⟩, fun k trip hk ht => ?_, fun turn ht hk => ?_⟩
  · obtain ⟨y, hy, hreq⟩ := hlinked.made k n trip hk ht
    rw [hxn, Option.some.injEq] at hy
    rw [hreq, hy]
  · obtain ⟨y, hy, hreq⟩ := request_of_turn h hv hn ht hk
    rw [hx, Admission.admitted.injEq] at hy
    rw [hreq, hy]

theorem noCluster_of_run (h : (start g capacity workers signal d).run es = some s)
    (hv : v ∈ s.visits) :
    v.place = .error .noCluster ↔ contextId v.inbound.headers s.front.defaultContextId = none := by
  constructor
  · intro hp
    obtain ⟨p, hr⟩ := refuses_of_run h hv hp
    cases hr with
    | noCluster hturned =>
      have := Front.admit_eq_noCluster_iff.mp hturned
      rwa [Visit.received, contextId_withId] at this
  · intro hc
    cases hp : v.place with
    | ok n =>
      obtain ⟨c, hsome, -⟩ := isFor_of_run h hv hp
      rw [hc] at hsome
      cases hsome
    | error course =>
      have hturned : s.front.admit v.received = .noCluster :=
        Front.admit_eq_noCluster_iff.mpr (by rw [Visit.received, contextId_withId, hc])
      obtain ⟨p, hr⟩ := refuses_of_run h hv hp
      cases hr with
      | noCluster => rfl
      | tooLarge h | refused h => rw [hturned] at h; cases h

/-- What a request names decides where it goes.  In any run, a request that names a cluster is
never turned away for want of one, and if it is let in it is for that cluster.  A request that names
none is for the default, and is turned away if there is no default.  Those that name none are
those without a value, those with a byte in their first value that is no text, and those whose
first value is blank. -/
theorem default_iff_unnamed (h : (start g capacity workers signal d).run es = some s)
    (hv : v ∈ s.visits) :
    (∀ c, v.inbound.Names c → v.place ≠ .error .noCluster ∧ ∀ n, v.place = .ok n → s.IsFor n c)
    ∧ ((∀ c, ¬v.inbound.Names c) → (g.defaultContextId = none → v.place = .error .noCluster)
      ∧ ∀ n, v.place = .ok n → ∃ c, g.defaultContextId = some c ∧ s.IsFor n c)
    ∧ ((∀ c, ¬v.inbound.Names c)
      ↔ ∀ value, Headers.first? contextHeader v.inbound.headers = some value →
        (∃ b ∈ value, ¬IsText b) ∨ ∀ b ∈ value, IsGap b) := by
  have hfront : s.front = g := run_keeps (P := fun s => s.front = g)
    (fun hs hstep => hstep.front_eq.trans hs) rfl h
  have hwhere := contextId_eq_or v.inbound.headers s.front.defaultContextId
  refine ⟨fun c hc => ?_, fun hnone => ?_, Inbound.unnamed_iff⟩
  · rw [Inbound.names_iff.mp hc, Option.some_or] at hwhere
    constructor
    · rw [Ne, noCluster_of_run h hv, hwhere]
      exact Option.some_ne_none c
    · intro n hn
      obtain ⟨c', hc', hfor⟩ := isFor_of_run h hv hn
      rw [hwhere, Option.some.injEq] at hc'
      exact hc' ▸ hfor
  · have hunnamed : contextId v.inbound.headers none = none :=
      Option.eq_none_iff_forall_ne_some.mpr fun c hc => hnone c (Inbound.names_iff.mpr hc)
    rw [hunnamed, Option.none_or, hfront] at hwhere
    constructor
    · intro hd
      rw [noCluster_of_run h hv, hfront, hwhere, hd]
    · intro n hn
      obtain ⟨c, hc, hfor⟩ := isFor_of_run h hv hn
      exact ⟨c, hwhere ▸ hfront ▸ hc, hfor⟩

end Run

/-- Two requests with a value for the cluster: one of the two has a letter that is not of ASCII,
the other has gaps at both ends. -/
def twoNamed : List Event :=
  [.arrive ⟨"GET", some "/", [⟨contextHeader, [115, 118, 99, 195, 132]⟩], []⟩ [1],
    .arrive ⟨"GET", some "/", [⟨contextHeader, [32, 115, 118, 99, 65, 9]⟩], []⟩ [2],
    .receive 0 .zero, .travel (.resolve 0), .travel (.choose 0)]

theorem default_iff_unnamed_letter : ∃ s odd padded,
    (start ⟨some "svcD", 8⟩ 2 1 .make
      (.make { register := { kind := "local", servers := "s" } } none [])).run twoNamed = some s
    ∧ s.visits = [odd, padded]
    ∧ Headers.first? contextHeader odd.inbound.headers = some [115, 118, 99, 195, 132]
    ∧ (∀ c, ¬odd.inbound.Names c) ∧ s.IsFor 0 "svcD"
    ∧ padded.inbound.Names "svcA" ∧ s.IsFor 1 "svcA" := by
  obtain ⟨s, odd, padded, hs, hvisits, hodd, hn, hpadded, hm⟩ : ∃ s odd padded,
      (start ⟨some "svcD", 8⟩ 2 1 .make
        (.make { register := { kind := "local", servers := "s" } } none [])).run twoNamed = some s
      ∧ s.visits = [odd, padded]
      ∧ Headers.first? contextHeader odd.inbound.headers = some [115, 118, 99, 195, 132]
      ∧ odd.place = .ok 0
      ∧ Headers.first? contextHeader padded.inbound.headers = some [32, 115, 118, 99, 65, 9]
      ∧ padded.place = .ok 1 := ⟨_, _, _, rfl, rfl, rfl, rfl, rfl, rfl⟩
  obtain ⟨-, hdefault, hunnamed⟩ := default_iff_unnamed hs (v := odd) (by simp [hvisits])
  obtain ⟨hnamed, -, -⟩ := default_iff_unnamed hs (v := padded) (by simp [hvisits])
  have hodd' : ∀ c, ¬odd.inbound.Names c := by
    rw [hunnamed]
    rintro value hvalue
    obtain rfl := Option.some.inj (hodd.symm.trans hvalue)
    exact Or.inl ⟨195, by simp, by simp [IsText]⟩
  have hpadded' : padded.inbound.Names "svcA" :=
    ⟨_, hpadded, [32], [115, 118, 99, 65], [9], rfl, by simp [IsGap], by simp [IsText], by simp,
      by simp [IsGap], by simp [IsGap], rfl⟩
  obtain ⟨c, hc, hfor⟩ := (hdefault hodd').2 0 hn
  obtain rfl := Option.some.inj hc
  exact ⟨s, odd, padded, hs, hvisits, hodd, hodd', hfor, hpadded', (hnamed _ hpadded').2 1 hm⟩

end Site

end Gateway

end Switchyard
