import Mathlib.Data.List.DropRight
import Mathlib.Data.List.TakeWhile
import Switchyard.Text.Blank

/-!
# Trimming

Trimming takes the characters of a class from both ends of a text and leaves none there
(`exists_of_trimBoth`), so what was put around a text makes no difference to what is left of it
(`trimBoth_pad`).  A mark that has no character of the class is found in a text if and only if it
is found in what is left (`infix_trimBoth_iff`).
-/

namespace Switchyard

variable {p : Char → Bool} {before mid after cs mark : List Char}

theorem trimEnd_eq_nil_iff :
    trimEnd p cs = [] ↔ ∀ c ∈ cs, p c = true := by
  simp [trimEnd, List.dropWhile_eq_nil_iff]

theorem trimBoth_eq_nil_iff :
    trimBoth p cs = [] ↔ ∀ c ∈ cs, p c = true := by
  unfold trimBoth
  rw [trimEnd_eq_nil_iff]
  constructor
  · intro h
    rw [← List.dropWhile_eq_nil_iff]
    by_contra hne
    have hhead := List.head_dropWhile_not p hne
    rw [h _ (List.head_mem hne)] at hhead
    cases hhead
  · intro h c hc
    exact h c ((List.dropWhile_sublist p).subset hc)

theorem dropWhile_append_of_head (hb : ∀ c ∈ before, p c = true)
    (hm : ∀ c ∈ mid.head?, p c = false) : (before ++ mid).dropWhile p = mid := by
  rw [List.dropWhile_append_of_pos hb]
  cases mid with
  | nil => rfl
  | cons c mid => exact List.dropWhile_cons_of_neg (by simp [hm c rfl])

/-- What stands between blanks and neither begins nor ends with one is what trimming leaves. -/
theorem trimBoth_append (hb : ∀ c ∈ before, p c = true) (ha : ∀ c ∈ after, p c = true)
    (hm : mid ≠ []) (hhead : ∀ c ∈ mid.head?, p c = false)
    (hlast : ∀ c ∈ mid.getLast?, p c = false) : trimBoth p (before ++ mid ++ after) = mid := by
  have hstart : (before ++ (mid ++ after)).dropWhile p = mid ++ after :=
    dropWhile_append_of_head hb (by rwa [List.head?_append_of_ne_nil _ hm])
  have hend : (after.reverse ++ mid.reverse).dropWhile p = mid.reverse :=
    dropWhile_append_of_head (by simpa using ha) (by simpa using hlast)
  rw [trimBoth, List.append_assoc, hstart, trimEnd, List.reverse_append, hend,
    List.reverse_reverse]

/-- Trimming takes blanks from both ends and leaves none there. -/
theorem exists_of_trimBoth (p : Char → Bool) (cs : List Char) : ∃ before after,
    cs = before ++ trimBoth p cs ++ after ∧ (∀ c ∈ before, p c = true) ∧ (∀ c ∈ after, p c = true)
      ∧ (∀ c ∈ (trimBoth p cs).head?, p c = false)
      ∧ ∀ c ∈ (trimBoth p cs).getLast?, p c = false := by
  show ∃ before after, cs = before ++ (cs.dropWhile p).rdropWhile p ++ after ∧ _ ∧ _
    ∧ (∀ c ∈ ((cs.dropWhile p).rdropWhile p).head?, p c = false)
    ∧ ∀ c ∈ ((cs.dropWhile p).rdropWhile p).getLast?, p c = false
  refine ⟨cs.takeWhile p, (cs.dropWhile p).rtakeWhile p, ?_, fun c hc => List.mem_takeWhile_imp hc,
    fun c hc => List.mem_rtakeWhile_imp hc, fun c hc => ?_, fun c hc => ?_⟩
  · rw [List.append_assoc, List.rdropWhile_append_rtakeWhile, List.takeWhile_append_dropWhile]
  · -- the first character that is left is the first one that is no blank
    obtain ⟨t, ht⟩ := List.rdropWhile_prefix p (cs.dropWhile p)
    have hhead : (cs.dropWhile p).head? = some c := by
      rw [← ht, List.head?_append, Option.mem_def.mp hc]
      rfl
    have hfirst := List.head?_dropWhile_not p cs
    rwa [hhead] at hfirst
  · obtain ⟨hne, rfl⟩ := List.mem_getLast?_eq_getLast hc
    simpa using List.rdropWhile_last_not p _ hne

theorem trimBoth_trimBoth (p : Char → Bool) (cs : List Char) :
    trimBoth p (trimBoth p cs) = trimBoth p cs := by
  by_cases hmid : trimBoth p cs = []
  · rw [hmid]
    rfl
  · obtain ⟨-, -, -, -, -, hhead, hlast⟩ := exists_of_trimBoth p cs
    have hnone : ∀ c ∈ ([] : List Char), p c = true := fun c hc => absurd hc List.not_mem_nil
    simpa using trimBoth_append hnone hnone hmid hhead hlast

/-- Blanks that are put around a text are taken away with those that it has. -/
theorem trimBoth_pad (hb : ∀ c ∈ before, p c = true) (ha : ∀ c ∈ after, p c = true)
    (cs : List Char) : trimBoth p (before ++ cs ++ after) = trimBoth p cs := by
  by_cases hmid : trimBoth p cs = []
  · rw [hmid, trimBoth_eq_nil_iff]
    intro c hc
    rw [List.mem_append, List.mem_append] at hc
    rcases hc with (hc | hc) | hc
    · exact hb c hc
    · exact trimBoth_eq_nil_iff.mp hmid c hc
    · exact ha c hc
  · obtain ⟨front, back, hcs, hfront, hback, hhead, hlast⟩ := exists_of_trimBoth p cs
    have hsplit : before ++ cs ++ after
        = (before ++ front) ++ trimBoth p cs ++ (back ++ after) := by
      conv_lhs => rw [hcs]
      simp only [List.append_assoc]
    rw [hsplit]
    refine trimBoth_append (fun c hc => ?_) (fun c hc => ?_) hmid hhead hlast
    · exact (List.mem_append.mp hc).elim (hb c) (hfront c)
    · exact (List.mem_append.mp hc).elim (hback c) (ha c)

section Mark

variable (hne : mark ≠ []) (hmark : ∀ c ∈ mark, p c = false)

include hne hmark

theorem infix_dropWhile (h : mark <:+: cs) : mark <:+: cs.dropWhile p := by
  induction cs with
  | nil => exact h
  | cons c cs ih =>
    by_cases hc : p c = true
    · rw [List.dropWhile_cons_of_pos hc]
      rcases List.infix_cons_iff.mp h with h | h
      · -- the mark would begin with a character of the class
        obtain ⟨m, ms, rfl⟩ := List.exists_cons_of_ne_nil hne
        obtain ⟨rfl, -⟩ := List.cons_prefix_cons.mp h
        rw [hmark m List.mem_cons_self] at hc
        cases hc
      · exact ih h
    · rwa [List.dropWhile_cons_of_neg hc]

/-- Trimming neither makes nor destroys a mark without characters of the class. -/
theorem infix_trimBoth_iff : mark <:+: trimBoth p cs ↔ mark <:+: cs := by
  constructor
  · intro h
    obtain ⟨before, after, hcs, -⟩ := exists_of_trimBoth p cs
    exact h.trans ⟨before, after, hcs.symm⟩
  · intro h
    have hstart : mark.reverse <:+: (cs.dropWhile p).reverse :=
      List.reverse_infix.mpr (infix_dropWhile hne hmark h)
    have hend := infix_dropWhile (p := p) (by simpa using hne) (by simpa using hmark) hstart
    rwa [← List.reverse_infix, trimBoth, trimEnd, List.reverse_reverse]

end Mark

end Switchyard
