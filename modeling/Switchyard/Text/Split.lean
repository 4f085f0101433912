/-!
# Cutting texts

Three ways to cut a text at separators: at every occurrence of one character (`fields`), at the
first occurrence of a mark (`splitOnce`), and before the first character of a class (`List.span`,
of the core library).  Nothing but the separators is lost (`joinFields_fields`,
`append_of_splitOnce`), the pieces of two texts with a separator in between are those of each
(`fields_append`), and where a mark starts for the first time does not depend on what follows it
(`splitOnce_append`, `splitOnce_of_not_mem`).
-/

namespace Switchyard

/-- The pieces between the occurrences of `sep`; one more than there are occurrences. -/
def fields (sep : Char) : List Char → List (List Char)
  | [] => [[]]
  | c :: cs =>
    if c = sep then [] :: fields sep cs
    else match fields sep cs with
      | [] => [[c]]
      | f :: fs => (c :: f) :: fs

/-- The pieces with `sep` between any two. -/
def joinFields (sep : Char) : List (List Char) → List Char
  | [] => []
  | [f] => f
  | f :: fs => f ++ sep :: joinFields sep fs

theorem fields_ne_nil (sep : Char) : ∀ cs : List Char, fields sep cs ≠ []
  | [] => by simp [fields]
  | c :: cs => by
    simp only [fields]
    split
    · simp
    · split <;> simp

theorem joinFields_cons_cons (sep c : Char) (f : List Char) (fs : List (List Char)) :
    joinFields sep ((c :: f) :: fs) = c :: joinFields sep (f :: fs) := by
  cases fs <;> simp [joinFields]

theorem joinFields_nil_cons (sep : Char) {fs : List (List Char)} (h : fs ≠ []) :
    joinFields sep ([] :: fs) = sep :: joinFields sep fs := by
  cases fs with
  | nil => exact absurd rfl h
  | cons f fs => simp [joinFields]

/-- The pieces, joined again, are the text. -/
theorem joinFields_fields (sep : Char) : ∀ cs : List Char, joinFields sep (fields sep cs) = cs
  | [] => by simp [fields, joinFields]
  | c :: cs => by
    have ih := joinFields_fields sep cs
    simp only [fields]
    split
    · next h => rw [joinFields_nil_cons sep (fields_ne_nil sep cs), ih, h]
    · split
      · next h => exact absurd h (fields_ne_nil sep cs)
      · next f fs h => rw [joinFields_cons_cons, ← h, ih]

theorem fields_of_not_mem {sep : Char} : ∀ {cs : List Char}, sep ∉ cs → fields sep cs = [cs]
  | [], _ => rfl
  | c :: cs, h => by
    obtain ⟨hc, hcs⟩ := not_or.mp (mt List.mem_cons.mpr h)
    rw [fields, if_neg (Ne.symm hc), fields_of_not_mem hcs]

/-- A separator between two texts is one between their pieces. -/
theorem fields_append (sep : Char) (cs ds : List Char) :
    fields sep (cs ++ sep :: ds) = fields sep cs ++ fields sep ds := by
  induction cs with
  | nil => simp [fields]
  | cons c cs ih =>
    rw [List.cons_append, fields, fields, ih]
    split
    · rfl
    · cases hcs : fields sep cs with
      | nil => exact absurd hcs (fields_ne_nil sep cs)
      | cons f fs => rfl

/-- The texts before and after the first occurrence of `mark`. -/
def splitOnce (mark : List Char) : List Char → Option (List Char × List Char)
  | [] => if mark.isEmpty then some ([], []) else none
  | c :: cs =>
    if mark.isPrefixOf (c :: cs) then some ([], (c :: cs).drop mark.length)
    else (splitOnce mark cs).map fun (before, after) => (c :: before, after)

/-- Where a text is cut at a mark, the two sides and the mark make up the text. -/
theorem append_of_splitOnce {mark : List Char} : ∀ {cs before after : List Char},
    splitOnce mark cs = some (before, after) → before ++ mark ++ after = cs
  | [], before, after, h => by
    simp only [splitOnce] at h
    split at h
    · next hm => simp_all
    · simp at h
  | c :: cs, before, after, h => by
    simp only [splitOnce] at h
    split at h
    · next hm =>
      simp only [Option.some.injEq, Prod.mk.injEq] at h
      obtain ⟨rfl, rfl⟩ := h
      obtain ⟨t, ht⟩ := List.isPrefixOf_iff_prefix.1 hm
      simp [← ht]
    · obtain ⟨⟨b, a⟩, hb, hp⟩ := Option.map_eq_some_iff.1 h
      simp only [Prod.mk.injEq] at hp
      obtain ⟨rfl, rfl⟩ := hp
      simpa using append_of_splitOnce hb

/-- More text at the end does not move the cut. -/
theorem splitOnce_append {mark : List Char} (more : List Char) :
    ∀ {cs before after : List Char}, splitOnce mark cs = some (before, after) →
      splitOnce mark (cs ++ more) = some (before, after ++ more)
  | [], before, after, h => by
    simp only [splitOnce, List.isEmpty_iff] at h
    split at h
    · next hm =>
      cases h
      cases more <;> simp [splitOnce, hm]
    · cases h
  | c :: cs, before, after, h => by
    simp only [splitOnce] at h
    rw [List.cons_append, splitOnce]
    split at h
    · next hm =>
      cases h
      obtain ⟨t, ht⟩ := List.isPrefixOf_iff_prefix.1 hm
      rw [← List.cons_append, ← ht]
      simp [List.append_assoc]
    · next hm =>
      obtain ⟨⟨b, a⟩, hb, hp⟩ := Option.map_eq_some_iff.1 h
      cases hp
      -- the mark fits into what is left of the text, so what follows cannot complete it earlier
      have hlen : mark.length ≤ (c :: cs).length := by
        rw [← append_of_splitOnce hb]
        simp
        omega
      have hm' : ¬mark.isPrefixOf (c :: (cs ++ more)) = true := fun h' =>
        hm (List.isPrefixOf_iff_prefix.2 (List.prefix_of_prefix_length_le
          (List.isPrefixOf_iff_prefix.1 h') (List.prefix_append (c :: cs) more) hlen))
      rw [if_neg hm', splitOnce_append more hb]
      rfl

/-- A text is cut at a mark if nothing in front of it could be the start of one. -/
theorem splitOnce_of_not_mem {m : Char} {mark after : List Char} :
    ∀ {before : List Char}, m ∉ before →
      splitOnce (m :: mark) (before ++ (m :: mark ++ after)) = some (before, after)
  | [], _ => by simp [splitOnce]
  | c :: cs, h => by
    simp only [List.mem_cons, not_or] at h
    rw [List.cons_append, splitOnce, if_neg (by simp [h.1]), splitOnce_of_not_mem h.2]
    rfl

/-- Whether `mark` occurs in the text. -/
def occurs (mark cs : List Char) : Bool := (splitOnce mark cs).isSome

theorem occurs_eq_true_iff {mark cs : List Char} : occurs mark cs = true ↔ mark <:+: cs := by
  unfold occurs
  induction cs with
  | nil => cases mark <;> simp [splitOnce]
  | cons c cs ih =>
    rw [splitOnce, List.infix_cons_iff, ← ih]
    split
    · next h => simp [List.isPrefixOf_iff_prefix.mp h]
    · next h => simp [mt List.isPrefixOf_iff_prefix.mpr h]

end Switchyard
