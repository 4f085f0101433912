import Mathlib.Data.List.DropRight
import Mathlib.Data.List.TakeWhile
import Switchyard.Url.Retarget

/-!
# What is kept of a URL

A URL that names a scheme is a scheme, an authority and a target (`targetBy_of_scheme`); any other
is a target as a whole (`targetBy_of_not_namesScheme`).  A target is a path, with a query and a
fragment perhaps (`Reference`), and of these the path and a query that is not empty are kept behind
a base (`suffix_text`).
-/

namespace Switchyard

theorem head_dropWhile_not (p : Char → Bool) (cs : List Char) :
    ∀ c ∈ (cs.dropWhile (!p ·)).head?, p c = true := by
  intro c hc
  have := List.head?_dropWhile_not (fun c => !p c) cs
  rw [Option.mem_def.mp hc] at this
  simpa using this

theorem splitOnce_singleton_eq_none_iff {c : Char} {cs : List Char} :
    splitOnce [c] cs = none ↔ c ∉ cs := by
  induction cs with
  | nil => simp [splitOnce]
  | cons a cs ih =>
    by_cases hc : c = a
    · simp [splitOnce, hc]
    · simp [splitOnce, hc, ih]

/-- A text is cut at the first of its separators. -/
theorem not_mem_of_splitOnce_singleton {c : Char} : ∀ {cs before after : List Char},
    splitOnce [c] cs = some (before, after) → c ∉ before
  | [], _, _, h => by simp [splitOnce] at h
  | a :: cs, before, after, h => by
    simp only [splitOnce, List.isPrefixOf, Bool.and_true, beq_iff_eq] at h
    split at h
    · cases h
      exact List.not_mem_nil
    · rename_i hne
      obtain ⟨⟨b, r⟩, hb, heq⟩ := Option.map_eq_some_iff.mp h
      cases heq
      exact List.not_mem_cons_of_ne_of_not_mem hne (not_mem_of_splitOnce_singleton hb)

namespace Url

/-- A URL with a scheme in front of its first mark, since no scheme holds a colon. -/
def NamesScheme (url : List Char) : Prop :=
  ∃ scheme rest, isScheme scheme = true ∧ url = scheme ++ schemeMark ++ rest

section Scheme

variable {φ : Type} {check : List Char → List Char → Option φ}
  {scheme authority target url cs : List Char}

theorem colon_not_mem_of_isScheme (h : isScheme scheme = true) : ':' ∉ scheme := by
  cases scheme with
  | nil => cases h
  | cons c cs =>
    simp only [isScheme, Bool.and_eq_true, List.all_eq_true] at h
    intro hm
    rcases List.mem_cons.mp hm with rfl | hm
    · exact absurd h.1 (by decide)
    · exact absurd (h.2 _ hm) (by decide)

theorem splitOnce_of_isScheme (h : isScheme scheme = true) (rest : List Char) :
    splitOnce schemeMark (scheme ++ schemeMark ++ rest) = some (scheme, rest) := by
  rw [List.append_assoc]
  exact splitOnce_of_not_mem (colon_not_mem_of_isScheme h)

theorem targetBy_of_not_namesScheme (h : ¬NamesScheme url) : targetBy check url = .ok url := by
  unfold targetBy
  split
  · rfl
  · rename_i scheme rest hs
    exact if_neg fun hscheme => h ⟨scheme, rest, hscheme, (append_of_splitOnce hs).symm⟩

/-- However much it looks like one, a target is not a URL with a scheme. -/
theorem not_namesScheme_of_head (h : ∀ c ∈ cs.head?, endsAuthority c = true) :
    ¬NamesScheme cs := by
  rintro ⟨scheme, rest, hscheme, rfl⟩
  cases scheme with
  | nil => cases hscheme
  | cons c scheme =>
    have hc := h c rfl
    simp only [endsAuthority, Bool.or_eq_true, beq_iff_eq] at hc
    rcases hc with (rfl | rfl) | rfl <;> cases hscheme

theorem not_endsAuthority_of_all (h : cs.all (!endsAuthority ·) = true) :
    ∀ c ∈ cs, endsAuthority c = false := fun c hc => by simpa using List.all_eq_true.mp h c hc

theorem takeWhile_authority (ha : ∀ c ∈ authority, endsAuthority c = false)
    (ht : ∀ c ∈ target.head?, endsAuthority c = true) :
    (authority ++ target).takeWhile (!endsAuthority ·) = authority := by
  rw [List.takeWhile_append_of_pos fun c hc => by simp [ha c hc]]
  cases target with
  | nil => simp
  | cons c cs => simp [ht c rfl]

theorem dropWhile_authority (ha : ∀ c ∈ authority, endsAuthority c = false)
    (ht : ∀ c ∈ target.head?, endsAuthority c = true) :
    (authority ++ target).dropWhile (!endsAuthority ·) = target := by
  rw [List.dropWhile_append_of_pos fun c hc => by simp [ha c hc]]
  cases target with
  | nil => rfl
  | cons c cs => simp [ht c rfl]

/-- A scheme and an authority are checked, and what follows them is left. -/
theorem targetBy_of_scheme (hs : isScheme scheme = true)
    (ha : ∀ c ∈ authority, endsAuthority c = false)
    (ht : ∀ c ∈ target.head?, endsAuthority c = true) :
    targetBy check (scheme ++ schemeMark ++ authority ++ target)
      = match check scheme authority with
        | none => .ok target
        | some fault => .error fault := by
  unfold targetBy
  rw [List.append_assoc _ authority, splitOnce_of_isScheme hs]
  dsimp only
  rw [if_pos hs, takeWhile_authority ha ht, dropWhile_authority ha ht]
  cases check scheme authority <;> rfl

/-- A URL that names a scheme goes on with an authority and a target. -/
theorem NamesScheme.exists_parts (h : NamesScheme url) : ∃ scheme authority target,
    isScheme scheme = true ∧ (∀ c ∈ authority, endsAuthority c = false)
      ∧ (∀ c ∈ target.head?, endsAuthority c = true)
      ∧ url = scheme ++ schemeMark ++ authority ++ target := by
  obtain ⟨scheme, rest, hs, rfl⟩ := h
  refine ⟨scheme, rest.takeWhile (!endsAuthority ·), rest.dropWhile (!endsAuthority ·), hs,
    fun c hc => by simpa using List.mem_takeWhile_imp hc, head_dropWhile_not endsAuthority rest, ?_⟩
  rw [List.append_assoc _ (rest.takeWhile _), List.takeWhile_append_dropWhile]

end Scheme

/-- A path, with a query behind the first question mark and a fragment behind the first number
sign. -/
structure Reference where
  path : List Char
  query : Option (List Char)
  fragment : Option (List Char)
  path_plain : ∀ c ∈ path, c ≠ '?' ∧ c ≠ '#'
  query_plain : ∀ q ∈ query, '#' ∉ q

namespace Reference

variable (ref : Reference)

/-- The path and the query as they are written. -/
def body : List Char := ref.path ++ ref.query.elim [] ('?' :: ·)

def text : List Char := ref.body ++ ref.fragment.elim [] ('#' :: ·)

/-- The query with its mark, unless it is empty. -/
def asked : List Char := (ref.query.filter (!·.isEmpty)).elim [] ('?' :: ·)

theorem head_asked : ∀ c ∈ ref.asked.head?, c = '?' := by
  unfold asked
  cases ref.query.filter (!·.isEmpty) with
  | none => rintro c ⟨⟩
  | some q =>
    rintro c ⟨⟩
    rfl

theorem body_plain : '#' ∉ ref.body := by
  unfold body
  intro h
  rcases List.mem_append.mp h with h | h
  · exact (ref.path_plain _ h).2 rfl
  · cases hq : ref.query with
    | none => simp [hq] at h
    | some q =>
      rw [hq] at h
      rcases List.mem_cons.mp h with h | h
      · cases h
      · exact ref.query_plain q hq h

theorem dropFragment_text : dropFragment ref.text = ref.body := by
  unfold dropFragment text
  rw [List.takeWhile_append_of_pos fun c hc => by
    simpa using fun h : c = '#' => ref.body_plain (h ▸ hc)]
  cases ref.fragment <;> simp

theorem splitOnce_body : splitOnce ['?'] ref.body = ref.query.map fun q => (ref.path, q) := by
  have hpath : '?' ∉ ref.path := fun h => (ref.path_plain _ h).1 rfl
  unfold body
  cases ref.query with
  | none =>
    rw [Option.elim_none, List.append_nil]
    exact splitOnce_singleton_eq_none_iff.mpr hpath
  | some q => exact splitOnce_of_not_mem hpath

end Reference

theorem rooted_of_head {cs : List Char} (h : ∀ c ∈ cs.head?, c = '/') : rooted cs = cs := by
  cases cs with
  | nil => rfl
  | cons c cs =>
    obtain rfl := h c rfl
    rfl

theorem head_rooted (cs : List Char) : ∀ c ∈ (rooted cs).head?, c = '/' := by
  unfold rooted
  split <;> simp

theorem eq_slash_or_mem_of_mem_rooted {c : Char} {cs : List Char} (h : c ∈ rooted cs) :
    c = '/' ∨ c ∈ cs := by
  unfold rooted at h
  split at h
  · cases h
  · exact Or.inr h
  · exact List.mem_cons.mp h

/-- Behind a base stand the path, which is given a slash if it has none, and a query that is not
empty. -/
theorem suffix_text (ref : Reference) : suffix ref.text = rooted ref.path ++ ref.asked := by
  unfold suffix
  rw [ref.dropFragment_text, ref.splitOnce_body]
  unfold Reference.body Reference.asked
  rcases ref.query with _ | _ | ⟨c, cs⟩ <;> simp [Option.filter]

/-- What is kept of a reference, as a reference. -/
def Reference.kept (ref : Reference) : Reference where
  path := rooted ref.path
  query := ref.query.filter (!·.isEmpty)
  fragment := none
  path_plain c hc := by
    rcases eq_slash_or_mem_of_mem_rooted hc with rfl | hc
    · decide
    · exact ref.path_plain c hc
  query_plain q hq := ref.query_plain q (Option.mem_filter_iff.mp hq).1

theorem Reference.text_kept (ref : Reference) : ref.kept.text = rooted ref.path ++ ref.asked :=
  List.append_nil _

theorem Reference.asked_kept (ref : Reference) : ref.kept.asked = ref.asked := by
  simp [asked, kept, Option.filter_filter]

/-- Every text is a reference. -/
theorem exists_reference (cs : List Char) : ∃ ref : Reference, ref.text = cs := by
  have hcut : dropFragment cs ++ cs.dropWhile (· ≠ '#') = cs := List.takeWhile_append_dropWhile
  have hplain : '#' ∉ dropFragment cs := fun h => by simpa using List.mem_takeWhile_imp h
  obtain ⟨fragment, hfragment⟩ : ∃ fragment : Option (List Char),
      fragment.elim [] ('#' :: ·) = cs.dropWhile (· ≠ '#') := by
    cases hd : cs.dropWhile (· ≠ '#') with
    | nil => exact ⟨none, rfl⟩
    | cons c rest =>
      have hc := List.head?_dropWhile_not (fun c : Char => decide (c ≠ '#')) cs
      rw [hd] at hc
      obtain rfl : c = '#' := by simpa using hc
      exact ⟨some rest, rfl⟩
  cases hs : splitOnce ['?'] (dropFragment cs) with
  | none =>
    have hpath := splitOnce_singleton_eq_none_iff.mp hs
    refine ⟨⟨dropFragment cs, none, fragment, fun c hc => ⟨?_, ?_⟩, fun q hq => nomatch hq⟩, ?_⟩
    · rintro rfl
      exact hpath hc
    · rintro rfl
      exact hplain hc
    · rw [Reference.text, Reference.body, hfragment, Option.elim_none, List.append_nil, hcut]
  | some p =>
    obtain ⟨path, query⟩ := p
    have happend := append_of_splitOnce hs
    have hpath := not_mem_of_splitOnce_singleton hs
    rw [← happend] at hplain
    simp only [List.mem_append, not_or] at hplain
    refine ⟨⟨path, some query, fragment, fun c hc => ⟨?_, ?_⟩, fun q hq => ?_⟩, ?_⟩
    · rintro rfl
      exact hpath hc
    · rintro rfl
      exact hplain.1.1 hc
    · cases hq
      exact hplain.2
    · rw [Reference.text, Reference.body, hfragment]
      rw [← happend] at hcut
      simpa using hcut

/-- A target without the question mark of an empty query. -/
def withoutEmptyQuery (cs : List Char) : List Char :=
  if cs.getLast? = some '?' ∧ '?' ∉ cs.dropLast then cs.dropLast else cs

theorem Reference.withoutEmptyQuery_body (ref : Reference) :
    withoutEmptyQuery ref.body = ref.path ++ ref.asked := by
  have hpath : '?' ∉ ref.path := fun h => (ref.path_plain _ h).1 rfl
  unfold withoutEmptyQuery body asked
  rcases ref.query with _ | _ | ⟨c, cs⟩
  · rw [Option.elim_none, List.append_nil, if_neg fun h => hpath (List.mem_of_getLast? h.1)]
    exact (List.append_nil _).symm
  · rw [if_pos (by simp [hpath])]
    simp [Option.filter]
  · refine if_neg fun h => h.2 ?_
    rw [Option.elim_some, List.dropLast_append_of_ne_nil (by simp)]
    simp

/-- A target that starts as one stands behind a base as it is, but for its fragment and the mark of
an empty query. -/
theorem suffix_of_head {cs : List Char} (h : ∀ c ∈ cs.head?, endsAuthority c = true) :
    suffix cs = withoutEmptyQuery (dropFragment cs) := by
  obtain ⟨ref, rfl⟩ := exists_reference cs
  rw [suffix_text, ref.dropFragment_text, ref.withoutEmptyQuery_body, rooted_of_head]
  intro c hc
  have hplain := ref.path_plain c (List.mem_of_mem_head? hc)
  have hc' : c ∈ ref.text.head? := by
    rw [Reference.text, Reference.body, List.append_assoc, List.head?_append, Option.mem_def.mp hc]
    rfl
  simpa [endsAuthority, hplain] using h c hc'

theorem exists_kept (cs : List Char) : ∃ ref : Reference, suffix cs = ref.kept.text := by
  obtain ⟨ref, rfl⟩ := exists_reference cs
  exact ⟨ref, by rw [suffix_text, ref.text_kept]⟩

theorem suffix_plain (cs : List Char) : '#' ∉ suffix cs := by
  obtain ⟨ref, href⟩ := exists_kept cs
  rw [href, show ref.kept.text = ref.kept.body from List.append_nil _]
  exact ref.kept.body_plain

theorem head_suffix (cs : List Char) : ∀ c ∈ (suffix cs).head?, c = '/' ∨ c = '?' := by
  obtain ⟨ref, href⟩ := exists_kept cs
  intro c hc
  rw [href, ref.text_kept, List.head?_append] at hc
  rcases Option.or_eq_some_iff.mp hc with hc | ⟨-, hc⟩
  · exact Or.inl (head_rooted _ c hc)
  · exact Or.inr (ref.head_asked c hc)

theorem suffix_suffix (cs : List Char) : suffix (suffix cs) = suffix cs := by
  obtain ⟨ref, href⟩ := exists_kept cs
  rw [href, suffix_text, ref.asked_kept, ref.text_kept]
  exact congrArg (· ++ ref.asked) (rooted_of_head (head_rooted ref.path))

/-- Of a base nothing but the slashes at its end is left out. -/
theorem exists_slashes (base : List Char) :
    (∃ n, base = trimBase base ++ List.replicate n '/')
      ∧ ∀ c ∈ (trimBase base).getLast?, c ≠ '/' := by
  show (∃ n, base = base.rdropWhile (· == '/') ++ List.replicate n '/')
    ∧ ∀ c ∈ (base.rdropWhile (· == '/')).getLast?, c ≠ '/'
  constructor
  · have hslashes : base.rtakeWhile (· == '/') = List.replicate _ '/' :=
      List.eq_replicate_iff.mpr ⟨rfl, fun c hc => by simpa using List.mem_rtakeWhile_imp hc⟩
    refine ⟨(base.rtakeWhile (· == '/')).length, ?_⟩
    rw [← hslashes, List.rdropWhile_append_rtakeWhile]
  · intro c hc
    obtain ⟨hne, rfl⟩ := List.mem_getLast?_eq_getLast hc
    simpa using List.rdropWhile_last_not (· == '/') base hne

theorem retargetBy_of_head {φ : Type} {check : List Char → List Char → Option φ}
    {base url : String} (h : ∀ c ∈ url.toList.head?, endsAuthority c = true) :
    retargetBy check base url
      = .ok (.ofList (trimBase base.toList ++ withoutEmptyQuery (dropFragment url.toList))) := by
  rw [retargetBy, targetBy_of_not_namesScheme (not_namesScheme_of_head h), ← suffix_of_head h]
  rfl

end Url

end Switchyard
