import Switchyard.Proofs.FixedList
import Switchyard.Proofs.References

/-!
# The schemes of endpoints

An address in which the mark occurs is left as it is, wherever the mark stands, whereas a URL names
a scheme only if one stands in front of its first mark.  So the URL of an endpoint may go without a
scheme (`Url.namesScheme_withSchemeChars`).  The number behind the host of an instance makes no
difference to that (`Instance.namesScheme_endpoint`), and a directory adds nothing to it
(`Directory.schemes_as_written`).
-/

namespace Switchyard

open Dispatch (Error)

/-- An occurrence across two texts, the second of which starts with `sep`, starts there, unless
`sep` comes later in the mark. -/
theorem infix_append_cons_iff {mark front back : List Char} {sep : Char} (h : sep ∉ mark.tail) :
    mark <:+: front ++ sep :: back ↔ mark <:+: front ∨ mark <:+: sep :: back := by
  rw [List.infix_append_iff_ne_nil]
  constructor
  · rintro (hfront | hback | ⟨left, right, hleft, hright, rfl, -, hprefix⟩)
    · exact Or.inl hfront
    · exact Or.inr hback
    · refine absurd ?_ h
      obtain ⟨m, ms, rfl⟩ := List.exists_cons_of_ne_nil hleft
      obtain ⟨r, rs, rfl⟩ := List.exists_cons_of_ne_nil hright
      obtain ⟨rfl, -⟩ := List.cons_prefix_cons.mp hprefix
      simp
  · rintro (hfront | hback)
    · exact Or.inl hfront
    · exact Or.inr (Or.inl hback)

/-- Where a text ends without blanks only its start is trimmed. -/
theorem trimBoth_append_of_not {p : Char → Bool} (cs : List Char) {c : Char} {back : List Char}
    (h : ∀ x ∈ c :: back, p x = false) :
    trimBoth p (cs ++ c :: back) = cs.dropWhile p ++ c :: back := by
  have hstart : (cs ++ c :: back).dropWhile p = cs.dropWhile p ++ c :: back := by
    have hc : p c = false := h c List.mem_cons_self
    rw [List.dropWhile_append]
    split
    · next hcs => simp [List.isEmpty_iff.mp hcs, hc]
    · rfl
  rw [trimBoth, hstart]
  refine List.rdropWhile_eq_self_iff.mpr fun hne => ?_
  rw [List.getLast_append_of_ne_nil _ (List.cons_ne_nil c back)]
  simp [h _ (List.getLast_mem _)]

namespace Url

section Naming

variable {scheme address front back url : List Char}

theorem namesScheme_iff :
    NamesScheme url ↔ (splitOnce schemeMark url).any (isScheme ·.1) = true := by
  constructor
  · rintro ⟨scheme, rest, hs, rfl⟩
    rw [splitOnce_of_isScheme hs]
    exact hs
  · intro h
    obtain ⟨⟨scheme, rest⟩, hsplit, hs⟩ := (Option.any_eq_true _ _).mp h
    exact ⟨scheme, rest, hs, (append_of_splitOnce hsplit).symm⟩

instance : Decidable (NamesScheme url) := decidable_of_iff _ namesScheme_iff.symm

/-- What follows the first mark has no part in it. -/
theorem namesScheme_append (h : schemeMark <:+: front) :
    NamesScheme (front ++ back) ↔ NamesScheme front := by
  obtain ⟨⟨before, after⟩, hsplit⟩ := Option.isSome_iff_exists.mp (occurs_eq_true_iff.mpr h)
  rw [namesScheme_iff, namesScheme_iff, splitOnce_append back hsplit, hsplit]
  rfl

/-- An address comes with a scheme unless it has a mark without one in front of it. -/
theorem namesScheme_withSchemeChars (hs : isScheme scheme = true) :
    NamesScheme (withSchemeChars scheme address)
      ↔ (schemeMark <:+: address → NamesScheme (trimBoth isBlank address)) := by
  unfold withSchemeChars
  simp only [occurs_eq_true_iff, mark_infix_trimBoth_iff]
  split
  · next h => simp [h]
  · next h => exact iff_of_true ⟨scheme, _, hs, rfl⟩ fun hm => absurd hm h

end Naming

end Url

/-- Whether the URL of an endpoint names its scheme. -/
def Endpoint.NamesScheme (e : Endpoint) : Prop := Url.NamesScheme e.url.toList

instance (e : Endpoint) : Decidable e.NamesScheme := inferInstanceAs (Decidable (Url.NamesScheme _))

theorem Endpoint.namesScheme_ofAddress (address : String) :
    (Endpoint.ofAddress address).NamesScheme
      ↔ (Url.schemeMark <:+: address.toList →
        Url.NamesScheme (trimBoth isBlank address.toList)) := by
  rw [NamesScheme, ofAddress, Url.withScheme, String.toList_ofList]
  exact Url.namesScheme_withSchemeChars rfl

/-- An address that comes without a scheme was left as it was. -/
theorem Endpoint.mark_of_not_namesScheme {address : String}
    (h : ¬(Endpoint.ofAddress address).NamesScheme) :
    Url.schemeMark <:+: (Endpoint.ofAddress address).url.toList := by
  rw [namesScheme_ofAddress, Classical.not_imp] at h
  obtain ⟨hmark, -⟩ := h
  have htrim := mark_infix_trimBoth_iff.mpr hmark
  rw [ofAddress, Url.withScheme, String.toList_ofList, Url.withSchemeChars]
  simpa only [occurs_eq_true_iff.mpr htrim, if_true] using htrim

namespace Instance

variable (i : Instance)

/-- What stands behind the host: a colon and digits. -/
def tail : List Char := ':' :: (toString i.portNumber.toNat).toList

theorem address_toList : i.address.toList = i.host.toList ++ i.tail := by
  simp [address, tail]

theorem isDigit_of_mem_number {c : Char} (h : c ∈ (toString i.portNumber.toNat).toList) :
    c.isDigit = true := by
  have : c ∈ Nat.toDigits 10 i.portNumber.toNat := by
    rwa [← Nat.toList_repr]
  exact Nat.isDigit_of_mem_toDigits (by decide) (by decide) this

theorem isBlank_of_mem_tail : ∀ c ∈ i.tail, isBlank c = false := by
  have hblanks : blanks.all (!Char.isDigit ·) = true := rfl
  intro c hc
  rcases List.mem_cons.mp hc with rfl | hc
  · decide
  · by_contra hblank
    have hdigit := List.all_eq_true.mp hblanks c (by simpa [isBlank] using hblank)
    rw [i.isDigit_of_mem_number hc] at hdigit
    cases hdigit

theorem mark_infix_address_iff :
    Url.schemeMark <:+: i.address.toList ↔ Url.schemeMark <:+: i.host.toList := by
  rw [address_toList, tail, infix_append_cons_iff (by decide)]
  refine or_iff_left fun h => ?_
  have hslash := h.subset (show '/' ∈ Url.schemeMark by decide)
  rcases List.mem_cons.mp hslash with hc | hc
  · cases hc
  · exact absurd (i.isDigit_of_mem_number hc) (by decide)

/-- The number behind the host of an instance does not matter. -/
theorem namesScheme_endpoint : i.endpoint.NamesScheme
    ↔ (Url.schemeMark <:+: i.host.toList → Url.NamesScheme (i.host.toList.dropWhile isBlank)) := by
  rw [endpoint, Endpoint.namesScheme_ofAddress, mark_infix_address_iff, address_toList, tail,
    trimBoth_append_of_not _ i.isBlank_of_mem_tail]
  refine imp_congr_right fun h => Url.namesScheme_append ?_
  exact infix_dropWhile (List.cons_ne_nil _ _) isBlank_of_mem_schemeMark h

end Instance

namespace Directory

/-- The addresses of a fixed list. -/
def fixedAddresses (servers : String) : List String :=
  (((fields ',' servers.toList).map (trimBoth isBlank)).filter (!·.isEmpty)).map .ofList

theorem fixedEndpoints_eq (servers : String) :
    fixedEndpoints servers = (fixedAddresses servers).map .ofAddress := by
  rw [fixedAddresses, List.map_map]
  rfl

theorem trimBoth_of_mem_fixedAddresses {servers address : String}
    (h : address ∈ fixedAddresses servers) : trimBoth isBlank address.toList = address.toList := by
  simp only [fixedAddresses, List.mem_map, List.mem_filter] at h
  obtain ⟨-, ⟨⟨entry, -, rfl⟩, -⟩, rfl⟩ := h
  rw [String.toList_ofList, trimBoth_trimBoth]

variable {d d' : Directory} {c : String} {endpoints : List Endpoint}

/-- The instances that a directory resolves a cluster to are those that it has then. -/
theorem Resolves.exists_instances (h : Resolves d c d' (.ok endpoints))
    (hd : d.kind ≠ Config.localKind) :
    ∃ is, d'.cache.find? c = some is ∧ endpoints = is.map Instance.endpoint := by
  cases h with
  | fixed hk => exact absurd hk hd
  | @cached is _ hc => exact ⟨is, hc, rfl⟩
  | @found r _ _ _ hi => exact ⟨_, Store.find?_set_self _ _ _, rfl⟩
  | @overtaken pushed _ _ _ _ => exact ⟨pushed, Store.find?_set_self _ _ _, rfl⟩

theorem answer_ok_of_fixed (hd : d.kind = Config.localKind) (h : d.answer c = .ok endpoints) :
    endpoints = fixedEndpoints d.servers := by
  rw [answer_of_fixed hd] at h
  cases hs : fixedEndpoints d.servers with
  | nil => rw [hs] at h; cases h
  | cons e es => rw [hs] at h; exact (Except.ok.inj h).symm

theorem exists_address (h : d.answer c = .ok endpoints) {e : Endpoint} (he : e ∈ endpoints) :
    ∃ address, e = .ofAddress address := by
  by_cases hd : d.kind = Config.localKind
  · rw [answer_ok_of_fixed hd h, fixedEndpoints_eq] at he
    obtain ⟨a, -, rfl⟩ := List.mem_map.mp he
    exact ⟨a, rfl⟩
  · have hres : Resolves d c (d.resolve c).1 (.ok endpoints) := h ▸ resolves d c
    obtain ⟨is, -, rfl⟩ := hres.exists_instances hd
    obtain ⟨i, -, rfl⟩ := List.mem_map.mp he
    exact ⟨i.address, rfl⟩

/-- The endpoints that a directory resolves a cluster to are those of its addresses, and the URL of
one names a scheme unless the mark occurs in the address without a scheme in front of it: in a fixed
list, in the address as it stands between the commas; of an instance, in the host without the blanks
in front of it.  A URL that names none has the mark somewhere, and is a target as a whole. -/
theorem schemes_as_written (h : d.answer c = .ok endpoints) :
    (d.kind = Config.localKind →
      endpoints = (fixedAddresses d.servers).map .ofAddress
      ∧ ∀ a ∈ fixedAddresses d.servers, (Endpoint.ofAddress a).NamesScheme
        ↔ (Url.schemeMark <:+: a.toList → Url.NamesScheme a.toList))
    ∧ (d.kind ≠ Config.localKind → ∃ instances : List Instance,
      (d.resolve c).1.cache.find? c = some instances
      ∧ endpoints = instances.map Instance.endpoint
      ∧ ∀ i ∈ instances, i.endpoint.NamesScheme ↔ (Url.schemeMark <:+: i.host.toList →
        Url.NamesScheme (i.host.toList.dropWhile isBlank)))
    ∧ ∀ e ∈ endpoints, ¬e.NamesScheme → Url.schemeMark <:+: e.url.toList
      ∧ ∀ {φ : Type} (check : List Char → List Char → Option φ),
        Url.targetBy check e.url.toList = .ok e.url.toList := by
  have hres : Resolves d c (d.resolve c).1 (.ok endpoints) := h ▸ resolves d c
  refine ⟨fun hd => ⟨?_, fun a ha => ?_⟩, fun hd => ?_, fun e he hne => ?_⟩
  · rw [answer_ok_of_fixed hd h, fixedEndpoints_eq]
  · rw [Endpoint.namesScheme_ofAddress, trimBoth_of_mem_fixedAddresses ha]
  · obtain ⟨is, hcache, heq⟩ := hres.exists_instances hd
    exact ⟨is, hcache, heq, fun i _ => i.namesScheme_endpoint⟩
  · obtain ⟨a, rfl⟩ := exists_address h he
    exact ⟨Endpoint.mark_of_not_namesScheme hne, fun _ => Url.targetBy_of_not_namesScheme hne⟩

/-- A fixed list with a mark in a query. -/
def redirecting : Directory :=
  .make { kind := "local", servers := "10.0.0.1:8080/app?next=http://x, 10.0.0.2:80" } none

theorem schemes_as_written_redirecting : ∃ e e', redirecting.answer "c" = .ok [e, e']
    ∧ e.url = "10.0.0.1:8080/app?next=http://x" ∧ ¬e.NamesScheme
    ∧ e'.url = "http://10.0.0.2:80" ∧ e'.NamesScheme := by
  have hanswer : redirecting.answer "c"
      = .ok [.ofAddress "10.0.0.1:8080/app?next=http://x", .ofAddress "10.0.0.2:80"] := rfl
  obtain ⟨hfixed, -, -⟩ := schemes_as_written hanswer
  obtain ⟨-, hschemes⟩ := hfixed rfl
  have hmark : Url.schemeMark <:+: "10.0.0.1:8080/app?next=http://x".toList :=
    ⟨"10.0.0.1:8080/app?next=http".toList, "x".toList, rfl⟩
  have hnone : ¬Url.NamesScheme "10.0.0.1:8080/app?next=http://x".toList := by decide
  have hplain : ¬Url.schemeMark <:+: "10.0.0.2:80".toList :=
    mt occurs_eq_true_iff.mpr (by decide)
  refine ⟨_, _, hanswer, rfl, fun h => ?_, rfl, ?_⟩
  · exact hnone ((hschemes _ List.mem_cons_self).mp h hmark)
  · exact (hschemes _ (by decide)).mpr fun h => absurd h hplain

end Directory

end Switchyard
