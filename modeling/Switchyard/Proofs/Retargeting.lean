import Switchyard.Proofs.References
import Switchyard.Proofs.Targets

/-!
# Sending a URL to a server

Scheme and authority of a URL make no difference to where it is sent, once they have passed the
check: the base takes their place, and the target is kept character for character
(`retargetBy_replaces`).  No URL leads away from the base (`extends_of_retargetBy`), and what comes
out for one base can be sent on to another as if it were the first URL (`retargetBy_again`).
-/

namespace Switchyard.Url

variable {φ : Type} {check : List Char → List Char → Option φ}

theorem retargetBy_of_targetBy {base url : String} {target : List Char}
    (h : targetBy check url.toList = .ok target) :
    retargetBy check base url = .ok (.ofList (trimBase base.toList ++ suffix target)) := by
  rw [retargetBy, h]
  rfl

/-- Behind a base without the slashes at its end stands the target of a URL, whatever its scheme and
its authority are, if they pass the check; if they do not, the URL is refused whatever the target
is.  A URL that names no scheme is never refused, and all of it is path, query and fragment. -/
theorem retargetBy_replaces (check : List Char → List Char → Option φ) (base : String) :
    ((∃ n, base.toList = trimBase base.toList ++ List.replicate n '/')
      ∧ ∀ c ∈ (trimBase base.toList).getLast?, c ≠ '/')
    ∧ (∀ scheme authority target : List Char, isScheme scheme = true →
      (∀ c ∈ authority, endsAuthority c = false) →
      (∀ c ∈ target.head?, endsAuthority c = true) →
      retargetBy check base (.ofList target)
          = .ok (.ofList (trimBase base.toList ++ withoutEmptyQuery (dropFragment target)))
        ∧ retargetBy check base (.ofList (scheme ++ schemeMark ++ authority ++ target))
          = match check scheme authority with
            | none => retargetBy check base (.ofList target)
            | some fault => .error fault)
    ∧ ∀ url : String, ¬NamesScheme url.toList → ∃ ref : Reference, ref.text = url.toList
      ∧ retargetBy check base url
        = .ok (.ofList (trimBase base.toList ++ (rooted ref.path ++ ref.asked))) := by
  refine ⟨exists_slashes _, fun scheme authority target hs ha ht => ?_, fun url hurl => ?_⟩
  · have hplain : retargetBy check base (.ofList target)
        = .ok (.ofList (trimBase base.toList ++ withoutEmptyQuery (dropFragment target))) := by
      rw [retargetBy_of_head (by rwa [String.toList_ofList]), String.toList_ofList]
    refine ⟨hplain, ?_⟩
    have htarget : targetBy check (scheme ++ schemeMark ++ authority ++ target)
        = match check scheme authority with
          | none => .ok target
          | some fault => .error fault := targetBy_of_scheme hs ha ht
    cases hc : check scheme authority with
    | none =>
      rw [hc] at htarget
      rw [retargetBy_of_targetBy (by rw [String.toList_ofList]; exact htarget), hplain,
        suffix_of_head ht]
    | some fault =>
      rw [hc] at htarget
      rw [retargetBy, String.toList_ofList, htarget]
      rfl
  · obtain ⟨ref, href⟩ := exists_reference url.toList
    refine ⟨ref, href, ?_⟩
    rw [retargetBy_of_targetBy (targetBy_of_not_namesScheme hurl), ← href, suffix_text]

theorem retargetBy_replaces_bracketed :
    retarget "http://10.0.0.1:80/" "http://[::1]:8080/a//b?#c?" = .ok "http://10.0.0.1:80/a//b"
      ∧ retarget "http://10.0.0.1:80/" "http://[::1/a//b?#c?" = .error .badIpv6
      ∧ ∃ ref : Reference, ref.text = "a?b=http://c".toList
        ∧ retarget "http://10.0.0.1:80/" "a?b=http://c"
          = .ok (.ofList ("http://10.0.0.1:80".toList ++ (rooted ref.path ++ ref.asked))) := by
  obtain ⟨-, hscheme, hplain⟩ := retargetBy_replaces fault? "http://10.0.0.1:80/"
  have haccepted : fault? "http".toList "[::1]:8080".toList = none := by decide +kernel
  have hrefused : fault? "http".toList "[::1".toList = some .badIpv6 := rfl
  have hhead : ∀ c ∈ "/a//b?#c?".toList.head?, endsAuthority c = true := by
    rintro c ⟨⟩
    rfl
  obtain ⟨htarget, hurl⟩ := hscheme "http".toList "[::1]:8080".toList "/a//b?#c?".toList rfl
    (not_endsAuthority_of_all rfl) hhead
  obtain ⟨-, hbad⟩ := hscheme "http".toList "[::1".toList "/a//b?#c?".toList rfl
    (not_endsAuthority_of_all rfl) hhead
  rw [haccepted] at hurl
  rw [hrefused] at hbad
  refine ⟨hurl.trans htarget, hbad, hplain "a?b=http://c" ?_⟩
  rintro ⟨scheme, rest, hs, heq⟩
  have hcut := splitOnce_of_isScheme hs rest
  rw [← heq] at hcut
  cases hcut
  cases hs

/-- A URL that leads to the server of a base: there is nothing but a path or a query behind the
base, so that a scheme and an authority that end the base are those of the URL. -/
structure Extends (base url : List Char) : Prop where
  behind : ∃ rest, url = trimBase base ++ rest ∧ '#' ∉ rest ∧ ∀ c ∈ rest.head?, c = '/' ∨ c = '?'
  server : ∀ scheme authority, splitOnce schemeMark (trimBase base) = some (scheme, authority) →
    (∀ c ∈ authority, endsAuthority c = false) →
    ∃ rest, splitOnce schemeMark url = some (scheme, rest)
      ∧ rest.takeWhile (!endsAuthority ·) = authority

theorem extends_append {base rest : List Char} (hplain : '#' ∉ rest)
    (hrest : ∀ c ∈ rest.head?, c = '/' ∨ c = '?') : Extends base (trimBase base ++ rest) where
  behind := ⟨rest, rfl, hplain, hrest⟩
  server scheme authority hs ha := by
    refine ⟨authority ++ rest, splitOnce_append rest hs, takeWhile_authority ha fun c hc => ?_⟩
    rcases hrest c hc with rfl | rfl <;> rfl

theorem extends_of_retargetBy {base url r : String} (h : retargetBy check base url = .ok r) :
    Extends base.toList r.toList := by
  obtain ⟨target, -, rfl⟩ := eq_ok_of_map h
  rw [String.toList_ofList]
  exact extends_append (suffix_plain target) (head_suffix target)

/-- A base that is a scheme and an authority, and would pass the check. -/
def IsServer (check : List Char → List Char → Option φ) (base : List Char) : Prop :=
  ∃ scheme authority, trimBase base = scheme ++ schemeMark ++ authority ∧ isScheme scheme = true
    ∧ (∀ c ∈ authority, endsAuthority c = false) ∧ check scheme authority = none

theorem targetBy_of_isServer {base : List Char} (h : IsServer check base) (target : List Char) :
    targetBy check (trimBase base ++ suffix target) = .ok (suffix target) := by
  obtain ⟨scheme, authority, hbase, hs, ha, hc⟩ := h
  rw [hbase, targetBy_of_scheme hs ha fun c hc => ?_, hc]
  rcases head_suffix target c hc with rfl | rfl <;> rfl

/-- What comes out for a server has the same target as what went in. -/
theorem retargetBy_retargetBy {base url r : String} (hbase : IsServer check base.toList)
    (h : retargetBy check base url = .ok r) (base' : String) :
    retargetBy check base' r = retargetBy check base' url := by
  obtain ⟨target, ht, rfl⟩ := eq_ok_of_map h
  rw [retargetBy_of_targetBy ht, retargetBy_of_targetBy
    (by rw [String.toList_ofList]; exact targetBy_of_isServer hbase target), suffix_suffix]

/-- Sends a URL from one base to the next. -/
def relay (check : List Char → List Char → Option φ) : List String → String → Except φ String
  | [], url => .ok url
  | base :: bases, url => retargetBy check base url >>= relay check bases

/-- By way of servers a URL comes to a base as if it had been sent there at once. -/
theorem relay_append {bases : List String} (hbases : ∀ b ∈ bases, IsServer check b.toList)
    (base' : String) {url : String} {target : List Char}
    (ht : targetBy check url.toList = .ok target) :
    relay check (bases ++ [base']) url = retargetBy check base' url := by
  induction bases generalizing url target with
  | nil =>
    rw [List.nil_append, relay, retargetBy_of_targetBy ht]
    rfl
  | cons b bases ih =>
    obtain ⟨hb, hbases⟩ := List.forall_mem_cons.mp hbases
    have hr : retargetBy check b url = _ := retargetBy_of_targetBy ht
    rw [List.cons_append, relay, hr, ← retargetBy_retargetBy hb hr base']
    exact ih hbases (by rw [String.toList_ofList]; exact targetBy_of_isServer hb target)

/-- What comes out for a server can be sent on in place of the URL that went in, to any base and by
way of any further servers: it makes no difference.  Sent to the same server again, it stays as it
is. -/
theorem retargetBy_again {base url r : String} (hbase : IsServer check base.toList)
    (h : retargetBy check base url = .ok r) :
    retargetBy check base r = .ok r
      ∧ (∀ base', retargetBy check base' r = retargetBy check base' url)
      ∧ ∀ (bases : List String) (base' : String), (∀ b ∈ bases, IsServer check b.toList) →
        relay check (bases ++ [base']) r = retargetBy check base' url := by
  have hagain := retargetBy_retargetBy hbase h
  refine ⟨(hagain base).trans h, hagain, fun bases base' hbases => ?_⟩
  obtain ⟨target, -, rfl⟩ := eq_ok_of_map h
  rw [← hagain base']
  exact relay_append hbases base'
    (by rw [String.toList_ofList]; exact targetBy_of_isServer hbase target)

theorem retargetBy_again_slashes : ∃ r,
    retarget "http://[::1]:80//" "svc://a//b?c=http://d/#e" = .ok r
    ∧ r = "http://[::1]:80//b?c=http://d/" ∧ retarget "http://[::1]:80//" r = .ok r
    ∧ retarget "b/" r = retarget "b/" "svc://a//b?c=http://d/#e"
    ∧ relay fault? ["http://[::1]:80//", "svc://f", "b/"] r
      = retarget "b/" "svc://a//b?c=http://d/#e" := by
  have hserver : IsServer fault? "http://[::1]:80//".toList :=
    ⟨"http".toList, "[::1]:80".toList, rfl, rfl, not_endsAuthority_of_all rfl, by decide +kernel⟩
  have hother : IsServer fault? "svc://f".toList :=
    ⟨"svc".toList, "f".toList, rfl, rfl, not_endsAuthority_of_all rfl, rfl⟩
  have hr : retarget "http://[::1]:80//" "svc://a//b?c=http://d/#e"
      = .ok "http://[::1]:80//b?c=http://d/" := rfl
  obtain ⟨hsame, hto, hby⟩ := retargetBy_again hserver hr
  exact ⟨_, hr, rfl, hsame, hto "b/",
    hby ["http://[::1]:80//", "svc://f"] "b/"
      (List.forall_mem_cons.mpr ⟨hserver, List.forall_mem_singleton.mpr hother⟩)⟩

end Switchyard.Url
