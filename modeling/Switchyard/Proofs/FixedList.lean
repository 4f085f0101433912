import Mathlib.Data.List.Infix
import Switchyard.Config.Validation
import Switchyard.Proofs.DirectoryStep
import Switchyard.Proofs.Trimming
import Switchyard.Topology.History

/-!
# Lists of servers

The entries of a list of servers stand between its commas, and each is for itself
(`Directory.fixedEndpoints_intercalate`).  An entry is an address with blanks around it, or it is
blank and counts for nothing.  So a directory reads back the addresses that were written down, in
order (`Directory.resolve_reads_back`).
-/

namespace Switchyard

open Dispatch (Error)

/-- What addresses look like between the commas of a list: each has blanks around it, and any number
of entries that are blank come in between. -/
inductive Lists : List String → List String → Prop
  | nil : Lists [] []
  | blank {gap : String} {entries addresses : List String} (hgap : isBlankText gap = true)
    (h : Lists entries addresses) : Lists (gap :: entries) addresses
  | address (before address after : String) {entries addresses : List String}
    (hbefore : isBlankText before = true) (hafter : isBlankText after = true)
    (h : Lists entries addresses) :
    Lists ((before ++ address ++ after) :: entries) (address :: addresses)

theorem isBlankText_iff {s : String} : isBlankText s = true ↔ ∀ c ∈ s.toList, isBlank c = true :=
  List.all_eq_true

theorem comma_not_mem_of_isBlankText {s : String} (h : isBlankText s = true) : ',' ∉ s.toList :=
  fun hc => absurd (isBlankText_iff.mp h ',' hc) (by decide)

theorem isBlank_of_mem_schemeMark : ∀ c ∈ Url.schemeMark, isBlank c = false := by
  simp [Url.schemeMark, isBlank, blanks]

theorem mark_infix_trimBoth_iff {cs : List Char} :
    Url.schemeMark <:+: trimBoth isBlank cs ↔ Url.schemeMark <:+: cs :=
  infix_trimBoth_iff (List.cons_ne_nil _ _) isBlank_of_mem_schemeMark

/-- An address is given a scheme unless the mark occurs in it, whether or not it is trimmed. -/
theorem ofAddress_trim (address : String) : Endpoint.ofAddress (trim address)
    = { url := if "://".toList <:+: address.toList then trim address
          else "http://" ++ trim address } := by
  have hmark : occurs Url.schemeMark (trimBoth isBlank address.toList) = true
      ↔ "://".toList <:+: address.toList :=
    occurs_eq_true_iff.trans mark_infix_trimBoth_iff
  have htrim : String.ofList (trimBoth isBlank address.toList) = trim address := rfl
  simp only [Endpoint.ofAddress, Url.withScheme, Url.withSchemeChars, trim_toList,
    trimBoth_trimBoth, hmark]
  split
  · rw [htrim]
  · rw [String.ofList_append, htrim]
    rfl

namespace Directory

/-- What a list of endpoints is answered with; without endpoints the list is at fault. -/
def listed : List Endpoint → Except Error (List Endpoint)
  | [] => .error (.configuration DirectoryFault.noServers.message)
  | endpoints => .ok endpoints

theorem listed_of_ne_nil {endpoints : List Endpoint} (h : endpoints ≠ []) :
    listed endpoints = .ok endpoints := by
  cases endpoints with
  | nil => exact absurd rfl h
  | cons e es => rfl

/-- A fault of the list counts as no endpoints. -/
theorem getD_listed (endpoints : List Endpoint) :
    (listed endpoints).toOption.getD [] = endpoints := by
  cases endpoints <;> rfl

theorem resolve_of_fixed {d : Directory} (hd : d.kind = Config.localKind) (c : String) :
    d.resolve c = (d, [], listed (fixedEndpoints d.servers)) := by
  rw [resolve, if_neg (by rw [hd]; decide), if_pos hd]
  split
  · next h => rw [h, listed]
  · next h => rw [listed_of_ne_nil h]

theorem answer_of_fixed {d : Directory} (hd : d.kind = Config.localKind) (c : String) :
    d.answer c = listed (fixedEndpoints d.servers) := by
  rw [answer, resolve_of_fixed hd]

/-- Two lists with a comma in between are one list. -/
theorem fixedEndpoints_append (front back : String) : fixedEndpoints (front ++ "," ++ back)
    = fixedEndpoints front ++ fixedEndpoints back := by
  simp [fixedEndpoints, fields_append]

theorem fixedEndpoints_intercalate (entries : List String) :
    fixedEndpoints (",".intercalate entries) = entries.flatMap fixedEndpoints := by
  induction entries with
  | nil => rfl
  | cons entry entries ih =>
    cases entries with
    | nil => simp
    | cons next entries =>
      rw [String.intercalate_cons_cons, fixedEndpoints_append, ih]
      rfl

/-- A text without commas is an entry. -/
theorem fixedEndpoints_of_not_mem {entry : String} (h : ',' ∉ entry.toList) :
    fixedEndpoints entry
      = if isBlankText entry = true then [] else [.ofAddress (trim entry)] := by
  have hblank : trimBoth isBlank entry.toList = [] ↔ isBlankText entry = true :=
    trimBoth_eq_nil_iff.trans isBlankText_iff.symm
  rw [fixedEndpoints, fields_of_not_mem h]
  by_cases hentry : isBlankText entry = true
  · simp [hblank.mpr hentry, hentry]
  · simp [hblank, hentry, trim]

theorem fixedEndpoints_pad {before address after : String} (hbefore : isBlankText before = true)
    (hafter : isBlankText after = true) (h : ',' ∉ address.toList) :
    fixedEndpoints (before ++ address ++ after) = fixedEndpoints address := by
  have hcomma : ',' ∉ (before ++ address ++ after).toList := by
    simp [comma_not_mem_of_isBlankText hbefore, comma_not_mem_of_isBlankText hafter, h]
  have htrim : trimBoth isBlank (before ++ address ++ after).toList
      = trimBoth isBlank address.toList := by
    rw [String.toList_append, String.toList_append]
    exact trimBoth_pad (isBlankText_iff.mp hbefore) (isBlankText_iff.mp hafter) _
  simp only [fixedEndpoints, fields_of_not_mem hcomma, fields_of_not_mem h, List.map_cons,
    List.map_nil, htrim]

/-- What is read from a list are the addresses that were written down. -/
theorem fixedEndpoints_of_lists {entries addresses : List String} (h : Lists entries addresses)
    (hcomma : ∀ a ∈ addresses, ',' ∉ a.toList) : entries.flatMap fixedEndpoints
      = (addresses.filter (!isBlankText ·)).map fun a => .ofAddress (trim a) := by
  induction h with
  | nil => rfl
  | blank hgap _ ih =>
    rw [List.flatMap_cons, fixedEndpoints_of_not_mem (comma_not_mem_of_isBlankText hgap),
      if_pos hgap, ih hcomma, List.nil_append]
  | address before address after hbefore hafter _ ih =>
    obtain ⟨ha, hcomma⟩ := List.forall_mem_cons.mp hcomma
    rw [List.flatMap_cons, fixedEndpoints_pad hbefore hafter ha, fixedEndpoints_of_not_mem ha,
      ih hcomma]
    by_cases hblank : isBlankText address = true <;> simp [hblank]

/-- Validation and the directory agree on whether a fixed list is empty. -/
theorem fixedEndpoints_eq_nil_iff (servers : String) :
    fixedEndpoints servers = [] ↔ Config.isBlankServerList servers = true := by
  simp [fixedEndpoints, Config.isBlankServerList, trimBoth_eq_nil_iff]

theorem noServers_mem_faults_iff {s : Config.Settings} (hs : s.register.kind = Config.localKind) :
    .noServers ∈ Config.faults s ↔ Config.isBlankServerList s.register.servers = true := by
  have hretry : .noServers ∉ Config.retryFaults s.register.retry := by
    simp [Config.retryFaults]
  have hgateway : .noServers ∉ Config.gatewayFaults s.gateway := by
    simp [Config.gatewayFaults]
  have hkind : Config.localKind ≠ Config.memoryKind := by decide
  have hfaults : Config.faults s = Config.registerFaults s.register
      ++ Config.retryFaults s.register.retry ++ Config.gatewayFaults s.gateway
      ++ if s.transport.requestTimeout = 0 then [.noRequestTimeout] else [] := rfl
  simp [hfaults, Config.registerFaults, hretry, hgateway, hs, hkind]

/-- A directory with a fixed list reads back, for every cluster, the addresses that were written
down in the list: in order, with those that are repeated, each without the blanks around it, and as
a server of the web if it does not say otherwise.  Two lists with a comma in between give the
endpoints of both.  The list is at fault, which is all that can go wrong, if and only if validation
says so. -/
theorem resolve_reads_back {d : Directory} (hd : d.kind = Config.localKind) (c : String) :
    (∀ entries addresses : List String, Lists entries addresses →
      (∀ a ∈ addresses, ',' ∉ a.toList) → d.servers = ",".intercalate entries →
      d.resolve c = (d, [], listed ((addresses.filter (!isBlankText ·)).map fun a =>
        { url := if "://".toList <:+: a.toList then trim a else "http://" ++ trim a
          weight := 1
          health := .unknown })))
    ∧ (∀ front back : Directory, front.kind = Config.localKind → back.kind = Config.localKind →
      d.servers = front.servers ++ "," ++ back.servers →
      d.answer c
        = listed ((front.answer c).toOption.getD [] ++ (back.answer c).toOption.getD []))
    ∧ ∀ s : Config.Settings, s.register.kind = Config.localKind → s.register.servers = d.servers →
      ((∃ reason, d.answer c = .error (.configuration reason))
        ↔ .noServers ∈ Config.faults s)
      ∧ ∀ e, d.answer c = .error e → e = .configuration DirectoryFault.noServers.message := by
  refine ⟨fun entries addresses hlists hcomma hservers => ?_, fun front back hf hb hservers => ?_,
    fun s hs hservers => ?_⟩
  · rw [resolve_of_fixed hd, hservers, fixedEndpoints_intercalate,
      fixedEndpoints_of_lists hlists hcomma]
    simp only [ofAddress_trim]
  · rw [answer_of_fixed hd, answer_of_fixed hf, answer_of_fixed hb, getD_listed, getD_listed,
      hservers, fixedEndpoints_append]
  · rw [noServers_mem_faults_iff hs, hservers, ← fixedEndpoints_eq_nil_iff, answer_of_fixed hd]
    cases fixedEndpoints d.servers with
    | nil => exact ⟨⟨fun _ => rfl, fun _ => ⟨_, rfl⟩⟩, fun e he => (Except.error.inj he).symm⟩
    | cons e es => exact ⟨⟨fun ⟨_, h⟩ => (nomatch h), fun h => (nomatch h)⟩, fun _ h => (nomatch h)⟩

/-- Two addresses, one of them twice, among blanks of several kinds. -/
def spaced : List String := ["\u3000a:1 ", "", "\thttps://b", "\u00a0", "a:1"]

theorem lists_spaced : Lists spaced ["a:1", "https://b", "a:1"] :=
  .address "\u3000" "a:1" " " rfl rfl <| .blank rfl <| .address "\t" "https://b" "" rfl rfl <|
    .blank rfl <| .address "" "a:1" "" rfl rfl .nil

theorem resolve_reads_back_spaced : ∃ d, Lists spaced ["a:1", "https://b", "a:1"]
    ∧ Directory.make { kind := "local", servers := ",".intercalate spaced } none = d
    ∧ d.resolve "c" = (d, [], .ok [⟨"http://a:1", 1, .unknown⟩, ⟨"https://b", 1, .unknown⟩,
      ⟨"http://a:1", 1, .unknown⟩]) := by
  obtain ⟨d, hd⟩ : ∃ d, Directory.make
      { kind := "local", servers := ",".intercalate spaced } none = d := ⟨_, rfl⟩
  have hkind : d.kind = Config.localKind := by subst hd; rfl
  have hservers : d.servers = ",".intercalate spaced := by subst hd; rfl
  obtain ⟨hread, -⟩ := resolve_reads_back hkind "c"
  have hplain : ¬"://".toList <:+: "a:1".toList := by decide
  have hmarked : "://".toList <:+: "https://b".toList := ⟨"https".toList, "b".toList, rfl⟩
  have hkept : ["a:1", "https://b", "a:1"].filter (!isBlankText ·) = ["a:1", "https://b", "a:1"] :=
    rfl
  refine ⟨d, lists_spaced, hd, ?_⟩
  rw [hread _ _ lists_spaced (by decide) hservers, hkept]
  simp only [List.map_cons, List.map_nil, if_neg hplain, if_pos hmarked]
  rfl

end Directory

end Switchyard
