import Switchyard.Proofs.Conservation
import Switchyard.Proofs.FixedList
import Switchyard.Proofs.Selection

/-!
# Kinds of register as they are read

Settings name the kind of register, and three readers go by the name: validation and the builder
of a dispatcher take it as it stands, the directory without the blanks around it.  So settings
with blanks around the name may be valid and still be of no use (`Directory.misreading`).  With
others the directory always has something to go by, and which of the two it is never changes, so it
is seen in the results of all executions (`Traffic.configuration_error_iff`).
-/

namespace Switchyard

open Dispatch (Error)

namespace Directory

/-- What keeps a directory from resolving anything. -/
def fault? (d : Directory) : Option DirectoryFault :=
  if d.kind = "" then some .noKind
  else if d.kind = Config.localKind then
    if fixedEndpoints d.servers = [] then some .noServers else none
  else if d.register.isNone then some (.noRegister d.kind)
  else none

/-- What keeps a directory from resolving anything although its settings are valid, if it is of
one of the known kinds. -/
def misreading (s : Config.RegisterSettings) : Option DirectoryFault :=
  if s.kind = trim s.kind then none
  else if trim s.kind = Config.memoryKind then some (.noRegister Config.memoryKind)
  else if Config.isBlankServerList s.servers then some .noServers
  else none

/-- A directory has that fault, and without a register there is nothing in its cache. -/
structure Faulty (fault : Option DirectoryFault) (d : Directory) : Prop where
  fault_eq : d.fault? = fault
  cached : d.register = none → ∀ c, d.cache.find? c = none

variable {fault : Option DirectoryFault} {d d' : Directory} {c : String}

theorem Faulty.resolve {result : Except Error (List Endpoint)} (h : d.Faulty fault)
    (hr : Resolves d c d' result) : d'.Faulty fault := by
  cases hr with
  | noKind | noServers | fixed | cached | noRegister => exact h
  | unknown hd hc hr hi | found hd hc hr hi =>
    refine ⟨?_, fun h => nomatch h⟩
    rw [← h.fault_eq, fault?, fault?, hr]
    rfl
  | overtaken hd hc hr =>
    refine ⟨?_, fun hn => ?_⟩
    · rw [← h.fault_eq]
      rfl
    · rw [hr] at hn
      cases hn

theorem Faulty.publish (h : d.Faulty fault) (c : String) (is : List Instance) :
    (d.publish c is).1.Faulty fault := by
  rcases d.publish_cases c is with ⟨hd, -⟩ | ⟨r, hr, hd⟩
  · rw [hd]
    exact h
  · rw [hd]
    refine ⟨?_, fun h => nomatch h⟩
    rw [← h.fault_eq, fault?, fault?, hr]
    rfl

theorem IsDynamic.fault_eq (hd : d.IsDynamic) :
    d.fault? = if d.register.isNone then some (.noRegister d.kind) else none := by
  rw [fault?, if_neg hd.1, if_neg hd.2]

/-- The fault of a directory is the error that it resolves every cluster with. -/
theorem Faulty.error_iff {result : Except Error (List Endpoint)} (h : d.Faulty fault)
    (hr : Resolves d c d' result) {reason : String} :
    result = .error (.configuration reason) ↔ fault.map DirectoryFault.message = some reason := by
  rw [← h.fault_eq]
  cases hr with
  | noKind hk => simp [fault?, hk]
  | noServers hk hs => simp [fault?, hk, hs, Config.localKind]
  | fixed hk hs => simp [fault?, hk, hs, Config.localKind]
  | @cached is hd hc =>
    -- a fault would be the missing register, and then nothing is in the cache
    have hr : d.register ≠ none := fun hr => by
      rw [h.cached hr] at hc
      cases hc
    simp [hd.fault_eq, Option.isNone_iff_eq_none, hr]
  | noRegister hd hc hr => simp [hd.fault_eq, hr]
  | unknown hd hc hr hi | found hd hc hr hi | overtaken hd hc hr => simp [hd.fault_eq, hr]

theorem Faulty.eq_none {result : Except Error (List Endpoint)} (h : d.Faulty fault)
    (hr : Resolves d c d' result) (hne : ∀ reason, result ≠ .error (.configuration reason)) :
    fault = none := by
  cases fault with
  | none => rfl
  | some f => exact absurd ((h.error_iff hr).mpr rfl) (hne f.message)

/-- Valid settings of a known kind make a directory that has no fault but by a misreading. -/
theorem fault?_make {s : Config.RegisterSettings} (hv : Config.registerFaults s = [])
    (hk : trim s.kind = Config.localKind ∨ trim s.kind = Config.memoryKind) :
    (make s (Dispatch.Dispatcher.ownRegister s)).fault? = misreading s := by
  have hne : Config.localKind ≠ "" := by decide
  have hne' : Config.memoryKind ≠ "" := by decide
  have hapart : Config.memoryKind ≠ Config.localKind := by decide
  simp only [fault?, make, misreading, fixedEndpoints_eq_nil_iff]
  rcases hk with hk | hk
  · have hblank : s.kind = Config.localKind → ¬Config.isBlankServerList s.servers = true := by
      intro hs hb
      simp [Config.registerFaults, hs, hb] at hv
    rw [hk, if_neg hne, if_pos rfl, if_neg hapart.symm]
    by_cases hs : s.kind = Config.localKind
    · rw [if_pos hs, if_neg (hblank hs)]
    · rw [if_neg hs]
  · rw [hk, if_neg hne', if_neg hapart, if_pos rfl, Dispatch.Dispatcher.ownRegister]
    by_cases hs : s.kind = Config.memoryKind
    · rw [if_pos hs, if_pos hs]
      rfl
    · rw [if_neg hs, if_neg hs]
      rfl

end Directory

namespace Dispatch

open Directory (misreading)
open Http (Request Response)

namespace Execution

/-- What comes of a reply is not an error of the configuration. -/
theorem after_replied {x y : Execution} {reply : Reply} {draw : Nat} {now : Span}
    (h : x.after (.replied reply draw now) = some y) :
    (∃ c aimed, x = .sending c aimed)
      ∧ ∀ reason, y ≠ .ended (.answered (.error (.configuration reason))) := by
  refine ⟨?_, fun reason hy => ?_⟩
  · cases x with
    | ready | preparing | resting | ended => cases h
    | sending c aimed => exact ⟨c, aimed, rfl⟩
  · subst hy
    cases isIo_of_replied h

theorem after_rested {x y : Execution} (h : x.after .rested = some y) : ∃ c, y = .preparing c := by
  cases x with
  | ready | preparing | sending | ended => cases h
  | resting c => exact ⟨c, (Option.some.inj h).symm⟩

end Execution

/-- How far a trip can be with a fault of the directory, or without one. -/
structure Trip.Fits (fault : Option DirectoryFault) (trip : Trip) : Prop where
  offered : trip.offered.isSome → fault = none
  failed : ∀ reason, trip.progress = .ended (.answered (.error (.configuration reason))) →
    fault.map DirectoryFault.message = some reason
  other : (∀ c, trip.progress ≠ .preparing c) →
    (∀ reason, trip.progress ≠ .ended (.answered (.error (.configuration reason)))) → fault = none

namespace Traffic

variable {fault : Option DirectoryFault} {d d' : Dispatcher} {s t : Traffic} {e : Event} {i : Nat}
  {a b : Trip} {turns : List Turn}

theorem Goes.fits (h : Goes d i e a b d' turns) (hd : d.directory.Faulty fault)
    (ha : a.Fits fault) : b.Fits fault := by
  cases h with
  | @resolve r c e endpoints hr =>
    have hnone := hd.eq_none (Dispatcher.resolves hr) fun _ h => nomatch h
    exact ⟨fun _ => hnone, fun _ hp => (nomatch hp), fun _ _ => hnone⟩
  | @unresolved r c e error hr =>
    have hres := Dispatcher.resolves hr
    refine ⟨fun h => (nomatch h), fun reason hp => ?_, fun _ hne => ?_⟩
    · cases hp
      exact (hd.error_iff hres).mp rfl
    · refine hd.eq_none hres fun reason he => hne reason ?_
      cases he
      rfl
  | aim hc =>
    exact ⟨fun h => (nomatch h), fun _ hp => (nomatch hp), fun _ _ => ha.offered rfl⟩
  | unaimed hc =>
    refine ⟨fun h => (nomatch h), fun reason hp => ?_, fun _ _ => ha.offered rfl⟩
    cases hp
    exact absurd (congrArg Prod.snd hc) Dispatcher.choose_ne_configuration
  | reply hx =>
    obtain ⟨⟨c, aimed, hp⟩, hne⟩ := Execution.after_replied hx
    refine ⟨fun h => (nomatch h), fun reason hy => absurd hy (hne reason), fun _ _ => ?_⟩
    exact ha.other (fun _ h => nomatch hp.symm.trans h) fun _ h => nomatch hp.symm.trans h
  | rest hx =>
    obtain ⟨c, rfl⟩ := Execution.after_rested hx
    exact ⟨fun h => (nomatch h), fun _ hy => (nomatch hy), fun hne _ => absurd rfl (hne c)⟩

structure Fits (fault : Option DirectoryFault) (s : Traffic) : Prop where
  faulty : s.dispatcher.directory.Faulty fault
  trips : ∀ {i : Nat} {trip : Trip}, s.trips[i]? = some trip → trip.Fits fault

theorem Fits.step (h : s.Fits fault) (hs : Step s e t) : t.Fits fault := by
  refine ⟨hs.directory_keeps (fun h => h.resolve) (fun c is h => h.publish c is) h.faulty, ?_⟩
  cases hs with
  | arrive r now =>
    intro i trip hi
    rcases getElem?_concat_cases hi with hi | ⟨rfl, rfl⟩
    · exact h.trips hi
    · exact ⟨fun h => (nomatch h), fun _ hp => (nomatch hp), fun hne _ => absurd rfl (hne _)⟩
  | publish c is => exact h.trips
  | goOn hi hg =>
    intro j trip hj
    rcases getElem?_set_cases hi hj with ⟨rfl, rfl⟩ | ⟨-, hj⟩
    · exact hg.fits h.faulty (h.trips hi)
    · exact h.trips hj

/-- With valid settings of a known kind, an execution is answered with an error of the
configuration if and only if the kind is misread, and then each one is. -/
theorem configuration_error_iff {settings : Config.Settings}
    {balancers : List (String × Balance.Balancer)} {es : List Event} {trip : Trip}
    {result : Except Error Response} {reason : String}
    (hd : Dispatcher.make settings none balancers = d) (hv : Config.faults settings = [])
    (hk : trim settings.register.kind = Config.localKind
      ∨ trim settings.register.kind = Config.memoryKind)
    (h : (start d).run es = some t) (hi : t.trips[i]? = some trip)
    (hended : trip.progress = .ended (.answered result)) :
    result = .error (.configuration reason)
      ↔ (misreading settings.register).map DirectoryFault.message = some reason := by
  have hstart : (start d).Fits (misreading settings.register) := by
    subst hd
    refine ⟨⟨Directory.fault?_make ?_ hk, fun _ _ => rfl⟩, fun hi => nomatch hi⟩
    simp only [Config.faults, List.append_eq_nil_iff] at hv
    exact hv.1.1.1
  have hfits := (run_keeps (P := fun _ s => s.Fits (misreading settings.register))
    (fun hs hstep => hs.step hstep) hstart h).trips hi
  constructor
  · intro hr
    exact hfits.failed reason (by rw [hended, hr])
  · intro hm
    by_contra hne
    have hnone : misreading settings.register = none := by
      refine hfits.other (fun c hp => nomatch hended.symm.trans hp) fun reason' hp => hne ?_
      -- there is only one fault to complain about
      have hreason := hm.symm.trans (hfits.failed reason' hp)
      rw [Option.some.inj hreason]
      exact Ending.answered.inj (Execution.ended.inj (hended.symm.trans hp))
    rw [hnone] at hm
    cases hm

/-- The instance of the cluster is never asked for: the builder did not take this for the register
in memory, and the directory did. -/
theorem configuration_error_iff_padded : ∃ settings d t trip,
    settings.register = { kind := " memory", instances := [⟨"a", 1, "c"⟩] }
    ∧ Config.faults settings = [] ∧ Dispatcher.make settings none [] = d
    ∧ (start d).run [.arrive (.get "/x" "c") .zero, .resolve 0] = some t
    ∧ t.trips[0]? = some trip ∧ trip.progress = .ended (.answered (.error (.configuration
      "registerType `memory` requires an instance registry"))) := by
  obtain ⟨settings, hs⟩ : ∃ s : Config.Settings,
    s = { register := { kind := " memory", instances := [⟨"a", 1, "c"⟩] } } := ⟨_, rfl⟩
  obtain ⟨d, hd⟩ : ∃ d, Dispatcher.make settings none [] = d := ⟨_, rfl⟩
  have hv : Config.faults settings = [] := by subst hs; rfl
  have hk : trim settings.register.kind = Config.memoryKind := by subst hs; rfl
  have hrun : ∃ result, ((start d).run [.arrive (.get "/x" "c") .zero, .resolve 0]).bind
      (fun t => t.trips[0]?.map (·.progress)) = some (.ended (.answered result)) := by
    subst hd hs
    exact ⟨_, rfl⟩
  obtain ⟨result, hrun⟩ := hrun
  obtain ⟨t, ht, hrun⟩ := Option.bind_eq_some_iff.mp hrun
  obtain ⟨trip, hi, hended⟩ := Option.map_eq_some_iff.mp hrun
  have hresult : result = .error (.configuration
      "registerType `memory` requires an instance registry") :=
    (configuration_error_iff hd hv (.inr hk) ht hi hended).mpr (by subst hs; rfl)
  exact ⟨settings, d, t, trip, by rw [hs], hv, hd, ht, hi, by rw [hended, hresult]⟩

end Traffic

end Dispatch

end Switchyard
