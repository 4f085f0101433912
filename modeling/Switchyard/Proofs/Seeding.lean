import Switchyard.Dispatch.Dispatcher
import Switchyard.Proofs.LastPublished

/-!
# Seeding a register in memory

A register is seeded in two passes: the instances are gathered by their clusters, and then one list
after the other is stored, in whatever order the clusters come.  What it holds for a cluster is what
a search through all instances would find for it (`Registry.instancesOf_seed_group`), since
gathering adds each instance to the list of its own cluster alone and no cluster comes twice.

A directory on such a register goes by these lists until something is published
(`Directory.IsFresh.answer_of_unpublished`).
-/

namespace Switchyard

namespace Registry

variable {ω : Type}

theorem group_concat (instances : List Instance) (i : Instance) : group (instances ++ [i])
    = (group instances).set i.contextId
        (((group instances).find? i.contextId).getD [] ++ [i]) := by
  simp only [group, List.foldl_append, List.foldl_cons, List.foldl_nil]

theorem getD_find?_group (instances : List Instance) (c : String) :
    ((group instances).find? c).getD [] = instances.filter (·.contextId == c) := by
  induction instances using List.reverseRecOn with
  | nil => rfl
  | append_singleton instances i ih =>
    rw [group_concat, Store.find?_set, List.filter_append]
    by_cases hc : c = i.contextId
    · subst hc
      simp [ih]
    · simp [hc, Ne.symm hc, ih]

theorem nodup_keys_group (instances : List Instance) : (group instances).keys.Nodup := by
  induction instances using List.reverseRecOn with
  | nil => exact List.nodup_nil
  | append_singleton instances i ih =>
    rw [group_concat]
    exact Store.nodup_keys_set ih _ _

theorem instancesOf_foldl_store (c : String) :
    ∀ {lists : List (String × List Instance)} (r : Registry ω), (lists.map (·.1)).Nodup →
      (lists.foldl (fun r (b, is) => r.store b is) r).instancesOf c
        = (Store.findIn c lists).getD (r.instancesOf c)
  | [], r, _ => rfl
  | (b, is) :: lists, r, h => by
    obtain ⟨hb, hlists⟩ := List.nodup_cons.mp h
    rw [List.foldl_cons, instancesOf_foldl_store c _ hlists, instancesOf_store]
    by_cases hc : c = b
    · subst hc
      -- no later list takes the place of this one
      have hnone : Store.findIn c lists = none := by
        rw [← Option.not_isSome_iff_eq_none, ← Store.mem_keysIn]
        exact hb
      simp [Store.findIn, hnone]
    · simp [Store.findIn, hc, Ne.symm hc]

theorem watchersOf_foldl_store (c : String) :
    ∀ (lists : List (String × List Instance)) (r : Registry ω),
      (lists.foldl (fun r (b, is) => r.store b is) r).watchersOf c = r.watchersOf c
  | [], _ => rfl
  | (b, is) :: lists, r => watchersOf_foldl_store c lists (r.store b is)

/-- In whatever order the lists are stored, a cluster has the instances that name it. -/
theorem instancesOf_seed_group {instances : List Instance} {lists : List (String × List Instance)}
    (h : lists.Perm (group instances).entries) (c : String) :
    (seed lists : Registry ω).instancesOf c = instances.filter (·.contextId == c) := by
  have hnodup := nodup_keys_group instances
  rw [seed, instancesOf_foldl_store c _ ((h.map _).nodup_iff.mpr hnodup),
    Store.findIn_perm h hnodup, ← getD_find?_group]
  rfl

end Registry

namespace Directory

open Dispatch (Error)

variable {d : Directory} {c : String}

theorem isFresh_make {settings : Config.RegisterSettings} (hk : settings.kind = Config.memoryKind)
    {r : Registry Unit} (hw : ∀ c, r.watchersOf c = []) :
    (make settings (some (.memory r))).IsFresh := by
  have hkind : (make settings (some (.memory r))).kind = Config.memoryKind := by
    show trim settings.kind = Config.memoryKind
    rw [hk]
    decide
  refine ⟨⟨⟨?_, ?_⟩, r, rfl⟩, fun c => ?_, rfl⟩
  · rw [hkind]
    decide
  · rw [hkind]
    decide
  · exact congrArg List.length (hw c)

/-- As long as nothing is published for a cluster, the register has the list that it had, and if
anything is in the cache it is that list, with something in it. -/
theorem IsFresh.standing_of_unpublished (h : d.IsFresh) {acts : List Act}
    (hacts : ∀ is, .publish c is ∉ acts) :
    ((d.after acts).standing c).held = d.held c
      ∧ ∀ is, ((d.after acts).standing c).cached = some is → is = d.held c ∧ is ≠ [] := by
  induction acts using List.reverseRecOn with
  | nil =>
    refine ⟨rfl, fun is hi => ?_⟩
    have hnone : d.cache.find? c = none := by rw [h.vacant]; rfl
    rw [after, List.foldl_nil, standing, hnone] at hi
    cases hi
  | append_singleton acts a ih =>
    obtain ⟨hheld, hcached⟩ := ih fun is hmem => hacts is (List.mem_append_left _ hmem)
    rw [after_concat, ((h.inMemory.after acts).1.act a).2 c]
    split_ifs with hc
    · cases a with
      | publish b is =>
        cases hc
        exact absurd (List.mem_append_right _ (List.mem_singleton_self _)) (hacts is)
      | resolve b =>
        cases hs : ((d.after acts).standing c).cached with
        | some js =>
          rw [Standing.after, hs]
          exact ⟨hheld, hcached⟩
        | none =>
          simp only [Standing.after, hs]
          refine ⟨hheld, fun is hi => ?_⟩
          split_ifs at hi with hempty
          cases hi
          exact ⟨hheld, hempty⟩
    · exact ⟨hheld, hcached⟩

theorem IsFresh.answer_of_unpublished (h : d.IsFresh) {acts : List Act}
    (hacts : ∀ is, .publish c is ∉ acts) : (d.after acts).answer c
      = if d.held c = [] then .error (.topologyNotFound c)
        else .ok ((d.held c).map Instance.endpoint) := by
  obtain ⟨hheld, hcached⟩ := h.standing_of_unpublished hacts
  rw [(h.inMemory.after acts).1.answer_eq]
  cases hs : ((d.after acts).standing c).cached with
  | some is =>
    obtain ⟨rfl, hne⟩ := hcached is hs
    simp [Standing.after, hs, endpointsOf, hne]
  | none =>
    by_cases hempty : d.held c = [] <;> simp [Standing.after, hs, hheld, hempty, endpointsOf]

end Directory

namespace Registry

open Dispatch (Dispatcher)
open Directory (Act)

/-- A register that is seeded with instances answers every lookup with those of them that name the
cluster, in their order and as often as they come, in whatever order the clusters are stored.  A
dispatcher that is seeded with the configured instances, by itself or with such a register, resolves
a cluster to the endpoints of just these, and if there are none the cluster is not known; so it does
after any lookups and publications, as long as nothing is published for that cluster. -/
theorem seeds_by_cluster {instances : List Instance} {lists : List (String × List Instance)}
    (hlists : lists.Perm (group instances).entries) (c : String) :
    let own := instances.filter (·.contextId == c)
    (∀ (ω : Type) (w : ω), ((seed lists).lookUp c w).2 = own
      ∧ ((ofInstances instances).lookUp c w).2 = own)
    ∧ ∀ (settings : Config.Settings) (balancers : List (String × Balance.Balancer)),
      settings.register.kind = Config.memoryKind → settings.register.instances = instances →
      ∀ register ∈ [none, some (.memory (seed lists))],
      ∀ acts : List Act, (∀ is, .publish c is ∉ acts) →
        ((Dispatcher.make settings register balancers).directory.after acts).answer c
          = if own = [] then .error (.topologyNotFound c) else .ok (own.map Instance.endpoint) := by
  intro own
  refine ⟨fun ω w => ⟨instancesOf_seed_group hlists c, instancesOf_seed_group (.refl _) c⟩, ?_⟩
  intro settings balancers hk hi register hregister acts hacts
  -- either way the directory is on a register that was seeded in some order
  obtain ⟨seeds, hseeds, hd⟩ : ∃ seeds, seeds.Perm (group instances).entries
      ∧ (Dispatcher.make settings register balancers).directory
        = .make settings.register (some (.memory (seed seeds))) := by
    simp only [List.mem_cons, List.not_mem_nil, or_false] at hregister
    rcases hregister with rfl | rfl
    · refine ⟨_, .refl _, ?_⟩
      simp only [Dispatcher.make, Dispatcher.ownRegister, hk, hi, if_true]
      rfl
    · exact ⟨lists, hlists, rfl⟩
  have hfresh : (Directory.make settings.register (some (.memory (seed seeds)))).IsFresh :=
    Directory.isFresh_make hk fun b => watchersOf_foldl_store b seeds .empty
  have hheld : (Directory.make settings.register (some (.memory (seed seeds)))).held c = own :=
    instancesOf_seed_group hseeds c
  rw [hd, hfresh.answer_of_unpublished hacts, hheld]

/-- Instances of two clusters, one of them given twice with the other cluster in between. -/
def interleaved : List Instance := [⟨"a", 1, "x"⟩, ⟨"b", 2, "y"⟩, ⟨"a", 1, "x"⟩]

theorem seeds_by_cluster_interleaved : ∃ lists settings,
    lists = [("y", [⟨"b", 2, "y"⟩]), ("x", [⟨"a", 1, "x"⟩, ⟨"a", 1, "x"⟩])]
    ∧ settings.register = { kind := "memory", instances := interleaved }
    ∧ lists.Perm (group interleaved).entries
    ∧ ((Dispatcher.make settings (some (.memory (seed lists))) []).directory.after
        [.resolve "x", .publish "y" []]).answer "x"
      = .ok [Instance.endpoint ⟨"a", 1, "x"⟩, Instance.endpoint ⟨"a", 1, "x"⟩]
    ∧ (Dispatcher.make settings none []).directory.answer "z" = .error (.topologyNotFound "z") := by
  obtain ⟨settings, hs⟩ : ∃ s : Config.Settings,
    s.register = { kind := "memory", instances := interleaved } := ⟨{ register := _ }, rfl⟩
  have hlists : [("y", [⟨"b", 2, "y"⟩]), ("x", [⟨"a", 1, "x"⟩, ⟨"a", 1, "x"⟩])].Perm
      (group interleaved).entries := .swap _ _ []
  have hk : settings.register.kind = Config.memoryKind := by rw [hs]; rfl
  have hi : settings.register.instances = interleaved := by rw [hs]
  obtain ⟨-, hx⟩ := seeds_by_cluster hlists "x"
  obtain ⟨-, hz⟩ := seeds_by_cluster hlists "z"
  refine ⟨_, settings, rfl, hs, hlists, ?_, hz settings [] hk hi none (by simp) [] (by simp)⟩
  exact hx settings [] hk hi _ (by simp) _ (by simp)

end Registry

end Switchyard
