import Mathlib.Tactic.SplitIfs
import Switchyard.Proofs.SceneStep
import Switchyard.Topology.Directory

/-!
# What a directory does

`Directory.Resolves` lists the ways in which a directory resolves a cluster, with what becomes of
the register and of the cache.  A publication reaches the register in memory, and the cache if a
watcher of the cluster is subscribed (`Directory.publish_of_memory`).
-/

namespace Switchyard

open Dispatch (Error)

namespace Cache

theorem settle_of_nothing (k : Cache) (c : String) : k.settle c [] = (k, k.find? c) := rfl

/-- The result of a first lookup is stored where nothing was. -/
theorem settle_of_vacant {k : Cache} {c : String} {found : List Instance} (hc : k.find? c = none)
    (hf : found ≠ []) : k.settle c found = (k.push c found, some found) := by
  cases found with
  | nil => exact absurd rfl hf
  | cons x xs => simp [settle, fill, push, hc]

theorem settle_of_filled {k : Cache} {c : String} {is : List Instance} (hc : k.find? c = some is)
    (found : List Instance) : k.settle c found = (k, some is) := by
  cases found with
  | nil => rw [settle_of_nothing, hc]
  | cons x xs => simp [settle, fill, hc]

end Cache

namespace Directory

/-- Whether the instances of clusters come from a register. -/
def IsDynamic (d : Directory) : Prop := d.kind ≠ "" ∧ d.kind ≠ Config.localKind

/-- The ways in which a directory resolves a cluster: what it is then, and the result. -/
inductive Resolves (d : Directory) (c : String) : Directory → Except Error (List Endpoint) → Prop
  | noKind (hk : d.kind = "") :
    Resolves d c d (.error (.configuration DirectoryFault.noKind.message))
  | noServers (hk : d.kind = Config.localKind) (hs : fixedEndpoints d.servers = []) :
    Resolves d c d (.error (.configuration DirectoryFault.noServers.message))
  | fixed (hk : d.kind = Config.localKind) (hs : fixedEndpoints d.servers ≠ []) :
    Resolves d c d (.ok (fixedEndpoints d.servers))
  | cached {is : List Instance} (hd : d.IsDynamic) (hc : d.cache.find? c = some is) :
    Resolves d c d (.ok (is.map Instance.endpoint))
  | noRegister (hd : d.IsDynamic) (hc : d.cache.find? c = none) (hr : d.register = none) :
    Resolves d c d (.error (.configuration (DirectoryFault.noRegister d.kind).message))
  | unknown {r : Registry Unit} (hd : d.IsDynamic) (hc : d.cache.find? c = none)
    (hr : d.register = some (.memory r)) (hi : r.instancesOf c = []) :
    Resolves d c { d with register := some (.memory (r.subscribe c ())) }
      (.error (.topologyNotFound c))
  | found {r : Registry Unit} (hd : d.IsDynamic) (hc : d.cache.find? c = none)
    (hr : d.register = some (.memory r)) (hi : r.instancesOf c ≠ []) :
    Resolves d c
      { d with
        register := some (.memory (r.subscribe c ()))
        cache := d.cache.push c (r.instancesOf c) }
      (.ok ((r.instancesOf c).map Instance.endpoint))
  | overtaken {pushed initial : List Instance} (hd : d.IsDynamic) (hc : d.cache.find? c = none)
    (hr : d.register = some (.overtaken pushed initial)) :
    Resolves d c { d with cache := d.cache.push c pushed } (.ok (pushed.map Instance.endpoint))

variable {d d' : Directory} {c : String} {result : Except Error (List Endpoint)}

theorem resolves_lookUp (hd : d.IsDynamic) (hc : d.cache.find? c = none) :
    Resolves d c (d.lookUp c).1 (d.lookUp c).2.2 := by
  unfold lookUp
  split
  · rename_i hr
    exact .noRegister hd hc hr
  · rename_i register hr
    cases register with
    | memory r =>
      simp only [Register.ask, Registry.lookUp, List.foldl_nil]
      by_cases hi : r.instancesOf c = []
      · simp only [hi, Cache.settle_of_nothing, hc, endpointsOf]
        exact .unknown hd hc hr hi
      · simp only [Cache.settle_of_vacant hc hi, endpointsOf]
        exact .found hd hc hr hi
    | overtaken pushed initial =>
      have hp : (d.cache.push c pushed).find? c = some pushed := Store.find?_set_self _ _ _
      simp only [Register.ask, List.foldl_cons, List.foldl_nil, Cache.settle_of_filled hp,
        endpointsOf, ← hr]
      exact .overtaken hd hc hr

theorem resolves (d : Directory) (c : String) : Resolves d c (d.resolve c).1 (d.resolve c).2.2 := by
  unfold resolve
  split_ifs with h0 hl
  · exact .noKind h0
  · split
    · rename_i hs
      exact .noServers hl hs
    · rename_i hs
      exact .fixed hl hs
  · split
    · rename_i is hc
      exact .cached ⟨h0, hl⟩ hc
    · rename_i hc
      exact resolves_lookUp ⟨h0, hl⟩ hc

/-- Resolving leaves the kind of register and the fixed list alone. -/
theorem Resolves.fixed_eq (h : Resolves d c d' result) :
    d'.kind = d.kind ∧ d'.servers = d.servers := by
  cases h <;> exact ⟨rfl, rfl⟩

theorem foldl_push (is : List Instance) : ∀ (ws : List Unit) (d : Directory),
    ws.foldl (fun d _ => d.push c is) d = if ws = [] then d else d.push c is
  | [], _ => rfl
  | _ :: ws, d => by
    rw [List.foldl_cons, foldl_push is ws, if_neg (List.cons_ne_nil _ _)]
    split_ifs
    · rfl
    · simp only [push, Cache.push, Store.set_set]

theorem publish_of_memory {r : Registry Unit} (hr : d.register = some (.memory r)) (c : String)
    (is : List Instance) : (d.publish c is).1
      = { d with
          register := some (.memory (r.store c is))
          cache := if r.watchersOf c = [] then d.cache else d.cache.push c is } := by
  simp only [publish, hr, Registry.publish, Registry.called_of_never_failing, foldl_push]
  split_ifs <;> rfl

theorem publish_of_not_memory (hr : ∀ r, d.register ≠ some (.memory r)) (c : String)
    (is : List Instance) : (d.publish c is).1 = d := by
  unfold publish
  split
  · rename_i r h
    exact absurd h (hr r)
  · rfl

/-- What a publication does to a directory. -/
theorem publish_cases (d : Directory) (c : String) (is : List Instance) :
    (d.publish c is).1 = d ∧ (∀ r, d.register ≠ some (.memory r))
      ∨ ∃ r, d.register = some (.memory r) ∧ (d.publish c is).1
        = { d with
            register := some (.memory (r.store c is))
            cache := if r.watchersOf c = [] then d.cache else d.cache.push c is } := by
  by_cases hr : ∃ r, d.register = some (.memory r)
  · obtain ⟨r, hr⟩ := hr
    exact Or.inr ⟨r, hr, publish_of_memory hr c is⟩
  · have hr : ∀ r, d.register ≠ some (.memory r) := fun r h => hr ⟨r, h⟩
    exact Or.inl ⟨publish_of_not_memory hr c is, hr⟩

end Directory

end Switchyard
