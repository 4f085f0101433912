import Switchyard.Topology.Scene

/-!
# Watchers that fail

Anybody may subscribe a watcher, and a watcher may fail when it is called.  The first that fails
ends the calls of its publication, which is then over like any other.  Without such watchers this is
a scene as it was (`after_moves`), and with nothing in between a publication is `Registry.publish`
(`after_publishing`).
-/

namespace Switchyard.Scene

/-- What can happen next where not all watchers are those of directories. -/
inductive Act
  | move (m : Move)
  /-- Somebody subscribes a watcher. -/
  | subscribe (contextId : String) (watcher : Nat)
  /-- A publication calls its next watcher, which fails or has nothing to do with a directory. -/
  | call (publication : Nat) (fails : Bool)
deriving DecidableEq, Repr

/-- What an act does; nothing if it cannot happen. -/
def act (s : Scene) : Act → Option Scene
  | .move m => s.step m
  | .subscribe contextId w => some { s with registry := s.registry.subscribe contextId w }
  | .call i fails =>
    match s.tasks[i]? with
    | some (.publication contextId instances (.calling (_ :: rest))) =>
      some (s.setTask i
        (.publication contextId instances (.calling (if fails then [] else rest))))
    | _ => none

/-- What acts do, one after the other. -/
def after (s : Scene) (acts : List Act) : Option Scene := acts.foldlM act s

theorem after_cons {s t : Scene} {a : Act} (h : s.act a = some t) (acts : List Act) :
    s.after (a :: acts) = t.after acts := by
  rw [after, List.foldlM_cons, h]
  rfl

theorem after_append (s : Scene) (acts more : List Act) :
    s.after (acts ++ more) = (s.after acts).bind fun t => t.after more :=
  List.foldlM_append

theorem after_concat (s : Scene) (acts : List Act) (a : Act) :
    s.after (acts ++ [a]) = (s.after acts).bind fun t => t.act a := by
  rw [after_append]
  exact Option.bind_congr fun t _ => by simp [after]

theorem after_moves (s : Scene) (ms : List Move) : s.after (ms.map .move) = s.run ms := by
  induction ms generalizing s with
  | nil => rfl
  | cons m ms ih =>
    rw [List.map_cons, after, List.foldlM_cons, run]
    exact Option.bind_congr fun t _ => ih t

/-- The calls of a publication with nothing in between: each watcher takes in the list, or does
something else with it, or fails. -/
def calling (takesIn fails : Nat → Bool) (i : Nat) (ws : List Nat) : List Act :=
  (Registry.called fails ws).map fun w =>
    if takesIn w && !fails w then .move (.goOn i) else .call i (fails w)

/-- A publication with nothing in between. -/
def publishing (s : Scene) (takesIn fails : Nat → Bool) (contextId : String)
    (instances : List Instance) : List Act :=
  .move (.publish contextId instances) :: .move (.goOn s.tasks.length) ::
    .move (.goOn s.tasks.length) ::
      calling takesIn fails s.tasks.length (s.registry.watchersOf contextId)

/-- The directories that take in a list that the watchers are called with. -/
def reached (takesIn fails : Nat → Bool) (ws : List Nat) : List Nat :=
  (ws.takeWhile (!fails ·)).filter takesIn

section Calling

variable {takesIn fails : Nat → Bool} {i w : Nat} {ws : List Nat}

theorem calling_of_fails (hf : fails w = true) :
    calling takesIn fails i (w :: ws) = [.call i true] := by
  simp [calling, Registry.called, hf]

theorem calling_of_takesIn (hf : fails w = false) (ht : takesIn w = true) :
    calling takesIn fails i (w :: ws) = .move (.goOn i) :: calling takesIn fails i ws := by
  simp [calling, Registry.called, hf, ht]

theorem calling_of_not_takesIn (hf : fails w = false) (ht : takesIn w = false) :
    calling takesIn fails i (w :: ws) = .call i false :: calling takesIn fails i ws := by
  simp [calling, Registry.called, hf, ht]

theorem reached_of_fails (hf : fails w = true) : reached takesIn fails (w :: ws) = [] := by
  simp [reached, hf]

theorem reached_of_takesIn (hf : fails w = false) (ht : takesIn w = true) :
    reached takesIn fails (w :: ws) = w :: reached takesIn fails ws := by
  simp [reached, hf, ht]

theorem reached_of_not_takesIn (hf : fails w = false) (ht : takesIn w = false) :
    reached takesIn fails (w :: ws) = reached takesIn fails ws := by
  simp [reached, hf, ht]

end Calling

/-- The next step of the publication that was begun last. -/
theorem act_goOn_begin {s t : Scene} {contextId : String} {instances : List Instance}
    {stage next : PublicationStage}
    (h : s.advancePublication contextId instances stage = some (t, next)) :
    (s.begin (.publication contextId instances stage)).act (.move (.goOn s.tasks.length))
      = some (t.begin (.publication contextId instances next)) := by
  have hbegin : (s.begin (.publication contextId instances stage)).advancePublication contextId
      instances stage = some (t.begin (.publication contextId instances stage), next) := by
    cases stage with
    | calling ws =>
      cases ws with
      | nil => cases h
      | cons w ws => cases h; rfl
    | begun | stored => cases h; rfl
  rw [act, step_goOn_publication hbegin rfl, ← tasks_of_advancePublication h]
  rfl

theorem act_call_begin (s : Scene) (contextId : String) (instances : List Instance) (w : Nat)
    (ws : List Nat) (fails : Bool) :
    (s.begin (.publication contextId instances (.calling (w :: ws)))).act
        (.call s.tasks.length fails)
      = some (s.begin
        (.publication contextId instances (.calling (if fails then [] else ws)))) := by
  simp [act, begin, setTask]

theorem after_calling (takesIn fails : Nat → Bool) (contextId : String)
    (instances : List Instance) : ∀ (ws : List Nat) (s : Scene),
      (s.begin (.publication contextId instances (.calling ws))).after
          (calling takesIn fails s.tasks.length ws)
        = some (((reached takesIn fails ws).foldl (fun s d => s.push d contextId instances) s).begin
            (.publication contextId instances (.calling [])))
  | [], _ => rfl
  | w :: ws, s => by
    have hcall := act_call_begin s contextId instances w ws
    have hrest := after_calling takesIn fails contextId instances ws
    cases hf : fails w with
    | true =>
      rw [calling_of_fails hf, reached_of_fails hf, after_cons (hcall true)]
      rfl
    | false =>
      cases ht : takesIn w with
      | true =>
        rw [calling_of_takesIn hf ht, reached_of_takesIn hf ht, after_cons (act_goOn_begin rfl)]
        exact hrest (s.push w contextId instances)
      | false =>
        rw [calling_of_not_takesIn hf ht, reached_of_not_takesIn hf ht, after_cons (hcall false)]
        exact hrest s

theorem after_publishing (s : Scene) (takesIn fails : Nat → Bool) (contextId : String)
    (instances : List Instance) : s.after (s.publishing takesIn fails contextId instances)
      = some (((reached takesIn fails (s.registry.watchersOf contextId)).foldl
          (fun (u : Scene) d => u.push d contextId instances)
          { s with registry := (s.registry.publish fails contextId instances).1 }).begin
            (.publication contextId instances (.calling []))) := by
  have hbegin : s.act (.move (.publish contextId instances))
      = some (s.begin (.publication contextId instances .begun)) := rfl
  rw [publishing, after_cons hbegin, after_cons (act_goOn_begin rfl),
    after_cons (act_goOn_begin rfl)]
  exact after_calling takesIn fails contextId instances _ _

end Switchyard.Scene
