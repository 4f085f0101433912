import Switchyard.Gateway.Handler

/-!
# Layers around the handler

A service answers a request, or has no answer when its time is up.  Put around a service, a layer
changes what goes in or what comes out, and layers are put around one another (`Layer.around`).

Those of the gateway (`layers`) are, from the outside in: one that gives requests an id, one that
answers when the time is up, and one that gives answers the id of their request.  What the second
one answers does not pass the third (`around_layers`).
-/

namespace Switchyard.Gateway

open Http (Headers Response)

/-- What takes requests and answers them, unless its time is up before. -/
abbrev Service := Inbound → Option Response

abbrev Layer := Service → Service

namespace Layer

/-- Requests without an id get a fresh one. -/
def setId (fresh : List UInt8) : Layer := fun inner i => inner (withId fresh i)

/-- When the time is up the answer is a bare status. -/
def limitTime : Layer := fun inner i => some ((inner i).getD (.make 408))

/-- Answers of the service get the id of their request. -/
def propagateId : Layer := fun inner i =>
  match Headers.first? requestIdHeader i.headers with
  | some id => (inner i).map (propagate id)
  | none => inner i

/-- A service with layers around it, the outermost first. -/
def around (layers : List Layer) (inner : Service) : Service :=
  layers.foldr (fun layer service => layer service) inner

end Layer

/-- The layers of the gateway, where requests without an id get `fresh`. -/
def layers (fresh : List UInt8) : List Layer := [.setId fresh, .limitTime, .propagateId]

theorem first?_withId (fresh : List UInt8) (i : Inbound) :
    Headers.first? requestIdHeader (withId fresh i).headers = some (idOf fresh i) := by
  unfold withId idOf
  cases h : Headers.first? requestIdHeader i.headers with
  | some id => exact h
  | none =>
    have hvalues : Headers.values requestIdHeader i.headers = [] := List.head?_eq_none_iff.mp h
    simp only [Headers.values, List.map_eq_nil_iff] at hvalues
    simp [Headers.first?, Headers.values, hvalues]

theorem around_layers (fresh : List UInt8) (inner : Service) (i : Inbound) :
    Layer.around (layers fresh) inner i = some (match inner (withId fresh i) with
      | some r => propagate (idOf fresh i) r
      | none => .make 408) := by
  simp only [layers, Layer.around, List.foldr_cons, List.foldr_nil, Layer.setId, Layer.limitTime,
    Layer.propagateId, first?_withId]
  cases inner (withId fresh i) <;> rfl

/-- What the client gets is what comes out of the layers. -/
theorem around_layers_course (fresh : List UInt8) (i : Inbound) (course : Option Course) :
    Layer.around (layers fresh) (fun _ => course.map Course.response) i
      = some (respond fresh i course) := by
  rw [around_layers]
  cases course <;> rfl

end Switchyard.Gateway
