/-!
# Requests and responses

A header is a name in lower case and a value of bytes; a name may occur several times, and its
values keep their order.  A request is addressed to a cluster by its context id; its URL may name
any server, since only the path and the query are kept when it is sent.
-/

namespace Switchyard.Http

structure Header where
  name : String
  value : List UInt8
deriving DecidableEq, Repr, Inhabited

abbrev Headers := List Header

abbrev Body := List UInt8

namespace Headers

/-- A header of that name in any case. -/
def entry (name : String) (value : List UInt8) : Header := ⟨name.toLower, value⟩

/-- The values of a name, in order. -/
def values (name : String) (hs : Headers) : List (List UInt8) :=
  (hs.filter (·.name == name)).map (·.value)

/-- The first value of a name. -/
def first? (name : String) (hs : Headers) : Option (List UInt8) := (values name hs).head?

/-- The headers with other names. -/
def without (names : List String) (hs : Headers) : Headers :=
  hs.filter fun h => !names.contains h.name

theorem values_without_of_mem {name : String} {names : List String} (h : name ∈ names)
    (hs : Headers) : values name (without names hs) = [] := by
  simp only [values, without, List.filter_filter, List.map_eq_nil_iff, List.filter_eq_nil_iff]
  intro x _
  simp only [Bool.and_eq_true, beq_iff_eq, Bool.not_eq_true', not_and, Bool.not_eq_false]
  rintro rfl
  exact List.contains_iff_mem.2 h

/-- Other names keep all their values. -/
theorem values_without_of_not_mem {name : String} {names : List String} (h : name ∉ names)
    (hs : Headers) : values name (without names hs) = values name hs := by
  simp only [values, without, List.filter_filter]
  congr 1
  apply List.filter_congr
  intro x _
  by_cases hx : x.name = name
  · simp [hx, h]
  · simp [hx]

end Headers

/-- The text of a value of printable ASCII characters and tabs. -/
def textOf? (value : List UInt8) : Option String :=
  if value.all (fun b => b == 9 || (32 ≤ b && b < 127)) then
    some (String.ofList (value.map fun b => Char.ofNat b.toNat))
  else none

structure Request where
  method : String
  url : String
  contextId : String
  headers : Headers
  body : Body
deriving DecidableEq, Repr, Inhabited

namespace Request

def make (method url contextId : String) : Request := ⟨method, url, contextId, [], []⟩

def get (url contextId : String) : Request := make "GET" url contextId

def post (url contextId : String) : Request := make "POST" url contextId

/-- The request with one more header. -/
def withHeader (r : Request) (h : Header) : Request := { r with headers := r.headers ++ [h] }

/-- The request with these headers and no others. -/
def withHeaders (r : Request) (hs : Headers) : Request := { r with headers := hs }

def withBody (r : Request) (body : Body) : Request := { r with body }

/-- A copy of the request aimed at a URL. -/
def withUrl (r : Request) (url : String) : Request := { r with url }

end Request

structure Response where
  status : Nat
  headers : Headers
  body : Body
deriving DecidableEq, Repr, Inhabited

namespace Response

def make (status : Nat) : Response := ⟨status, [], []⟩

def withBody (r : Response) (body : Body) : Response := { r with body }

end Response

/-- The bytes of a text. -/
def bytesOf (s : String) : Body := s.toUTF8.toList

end Switchyard.Http
