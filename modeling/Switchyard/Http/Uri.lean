import Switchyard.Text.Split

/-!
# Request targets

The target of a request is a path with an optional query, an asterisk, an authority, or all of
scheme, authority and path.  This reading is wider than that of URLs: it checks which characters
stand where and leaves hosts as they are.
-/

namespace Switchyard.Http

/-- Why a text is no target. -/
inductive UriFault
  | empty
  | tooLong
  | schemeTooLong
  | badCharacter
  | badAuthority
  | badFormat
deriving DecidableEq, Repr

def UriFault.message : UriFault → String
  | .empty => "empty string"
  | .tooLong => "uri too long"
  | .schemeTooLong => "scheme too long"
  | .badCharacter => "invalid uri character"
  | .badAuthority => "invalid authority"
  | .badFormat => "invalid format"

structure Uri where
  scheme : Option (List Char)
  authority : List Char
  /-- The path and the query, without the fragment. -/
  path : List Char
deriving DecidableEq, Repr

namespace Uri

/-- The most bytes that a target has. -/
def longest : Nat := 65534

/-- The most characters that a scheme has. -/
def longestScheme : Nat := 64

def isSchemeChar (c : Char) : Bool :=
  c.isAlphanum || c == '+' || c == '-' || c == '.' || c == '~'

/-- The scheme in front, and what follows its mark.  A text that starts otherwise has none. -/
def splitScheme (cs : List Char) : Except UriFault (Option (List Char) × List Char) :=
  let name := cs.takeWhile isSchemeChar
  match cs.drop name.length with
  | ':' :: '/' :: '/' :: rest =>
    if cs.length ≤ 3 then .ok (none, cs)
    else if longestScheme < name.length then .error .schemeTooLong
    else .ok (some name, rest)
  | _ => .ok (none, cs)

def endsAuthority (c : Char) : Bool := c == '/' || c == '?' || c == '#'

/-- The characters that may stand in an authority, beside the percent sign. -/
def isAuthorityChar (c : Char) : Bool := c.isAlphanum || "!$&'()*+,-.:;=@[]_~".toList.contains c

/-- The most colons in a row of groups. -/
def mostColons : Nat := 8

/-- What has been seen of an authority since its user ended. -/
structure Scan where
  colons : Nat
  opened : Bool
  closed : Bool
  percent : Bool
  /-- Whether the last character was the end of the user. -/
  afterUser : Bool

def Scan.start : Scan := ⟨0, false, false, false, false⟩

/-- Looks at one character of an authority. -/
def Scan.see (s : Scan) (c : Char) : Except UriFault Scan :=
  let s := { s with afterUser := false }
  if c == ':' then
    if mostColons ≤ s.colons then .error .badAuthority else .ok { s with colons := s.colons + 1 }
  else if c == '[' then
    if s.percent || s.opened then .error .badAuthority else .ok { s with opened := true }
  else if c == ']' then
    if !s.opened || s.closed then .error .badAuthority
    else .ok { s with closed := true, colons := 0, percent := false }
  else if c == '@' then .ok { s with colons := 0, percent := false, afterUser := true }
  else if c == '%' then .ok { s with percent := true }
  else if isAuthorityChar c then .ok s
  else .error .badCharacter

/-- Whether an authority may end as it has been seen. -/
def Scan.mayEnd (s : Scan) : Bool :=
  s.opened == s.closed && s.colons ≤ 1 && !s.afterUser && !s.percent

/-- The authority in front and what follows it. -/
def splitAuthority (cs : List Char) : Except UriFault (List Char × List Char) := do
  let authority := cs.takeWhile (!endsAuthority ·)
  let s ← authority.foldlM Scan.see .start
  if s.mayEnd then .ok (authority, cs.dropWhile (!endsAuthority ·)) else .error .badAuthority

def isPathChar (c : Char) : Bool :=
  let n := c.toNat
  n == 0x21 || (0x24 ≤ n && n ≤ 0x3b) || n == 0x3d || (0x40 ≤ n && n ≤ 0x5f)
    || (0x61 ≤ n && n ≤ 0x7a) || n == 0x7c || 0x7e ≤ n || c == '"' || c == '\x7b' || c == '\x7d'

def isQueryChar (c : Char) : Bool :=
  let n := c.toNat
  n == 0x21 || (0x24 ≤ n && n ≤ 0x3b) || n == 0x3d || 0x3f ≤ n

/-- The path and the query, up to the fragment. -/
def readPath (cs : List Char) : Except UriFault (List Char) :=
  let path := cs.takeWhile (fun c => c != '?' && c != '#')
  let query := (cs.drop path.length).takeWhile (· != '#')
  if path.all isPathChar && (query.drop 1).all isQueryChar then .ok (path ++ query)
  else .error .badCharacter

def ofChars : List Char → Except UriFault Uri
  | [] => .error .empty
  | ['/'] => .ok ⟨none, [], ['/']⟩
  | ['*'] => .ok ⟨none, [], ['*']⟩
  | [c] => do
    let (authority, rest) ← splitAuthority [c]
    if rest.isEmpty then .ok ⟨none, authority, []⟩ else .error .badCharacter
  | '/' :: cs => do return ⟨none, [], ← readPath ('/' :: cs)⟩
  | cs => do
    let (scheme, rest) ← splitScheme cs
    let (authority, rest) ← splitAuthority rest
    match scheme with
    | none => if rest.isEmpty then .ok ⟨none, authority, []⟩ else .error .badFormat
    | some name =>
      if authority.isEmpty then .error .badFormat
      else return ⟨some name, authority, ← readPath rest⟩

def parse (s : String) : Except UriFault Uri :=
  if longest < s.utf8ByteSize then .error .tooLong else ofChars s.toList

/-- The path and the query as a text; none for an authority alone. -/
def target? (u : Uri) : Option String :=
  if u.scheme.isNone && !u.authority.isEmpty then none
  else if u.path.isEmpty then some "/"
  else some (String.ofList u.path)

end Uri

end Switchyard.Http
