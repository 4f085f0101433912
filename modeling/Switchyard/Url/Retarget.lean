import Switchyard.Text.Split
import Switchyard.Url.Authority
import Switchyard.Url.Scheme

/-!
# Retargeting

A URL is sent to another server by putting the base of that server in place of its scheme and
authority.  Path and query are kept character for character; the query only if it is not empty,
and the fragment never.  A URL without a scheme is path and query as it stands.  The authority is
checked before it is dropped (`targetBy`).
-/

namespace Switchyard.Url

/-- The characters at which an authority ends. -/
def endsAuthority (c : Char) : Bool := c == '/' || c == '?' || c == '#'

/-- What follows scheme and authority, unless `check` finds something wrong with those two. -/
def targetBy {φ : Type} (check : List Char → List Char → Option φ) (url : List Char) :
    Except φ (List Char) :=
  match splitOnce schemeMark url with
  | none => .ok url
  | some (scheme, rest) =>
    if isScheme scheme then
      match check scheme (rest.takeWhile (!endsAuthority ·)) with
      | some fault => .error fault
      | none => .ok (rest.dropWhile (!endsAuthority ·))
    else .ok url

/-- The text before the fragment. -/
def dropFragment (cs : List Char) : List Char := cs.takeWhile (· ≠ '#')

/-- The base without the slashes at its end. -/
def trimBase (base : List Char) : List Char := trimEnd (· == '/') base

/-- A path behind a base starts with a slash. -/
def rooted : List Char → List Char
  | [] => []
  | '/' :: path => '/' :: path
  | path => '/' :: path

/-- The text that a target adds to a base: its path and, where there is one, its query. -/
def suffix (target : List Char) : List Char :=
  match splitOnce ['?'] (dropFragment target) with
  | none => rooted (dropFragment target)
  | some (path, []) => rooted path
  | some (path, query) => rooted path ++ '?' :: query

/-- The URL with `base` in place of its scheme and authority, which have to pass a check. -/
def retargetBy {φ : Type} (check : List Char → List Char → Option φ) (base url : String) :
    Except φ String :=
  (targetBy check url.toList).map fun target => .ofList (trimBase base.toList ++ suffix target)

/-- The URL with `base` in place of its scheme and authority. -/
def retarget (base url : String) : Except Fault String := retargetBy fault? base url

end Switchyard.Url
