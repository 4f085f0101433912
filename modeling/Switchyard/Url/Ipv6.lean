import Switchyard.Text.Split
import Switchyard.Url.Ipv4

/-!
# Addresses of eight groups

Eight groups of up to four hexadecimal digits between colons.  One double colon stands for the
groups that are left out, and four decimal bytes may stand for the last two groups.
-/

namespace Switchyard.Url.Ipv6

def isHexDigit (c : Char) : Bool := (Ipv4.digitValue c).isSome

/-- The hexadecimal digits in front, at most `n`, and what follows them. -/
def takeHex : Nat → List Char → List Char × List Char
  | 0, cs => ([], cs)
  | _ + 1, [] => ([], [])
  | n + 1, c :: cs =>
    if isHexDigit c then
      let (digits, rest) := takeHex n cs
      (c :: digits, rest)
    else ([], c :: cs)

theorem takeHex_length : ∀ (n : Nat) (cs : List Char), (takeHex n cs).2.length ≤ cs.length
  | 0, _ => Nat.le_refl _
  | _ + 1, [] => Nat.le_refl _
  | n + 1, c :: cs => by
    simp only [takeHex]
    split
    · exact Nat.le_succ_of_le (takeHex_length n cs)
    · exact Nat.le_refl _

/-- A decimal number up to 255 without a leading zero. -/
def isByte (cs : List Char) : Bool :=
  match cs with
  | [] => false
  | ['0'] => true
  | '0' :: _ => false
  | _ => cs.length ≤ 3 && cs.all Char.isDigit && ((Ipv4.valueOf 10 cs).any (· ≤ 255))

def isByteQuad (cs : List Char) : Bool :=
  let parts := fields '.' cs
  parts.length == 4 && parts.all isByte

/-- Reads groups after `count` of them; `gap` says whether a double colon was read. -/
def readGroups (count : Nat) (gap : Bool) (cs : List Char) : Bool :=
  match cs with
  | [] => gap || count == 8
  | c :: rest =>
    if count = 8 then false
    else if c = ':' then !gap && readGroups (count + 1) true rest
    else match h : takeHex 4 (c :: rest) with
      | (_, []) => gap || count + 1 == 8
      | ([], _ :: _) => false
      | (_ :: _, '.' :: _) =>
        count ≤ 6 && isByteQuad (c :: rest) && (gap || count == 6)
      | (_ :: _, ':' :: after) => !after.isEmpty && readGroups (count + 1) gap after
      | (_ :: _, _ :: _) => false
termination_by cs.length
decreasing_by
  · simp
  · have := takeHex_length 4 (c :: rest)
    rw [h] at this
    simp only [List.length_cons] at this ⊢
    omega

/-- The text between the brackets of a host. -/
def isAddress : List Char → Bool
  | ':' :: ':' :: cs => readGroups 1 true cs
  | ':' :: _ => false
  | cs => 2 ≤ cs.length && readGroups 0 false cs

end Switchyard.Url.Ipv6
