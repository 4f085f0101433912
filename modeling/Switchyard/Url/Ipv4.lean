import Switchyard.Text.Split

/-!
# Addresses of four bytes

A host whose last label is a number is an address: up to four numbers, each decimal, octal (a
leading zero) or hexadecimal (a leading `0x`), where the last one fills all the bytes that are
left (`Ipv4.isAddress`).
-/

namespace Switchyard.Url.Ipv4

def digitValue (c : Char) : Option Nat :=
  if c.isDigit then some (c.toNat - 48)
  else if 'a' ≤ c ∧ c ≤ 'f' then some (c.toNat - 87)
  else if 'A' ≤ c ∧ c ≤ 'F' then some (c.toNat - 55)
  else none

/-- The value of digits of a base; none if one of them is no digit of it. -/
def valueOf (base : Nat) (cs : List Char) : Option Nat :=
  cs.foldlM (fun n c => match digitValue c with
    | some d => if d < base then some (n * base + d) else none
    | none => none) 0

/-- The number that a label spells.  A bare `0x` is zero. -/
def number? : List Char → Option Nat
  | [] => none
  | '0' :: 'x' :: cs => valueOf 16 cs
  | '0' :: 'X' :: cs => valueOf 16 cs
  | '0' :: c :: cs => valueOf 8 (c :: cs)
  | cs => valueOf 10 cs

/-- The last label that counts: one empty label at the end does not. -/
def lastLabel (host : List Char) : List Char :=
  match (fields '.' host).reverse with
  | [] :: label :: _ => label
  | label :: _ => label
  | [] => []

/-- Whether a host has to be an address of four bytes. -/
def endsInNumber (host : List Char) : Bool :=
  let label := lastLabel host
  (!label.isEmpty && label.all Char.isDigit) || (number? label).isSome

/-- All numbers but the last are bytes, and the last one fits into the bytes that are left. -/
def fits (numbers : List Nat) : Bool :=
  match numbers.reverse with
  | [] => false
  | last :: before => before.all (· ≤ 255) && last < Nat.pow 256 (4 - before.length)

def isAddress (host : List Char) : Bool :=
  let labels := fields '.' host
  let labels := if labels.getLast? == some [] then labels.dropLast else labels
  labels.length ≤ 4 && match labels.mapM number? with
    | some numbers => fits numbers
    | none => false

end Switchyard.Url.Ipv4
