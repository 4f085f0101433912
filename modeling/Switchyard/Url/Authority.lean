import Switchyard.Text.Blank
import Switchyard.Url.Domain
import Switchyard.Url.Fault
import Switchyard.Url.Ipv6
import Switchyard.Url.Percent

/-!
# The text before the path

A URL with a scheme goes on with an authority: a user and a password before the last `@`, a host,
and a number behind a colon.  What a host may be depends on the scheme: the schemes of the web
name their hosts by domain names and addresses, files may do without a host, and all other schemes
take any text without delimiters.  `fault?` gives the first thing that is wrong.
-/

namespace Switchyard.Url

/-- How the authority of a scheme is read. -/
inductive SchemeKind
  | web
  | file
  | other
deriving DecidableEq, Repr

def SchemeKind.of (scheme : List Char) : SchemeKind :=
  let name := String.ofList (scheme.map Char.toLower)
  if name == "file" then .file
  else if ["http", "https", "ws", "wss", "ftp"].contains name then .web
  else .other

/-- Controls and the space, which do not count at the ends of a URL. -/
def isMargin (c : Char) : Bool := c.toNat ≤ 0x20

/-- Tabs and line ends, which do not count anywhere in a URL. -/
def isLayout (c : Char) : Bool := c == '\t' || c == '\n' || c == '\r'

/-- The text up to the end of the authority; a backslash ends it for the schemes of the web. -/
def untilPath (kind : SchemeKind) (cs : List Char) : List Char :=
  cs.takeWhile fun c => !(c == '/' || c == '?' || c == '#' || (c == '\\' && kind != .other))

/-- What stands before the last `@`, if there is one, and what stands behind it. -/
def splitUser (cs : List Char) : Option (List Char) × List Char :=
  let behind := (cs.reverse.takeWhile (· ≠ '@')).reverse
  if behind.length = cs.length then (none, cs)
  else (some (cs.take (cs.length - behind.length - 1)), behind)

/-- Whether a user or a password is given. -/
def namesUser (user : List Char) : Bool := !(user.isEmpty || user == [':'])

/-- The host and what follows it, which starts with the colon outside of brackets. -/
def splitHost : (inBrackets : Bool) → List Char → List Char × List Char
  | _, [] => ([], [])
  | inBrackets, c :: cs =>
    if c == ':' && !inBrackets then ([], c :: cs)
    else
      let (host, rest) := splitHost (if c == '[' then true else if c == ']' then false
        else inBrackets) cs
      (c :: host, rest)

/-- The number behind the colon is at most 65535; a backslash ends it. -/
def numberFault? : (number : Nat) → List Char → Option Fault
  | _, [] => none
  | number, c :: cs =>
    if c.isDigit then
      let number := number * 10 + (c.toNat - 48)
      if 65535 < number then some .badPortNumber else numberFault? number cs
    else if c == '\\' then none
    else some .badPortNumber

/-- The characters that delimit a host, so that it cannot hold them. -/
def isDelimiter (c : Char) : Bool := "\x00\t\n\r #/:<>?@[\\]^|".toList.contains c

def bracketFault? (host : List Char) : Option Fault :=
  if host.getLast? == some ']' && Ipv6.isAddress (host.drop 1).dropLast then none
  else some .badIpv6

/-- A host of the schemes of the web. -/
def webHostFault? (host : List Char) : Option Fault :=
  if host.head? == some '[' then bracketFault? host
  else match (Percent.decode host).bind Domain.unify with
    | none => some .badDomainName
    | some [] => some .emptyHost
    | some name =>
      if Ipv4.endsInNumber name && !Ipv4.isAddress name then some .badIpv4 else none

/-- A host of any other scheme. -/
def otherHostFault? (host : List Char) : Option Fault :=
  if host.head? == some '[' then bracketFault? host
  else if host.any isDelimiter then some .badDomainCharacter
  else none

def hostFault? (kind : SchemeKind) (host : List Char) : Option Fault :=
  match kind with
  | .other => otherHostFault? host
  | _ => webHostFault? host

/-- A letter and a colon or a bar stand for a drive, not for a host. -/
def isDrive : List Char → Bool
  | [a, b] => a.isAlpha && (b == ':' || b == '|')
  | _ => false

def fileFault? (authority : List Char) : Option Fault :=
  if authority.isEmpty || isDrive authority then none else webHostFault? authority

/-- The authority behind the slashes, up to the end of the URL. -/
def authorityFault? (kind : SchemeKind) (cs : List Char) : Option Fault :=
  let cs := if kind == .web then cs.dropWhile (fun c => c == '/' || c == '\\') else cs
  let authority := untilPath kind cs
  if kind == .file then fileFault? authority
  else
    let (user, behind) := splitUser authority
    let (host, number) := splitHost false behind
    if host.isEmpty && kind == .web then some .emptyHost
    else match hostFault? kind host with
      | some fault => some fault
      | none =>
        if host.isEmpty && (!number.isEmpty || user.any namesUser) then some .emptyHost
        else numberFault? 0 (number.drop 1)

/-- The first thing that is wrong with the authority of `scheme://rest`. -/
def fault? (scheme rest : List Char) : Option Fault :=
  authorityFault? (.of scheme) ((trimEnd isMargin rest).filter (!isLayout ·))

end Switchyard.Url
