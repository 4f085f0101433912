/-!
# Fingerprints of texts

A sequence of texts is hashed to one word by SipHash with one round for each block, three rounds
at the end, and a key of zeros.  Each text is closed by a byte that occurs in no text, so that the
texts cannot run into each other.
-/

namespace Switchyard.Balance

/-- The four words that the hash turns around. -/
structure SipState where
  v0 : UInt64
  v1 : UInt64
  v2 : UInt64
  v3 : UInt64

namespace SipState

def start : SipState :=
  ⟨0x736f6d6570736575, 0x646f72616e646f6d, 0x6c7967656e657261, 0x7465646279746573⟩

def rotl (x : UInt64) (n : UInt64) : UInt64 := (x <<< n) ||| (x >>> (64 - n))

def round (s : SipState) : SipState :=
  let v0 := s.v0 + s.v1
  let v1 := rotl s.v1 13 ^^^ v0
  let v0 := rotl v0 32
  let v2 := s.v2 + s.v3
  let v3 := rotl s.v3 16 ^^^ v2
  let v0 := v0 + v3
  let v3 := rotl v3 21 ^^^ v0
  let v2 := v2 + v1
  let v1 := rotl v1 17 ^^^ v2
  let v2 := rotl v2 32
  ⟨v0, v1, v2, v3⟩

/-- Takes in one block of eight bytes. -/
def absorb (s : SipState) (block : UInt64) : SipState :=
  let s := round { s with v3 := s.v3 ^^^ block }
  { s with v0 := s.v0 ^^^ block }

def finish (s : SipState) : UInt64 :=
  let s := round (round (round { s with v2 := s.v2 ^^^ 0xff }))
  s.v0 ^^^ s.v1 ^^^ s.v2 ^^^ s.v3

end SipState

/-- The word of up to eight bytes, the lowest first. -/
def wordOf (bytes : List UInt8) : UInt64 :=
  bytes.foldr (fun b w => w <<< 8 ||| b.toUInt64) 0

/-- Takes in all whole blocks and closes with the bytes left over and the length. -/
def hashFrom (s : SipState) (length : Nat) : List UInt8 → UInt64
  | a :: b :: c :: d :: e :: f :: g :: h :: rest =>
    hashFrom (s.absorb (wordOf [a, b, c, d, e, f, g, h])) length rest
  | rest => (s.absorb (wordOf rest ||| (UInt64.ofNat length <<< 56))).finish

/-- The fingerprint of a sequence of texts. -/
def fingerprint (texts : List String) : UInt64 :=
  let bytes := texts.flatMap fun t => t.toUTF8.toList ++ [0xff]
  hashFrom .start bytes.length bytes

/-- Sixteen hexadecimal digits. -/
def hexOf (w : UInt64) : String :=
  String.ofList ((List.range 16).map fun i =>
    Nat.digitChar (w >>> UInt64.ofNat (4 * (15 - i)) &&& 15).toNat)

end Switchyard.Balance
