import Switchyard.Url.Ipv4

/-!
# Percent signs

A percent sign and two hexadecimal digits stand for a byte.  `decode` gives the text that a text
with such bytes stands for, if the bytes are UTF-8.
-/

namespace Switchyard.Url.Percent

/-- The bytes that a text stands for; a percent sign without two digits stands for itself. -/
def bytes : List Char → List UInt8
  | [] => []
  | '%' :: a :: b :: cs =>
    match Ipv4.digitValue a, Ipv4.digitValue b with
    | some x, some y => UInt8.ofNat (x * 16 + y) :: bytes cs
    | _, _ => UInt8.ofNat 0x25 :: bytes (a :: b :: cs)
  | c :: cs => (String.singleton c).toUTF8.toList ++ bytes cs

def decode (cs : List Char) : Option (List Char) :=
  if cs.contains '%' then (String.fromUTF8? ⟨(bytes cs).toArray⟩).map String.toList else some cs

end Switchyard.Url.Percent
