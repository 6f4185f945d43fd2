import ModelForge.Text.Utf8

/-!
# Hexadecimal text

Octets written as two digits each, the high half first.
-/

namespace ModelForge

namespace Hex

/-- Octets as hexadecimal digits. -/
def encode (bs : Octets) : String := String.join (bs.map Utf8.hexPair)

/-- The value of a hexadecimal digit. -/
def digit? (c : Char) : Option Nat :=
  if c.isDigit then some (c.toNat - 0x30)
  else if 'a' ≤ c ∧ c ≤ 'f' then some (c.toNat - 0x57)
  else if 'A' ≤ c ∧ c ≤ 'F' then some (c.toNat - 0x37)
  else none

/-- The octets that digits stand for, two at a time. -/
def decodeChars? : List Char → Option Octets
  | [] => some []
  | [_] => none
  | a :: b :: rest => do
    let high ← digit? a
    let low ← digit? b
    return UInt8.ofNat (high * 16 + low) :: (← decodeChars? rest)

/-- The octets that hexadecimal digits stand for. -/
def decode? (s : String) : Option Octets := decodeChars? s.toList

end Hex

end ModelForge
