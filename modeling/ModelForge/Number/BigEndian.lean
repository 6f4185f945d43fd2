import ModelForge.Text.Utf8

/-!
# Numbers as octets

Numbers in fields of a fixed number of octets, the highest octet first; negative numbers in two's
complement. A number that does not fit its field is refused.
-/

namespace ModelForge

namespace BigEndian

/-- How many numbers a field of some octets tells apart. -/
def capacity (width : Nat) : Nat := Nat.pow 256 width

/-- The lowest `width` octets of a number, the highest first. -/
def octets (width n : Nat) : Octets :=
  match width with
  | 0 => []
  | width + 1 => octets width (n / 256) ++ [n.toUInt8]

/-- The number that octets stand for. -/
def value (bs : Octets) : Nat := bs.foldl (fun acc b => acc * 256 + b.toNat) 0

/-- A natural number in a field. -/
def unsigned? (width n : Nat) : Option Octets :=
  if n < capacity width then some (octets width n) else none

/-- An integer in a field. -/
def signed? (width : Nat) (i : Int) : Option Octets :=
  let half : Int := (capacity width / 2 : Nat)
  if -half ≤ i ∧ i < half then some (octets width (i % (capacity width : Int)).toNat) else none

/-- The integer that octets stand for. -/
def signedValue (bs : Octets) : Int :=
  let n := value bs
  if 2 * n < capacity bs.length then n else (n : Int) - (capacity bs.length : Int)

end BigEndian

end ModelForge
