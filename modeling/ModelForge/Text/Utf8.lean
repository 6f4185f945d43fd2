/-!
# UTF-8

`encode` writes characters as octets and `decode` reads them back. A text that is not UTF-8 is
refused at the first offending octets, and the `Fault` names where they start, how many they are
and what is wrong with them. `decodeBlocks` reads a long text block by block the way buffered
readers do: positions in its faults count from the start of the block at hand, held-over octets
included.
-/

namespace ModelForge

/-- An octet string. -/
abbrev Octets := List UInt8

namespace Utf8

/-- The octets of one character. -/
def encodeChar (c : Char) : Octets :=
  let n := c.toNat
  if n < 0x80 then [n.toUInt8]
  else if n < 0x800 then [(0xC0 + n / 0x40).toUInt8, (0x80 + n % 0x40).toUInt8]
  else if n < 0x10000 then
    [(0xE0 + n / 0x1000).toUInt8, (0x80 + n / 0x40 % 0x40).toUInt8, (0x80 + n % 0x40).toUInt8]
  else
    [(0xF0 + n / 0x40000).toUInt8, (0x80 + n / 0x1000 % 0x40).toUInt8,
     (0x80 + n / 0x40 % 0x40).toUInt8, (0x80 + n % 0x40).toUInt8]

/-- The octets of a text. -/
def encodeChars (s : List Char) : Octets := s.flatMap encodeChar

/-- The octets of a string. -/
def encode (s : String) : Octets := encodeChars s.toList

/-- What can be wrong with a run of octets. -/
inductive Reason where
  /-- No character starts with this octet. -/
  | invalidStart
  /-- A character has started, and the next octet does not continue it. -/
  | invalidContinuation
  /-- The octets end inside a character. -/
  | unexpectedEnd
  deriving DecidableEq, Repr

/-- Where and why decoding stopped. -/
structure Fault where
  /-- Position of the first offending octet. -/
  start : Nat
  /-- Number of offending octets. -/
  length : Nat
  /-- The first offending octet. -/
  octet : UInt8
  reason : Reason
  deriving DecidableEq, Repr

/-- The wording of a reason. -/
def Reason.text : Reason → String
  | .invalidStart => "invalid start byte"
  | .invalidContinuation => "invalid continuation byte"
  | .unexpectedEnd => "unexpected end of data"

/-- A hexadecimal digit of a number below sixteen. -/
def hexDigit (n : Nat) : Char :=
  if n < 10 then Char.ofNat (0x30 + n) else Char.ofNat (0x57 + n)

/-- The two hexadecimal digits of an octet. -/
def hexPair (b : UInt8) : String :=
  String.ofList [hexDigit (b.toNat / 16), hexDigit (b.toNat % 16)]

/-- The wording of a fault. -/
def Fault.message (f : Fault) : String :=
  if f.length = 1 then
    s!"'utf-8' codec can't decode byte 0x{hexPair f.octet} in position {f.start}: {f.reason.text}"
  else
    let last := f.start + f.length - 1
    s!"'utf-8' codec can't decode bytes in position {f.start}-{last}: {f.reason.text}"

/-- What a first octet calls for: the number of octets that follow it and the bounds of the first
of those. -/
def lead (b : UInt8) : Option (Nat × UInt8 × UInt8) :=
  if b < 0x80 then some (0, 0x80, 0xBF)
  else if b < 0xC2 then none
  else if b < 0xE0 then some (1, 0x80, 0xBF)
  else if b = 0xE0 then some (2, 0xA0, 0xBF)
  else if b = 0xED then some (2, 0x80, 0x9F)
  else if b < 0xF0 then some (2, 0x80, 0xBF)
  else if b = 0xF0 then some (3, 0x90, 0xBF)
  else if b < 0xF4 then some (3, 0x80, 0xBF)
  else if b = 0xF4 then some (3, 0x80, 0x8F)
  else none

/-- The value bits of a first octet that is followed by `tails` more. -/
def leadBits (tails : Nat) (b : UInt8) : Nat :=
  match tails with
  | 0 => b.toNat
  | 1 => b.toNat - 0xC0
  | 2 => b.toNat - 0xE0
  | _ => b.toNat - 0xF0

/-- A character being read: the octets already seen, the value they give, and what must follow. -/
structure Partial where
  first : UInt8
  seen : Nat
  value : Nat
  owed : Nat
  low : UInt8
  high : UInt8

/-- What is left of a text after its complete characters. -/
inductive Tail where
  /-- The text ended between characters. -/
  | complete
  /-- The text ended inside a character that started at the position. -/
  | open (start : Nat) (part : Partial)

/-- Reads octets from a position on, with a character possibly open. -/
def scan (pos : Nat) : Option Partial → Octets → Except Fault (List Char × Tail)
  | none, [] => .ok ([], .complete)
  | some p, [] => .ok ([], .open (pos - p.seen) p)
  | none, b :: rest =>
    match lead b with
    | none => .error ⟨pos, 1, b, .invalidStart⟩
    | some (0, _, _) => do
      let (cs, tail) ← scan (pos + 1) none rest
      return (Char.ofNat b.toNat :: cs, tail)
    | some (tails, low, high) =>
      scan (pos + 1) (some ⟨b, 1, leadBits tails b, tails, low, high⟩) rest
  | some p, b :: rest =>
    if p.low ≤ b ∧ b ≤ p.high then
      let value := p.value * 0x40 + (b.toNat - 0x80)
      if p.owed ≤ 1 then do
        let (cs, tail) ← scan (pos + 1) none rest
        return (Char.ofNat value :: cs, tail)
      else
        scan (pos + 1) (some ⟨p.first, p.seen + 1, value, p.owed - 1, 0x80, 0xBF⟩) rest
    else
      .error ⟨pos - p.seen, p.seen, p.first, .invalidContinuation⟩

/-- The characters of a whole octet string. -/
def decodeChars (bs : Octets) : Except Fault (List Char) := do
  match ← scan 0 none bs with
  | (cs, .complete) => return cs
  | (_, .open start p) => throw ⟨start, p.seen, p.first, .unexpectedEnd⟩

/-- The text of a whole octet string. -/
def decode (bs : Octets) : Except Fault String := String.ofList <$> decodeChars bs

/-- Octets a buffered reader takes at a time. -/
def blockSize : Nat := 8192

/-- Reads block by block; an open character is carried into the next block, whose positions then
start at the carried octets. -/
def scanBlocks (fuel : Nat) (held : Option Partial) (bs : Octets) :
    Except Fault (List Char) :=
  match fuel with
  | 0 => .ok []
  | fuel + 1 => do
    let heldOctets := (held.map (·.seen)).getD 0
    if bs.isEmpty then
      match held with
      | none => return []
      | some p => throw ⟨0, p.seen, p.first, .unexpectedEnd⟩
    else
      match ← scan heldOctets held (bs.take blockSize) with
      | (cs, .complete) => return cs ++ (← scanBlocks fuel none (bs.drop blockSize))
      | (cs, .open _ p) => return cs ++ (← scanBlocks fuel (some p) (bs.drop blockSize))

/-- The characters of an octet string read block by block. -/
def decodeBlocks (bs : Octets) : Except Fault (List Char) :=
  scanBlocks (bs.length / blockSize + 2) none bs

end Utf8

end ModelForge
