import ModelForge.Number.BigEndian
import ModelForge.Text.Hex

/-!
# SHA-256

The digest of an octet string, computed over words of 32 bits: the string is padded to blocks of 64
octets, and each block is mixed into eight words by 64 rounds.
-/

namespace ModelForge

namespace Sha256

/-- The constants of the rounds. -/
def roundConstants : List UInt32 :=
  [0x428a2f98, 0x71374491, 0xb5c0fbcf, 0xe9b5dba5, 0x3956c25b, 0x59f111f1, 0x923f82a4, 0xab1c5ed5,
   0xd807aa98, 0x12835b01, 0x243185be, 0x550c7dc3, 0x72be5d74, 0x80deb1fe, 0x9bdc06a7, 0xc19bf174,
   0xe49b69c1, 0xefbe4786, 0x0fc19dc6, 0x240ca1cc, 0x2de92c6f, 0x4a7484aa, 0x5cb0a9dc, 0x76f988da,
   0x983e5152, 0xa831c66d, 0xb00327c8, 0xbf597fc7, 0xc6e00bf3, 0xd5a79147, 0x06ca6351, 0x14292967,
   0x27b70a85, 0x2e1b2138, 0x4d2c6dfc, 0x53380d13, 0x650a7354, 0x766a0abb, 0x81c2c92e, 0x92722c85,
   0xa2bfe8a1, 0xa81a664b, 0xc24b8b70, 0xc76c51a3, 0xd192e819, 0xd6990624, 0xf40e3585, 0x106aa070,
   0x19a4c116, 0x1e376c08, 0x2748774c, 0x34b0bcb5, 0x391c0cb3, 0x4ed8aa4a, 0x5b9cca4f, 0x682e6ff3,
   0x748f82ee, 0x78a5636f, 0x84c87814, 0x8cc70208, 0x90befffa, 0xa4506ceb, 0xbef9a3f7, 0xc67178f2]

/-- The eight words that a digest is mixed into. -/
structure Words where
  a : UInt32
  b : UInt32
  c : UInt32
  d : UInt32
  e : UInt32
  f : UInt32
  g : UInt32
  h : UInt32
  deriving DecidableEq, Repr

/-- The words before the first block. -/
def start : Words :=
  ⟨0x6a09e667, 0xbb67ae85, 0x3c6ef372, 0xa54ff53a, 0x510e527f, 0x9b05688c, 0x1f83d9ab, 0x5be0cd19⟩

/-- A word with its bits turned to the right. -/
def turn (w : UInt32) (n : UInt32) : UInt32 := (w >>> n) ||| (w <<< (32 - n))

/-- The octets with the mark, the zeros and the length in bits that fill the last block. -/
def pad (bs : Octets) : Octets :=
  let zeros := (119 - bs.length % 64) % 64
  bs ++ 0x80 :: List.replicate zeros 0 ++ BigEndian.octets 8 (8 * bs.length)

/-- The words of a block. -/
def wordsOf : Octets → List UInt32
  | a :: b :: c :: d :: rest =>
    ((a.toUInt32 <<< 24) ||| (b.toUInt32 <<< 16) ||| (c.toUInt32 <<< 8) ||| d.toUInt32) ::
      wordsOf rest
  | _ => []

/-- The word that follows those scheduled so far, which are given last first. -/
def nextWord (ws : List UInt32) : UInt32 :=
  let low := ws.getD 14 0
  let high := ws.getD 1 0
  let s0 := turn low 7 ^^^ turn low 18 ^^^ (low >>> 3)
  let s1 := turn high 17 ^^^ turn high 19 ^^^ (high >>> 10)
  ws.getD 15 0 + s0 + ws.getD 6 0 + s1

/-- Schedules some more words. -/
def extend (count : Nat) (ws : List UInt32) : List UInt32 :=
  match count with
  | 0 => ws
  | count + 1 => extend count (nextWord ws :: ws)

/-- The words of all rounds of a block. -/
def schedule (block : Octets) : List UInt32 := (extend 48 (wordsOf block).reverse).reverse

/-- One round. -/
def round (s : Words) (step : UInt32 × UInt32) : Words :=
  let s1 := turn s.e 6 ^^^ turn s.e 11 ^^^ turn s.e 25
  let choice := (s.e &&& s.f) ^^^ (~~~s.e &&& s.g)
  let t1 := s.h + s1 + choice + step.1 + step.2
  let s0 := turn s.a 2 ^^^ turn s.a 13 ^^^ turn s.a 22
  let majority := (s.a &&& s.b) ^^^ (s.a &&& s.c) ^^^ (s.b &&& s.c)
  ⟨t1 + s0 + majority, s.a, s.b, s.c, s.d + t1, s.e, s.f, s.g⟩

/-- Mixes a block in. -/
def mix (s : Words) (block : Octets) : Words :=
  let t := (roundConstants.zip (schedule block)).foldl round s
  ⟨s.a + t.a, s.b + t.b, s.c + t.c, s.d + t.d, s.e + t.e, s.f + t.f, s.g + t.g, s.h + t.h⟩

/-- Mixes blocks in one after the other. -/
def mixAll (count : Nat) (s : Words) (bs : Octets) : Words :=
  match count with
  | 0 => s
  | count + 1 => mixAll count (mix s (bs.take 64)) (bs.drop 64)

/-- The digest of an octet string. -/
def digest (bs : Octets) : Octets :=
  let padded := pad bs
  let s := mixAll (padded.length / 64) start padded
  [s.a, s.b, s.c, s.d, s.e, s.f, s.g, s.h].flatMap fun w => BigEndian.octets 4 w.toNat

/-- The digest of an octet string in hexadecimal digits. -/
def hexDigest (bs : Octets) : String := Hex.encode (digest bs)

end Sha256

end ModelForge
