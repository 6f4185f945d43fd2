/-!
# Binary floating-point numbers of 64 bits

A finite number is a sign, a natural mantissa below `2 ^ 53` and a power of two. `ofDecimal`
rounds a decimal to the nearest such number, a tie going to the even mantissa; `add` and `mul` round
the exact result; `text` writes the fewest decimal digits that read back as the number;
`roundPlaces` rounds to a number of decimal places. Everything is exact arithmetic on natural
numbers.
-/

namespace ModelForge

/-- A floating-point number: `finite s m e` stands for `±m · 2 ^ e`. -/
inductive Binary64 where
  | nan
  | infinite (negative : Bool)
  | finite (negative : Bool) (mantissa : Nat) (exponent : Int)
  deriving DecidableEq, Repr

namespace Binary64

/-- Zero with a positive sign. -/
def zero : Binary64 := .finite false 0 0

/-- Whether the number is one of the two zeros. -/
def isZero : Binary64 → Bool
  | .finite _ m _ => m == 0
  | _ => false

/-- The quotient of two naturals rounded to the nearest natural, a tie to the even one. -/
def roundQuotient (num den : Nat) : Nat :=
  let q := num / den
  let twice := 2 * (num % den)
  if den < twice ∨ (twice = den ∧ q % 2 = 1) then q + 1 else q

/-- The number nearest to `num / den`, for a positive denominator. -/
def ofRatio (negative : Bool) (num den : Nat) : Binary64 :=
  if num = 0 then .finite negative 0 0
  else
    -- a power of two that leaves 53 or 54 bits before rounding
    let guess : Int := (Nat.log2 num : Int) - (Nat.log2 den : Int) - 53
    let shifted (e : Int) : Nat × Nat :=
      if 0 ≤ e then (num, den * Nat.pow 2 e.toNat) else (num * Nat.pow 2 (-e).toNat, den)
    let fits (e : Int) : Bool := let (n, d) := shifted e; n / d < Nat.pow 2 53
    let exact := if fits guess then guess else guess + 1
    let exponent : Int := max exact (-1074)
    let (n, d) := shifted exponent
    let m := roundQuotient n d
    let (m, exponent) := if m = Nat.pow 2 53 then (Nat.pow 2 52, exponent + 1) else (m, exponent)
    if 971 < exponent then .infinite negative else .finite negative m exponent

/-- The number nearest to `±digits · 10 ^ exponent`. -/
def ofDecimal (negative : Bool) (digits : Nat) (exponent : Int) : Binary64 :=
  if digits = 0 then .finite negative 0 0
  else
    let magnitude : Int := exponent + (Nat.log2 digits + 1 : Nat)
    if 1100 < exponent ∨ (1100 < magnitude ∧ 400 < exponent) then .infinite negative
    else if magnitude < -1200 ∧ exponent < -1200 ∧ exponent + (Nat.log2 digits : Int) < -1200 then
      .finite negative 0 0
    else if 0 ≤ exponent then ofRatio negative (digits * Nat.pow 10 exponent.toNat) 1
    else ofRatio negative digits (Nat.pow 10 (-exponent).toNat)

/-- The number that stands for an integer. -/
def ofInt (i : Int) : Binary64 := ofRatio (i < 0) i.natAbs 1

/-- The size of a finite number as a fraction. -/
def ratio (mantissa : Nat) (exponent : Int) : Nat × Nat :=
  if 0 ≤ exponent then (mantissa * Nat.pow 2 exponent.toNat, 1)
  else (mantissa, Nat.pow 2 (-exponent).toNat)

/-- Whether two numbers are equal as numbers: no number equals `nan`, and the zeros are equal. -/
def sameNumber : Binary64 → Binary64 → Bool
  | .infinite s, .infinite t => s == t
  | .finite s m e, .finite t n f =>
    let (a, b) := ratio m e
    let (c, d) := ratio n f
    (a * d == c * b) && (s == t || (m == 0 && n == 0))
  | _, _ => false

/-- The integer that a number stands for, if it has no fraction. -/
def toInt? : Binary64 → Option Int
  | .finite s m e =>
    let (n, d) := ratio m e
    if n % d = 0 then some (if s then -(n / d : Nat) else (n / d : Nat)) else none
  | _ => none

/-- The number cut toward zero to an integer. -/
def truncate? : Binary64 → Option Int
  | .finite s m e =>
    let (n, d) := ratio m e
    some (if s then -(n / d : Nat) else (n / d : Nat))
  | _ => none

/-- The number rounded to a number of decimal places, a tie going to the even last digit. -/
def roundPlaces (places : Nat) : Binary64 → Binary64
  | .finite s m e =>
    let (n, d) := ratio m e
    ofDecimal s (roundQuotient (n * Nat.pow 10 places) d) (-(places : Int))
  | x => x

/-- The number with the other sign. -/
def negate : Binary64 → Binary64
  | .nan => .nan
  | .infinite s => .infinite !s
  | .finite s m e => .finite (!s) m e

/-- The sum of two numbers, rounded; numbers that cancel out make the positive zero. -/
def add : Binary64 → Binary64 → Binary64
  | .nan, _ | _, .nan => .nan
  | .infinite s, .infinite t => if s = t then .infinite s else .nan
  | .infinite s, .finite _ _ _ => .infinite s
  | .finite _ _ _, .infinite t => .infinite t
  | .finite s m e, .finite t n f =>
    let last := min e f
    let units (negative : Bool) (mantissa : Nat) (exponent : Int) : Int :=
      let size := mantissa * Nat.pow 2 (exponent - last).toNat
      if negative then -(size : Int) else size
    let total := units s m e + units t n f
    if total = 0 then .finite (s && t) 0 0
    else
      let (num, den) := ratio total.natAbs last
      ofRatio (total < 0) num den

/-- The product of two numbers, rounded. -/
def mul : Binary64 → Binary64 → Binary64
  | .nan, _ | _, .nan => .nan
  | .infinite s, .infinite t => .infinite (s != t)
  | .infinite s, .finite t n _ => if n = 0 then .nan else .infinite (s != t)
  | .finite s m _, .infinite t => if m = 0 then .nan else .infinite (s != t)
  | .finite s m e, .finite t n f =>
    let (num, den) := ratio (m * n) (e + f)
    ofRatio (s != t) num den

/-- The position of the first digit: the least `k` with `num / den < 10 ^ k`. -/
def decimalPoint (num den : Nat) : Int :=
  let guess : Int := ((Nat.log2 num : Int) - (Nat.log2 den : Int)) * 30103 / 100000
  let below (k : Int) : Bool :=
    if 0 ≤ k then num < den * Nat.pow 10 k.toNat else num * Nat.pow 10 (-k).toNat < den
  if below (guess - 1) then guess - 1
  else if below guess then guess
  else if below (guess + 1) then guess + 1
  else guess + 2

/-- The digits with `count` places from the first one on, of the neighbours on that grid the
nearer one that reads back, if any: digits and the power of ten of the last. -/
def digitsAt (x : Binary64) (num den : Nat) (point : Int) (count : Nat) : Option (Nat × Int) :=
  let last : Int := point - count
  let (n, d) :=
    if 0 ≤ last then (num, den * Nat.pow 10 last.toNat)
    else (num * Nat.pow 10 (-last).toNat, den)
  let low := n / d
  let readsBack (k : Nat) : Bool := ofDecimal false k last == x
  let nearerHigh := d < 2 * (n % d) ∨ (2 * (n % d) = d ∧ low % 2 = 1)
  let (first, second) := if nearerHigh then (low + 1, low) else (low, low + 1)
  if readsBack first then some (first, last)
  else if readsBack second then some (second, last)
  else none

/-- The fewest digits, at most seventeen, that read back. -/
def shortest (mantissa : Nat) (exponent : Int) : Nat × Int :=
  let (num, den) := ratio mantissa exponent
  let point := decimalPoint num den
  let x := ofRatio false num den
  ((List.range 17).findSome? fun k => digitsAt x num den point (k + 1)).getD (mantissa, 0)

/-- Digits without trailing zeros. -/
def trimZeros (fuel : Nat) (digits : Nat) (last : Int) : Nat × Int :=
  match fuel with
  | 0 => (digits, last)
  | fuel + 1 =>
    if digits ≠ 0 ∧ digits % 10 = 0 then trimZeros fuel (digits / 10) (last + 1)
    else (digits, last)

/-- The text of a number: the fewest digits that read back, positional for sizes from `1e-4` to
below `1e16` and with an exponent of at least two digits otherwise. -/
def text : Binary64 → String
  | .nan => "nan"
  | .infinite s => if s then "-inf" else "inf"
  | .finite s m e =>
    let sign := if s then "-" else ""
    if m = 0 then sign ++ "0.0"
    else
      let (digits, last) := shortest m e
      let (digits, last) := trimZeros 20 digits last
      let ds := (toString digits).toList
      let point : Int := last + ds.length
      if -4 < point ∧ point ≤ 16 then
        if point ≤ 0 then
          sign ++ "0." ++ String.ofList (List.replicate (-point).toNat '0' ++ ds)
        else if ds.length ≤ point.toNat then
          sign ++ String.ofList (ds ++ List.replicate (point.toNat - ds.length) '0') ++ ".0"
        else
          sign ++ String.ofList (ds.take point.toNat) ++ "." ++ String.ofList (ds.drop point.toNat)
      else
        let power := point - 1
        let size := toString power.natAbs
        let size := if size.length < 2 then "0" ++ size else size
        let mark := if power < 0 then "e-" else "e+"
        let head := String.ofList (ds.take 1)
        let rest := String.ofList (ds.drop 1)
        sign ++ head ++ (if ds.length ≤ 1 then "" else "." ++ rest) ++ mark ++ size

end Binary64

end ModelForge
