import ModelForge.Document.Value
import ModelForge.Document.Yaml.Plain
import ModelForge.Document.Yaml.Token
import ModelForge.Text.Lowercase

/-!
# The values of scalars

The readers below give the value of a scalar that has been tagged, whatever it looks like.
-/

namespace ModelForge

namespace Yaml

/-- The value of code points: a text unless a surrogate is among them. -/
def textOf (codes : List Nat) : Value :=
  match charsOf? codes with
  | some s => .text (String.ofList s)
  | none => .brokenText codes

namespace Scalar

/-- A fault of an integer literal. -/
def integerFault (f : Integer.Fault) : Fault := .badScalar f.message

/-- Reads a boolean. -/
def bool (s : List Char) : Except Fault Value :=
  let word := Lowercase.of (String.ofList s)
  if ["yes", "true", "on"].contains word then .ok (.bool true)
  else if ["no", "false", "off"].contains word then .ok (.bool false)
  else .error (.unknownWord word)

/-- The number that digits to the base sixty make, the highest first. -/
def sixtieths (parts : List Int) : Int := parts.foldl (fun acc d => acc * 60 + d) 0

/-- Reads an integer: binary, octal, hexadecimal, decimal or to the base sixty. -/
def int (s : List Char) : Except Fault Value := do
  let s := s.filter (· ≠ '_')
  if s.isEmpty then throw .emptyNumber
  let (negative, body) := Integer.splitSign s
  let read (base : Nat) (digits : List Char) : Except Fault Int :=
    match Integer.parseIn base (String.ofList digits) with
    | .ok n => .ok n
    | .error f => .error (integerFault f)
  let size ←
    match body with
    | [] => throw .emptyNumber
    | ['0'] => pure 0
    | '0' :: 'b' :: digits => read 2 digits
    | '0' :: 'x' :: digits => read 16 digits
    | '0' :: _ => read 8 body
    | _ =>
      if body.contains ':' then
        sixtieths <$> (Segments.splitOn ':' body).mapM (read 10)
      else read 10 body
  return .int (if negative then -size else size)

/-- The sum of parts, the lowest first, each times the next power of sixty; every product and every
sum is rounded. -/
def sixtiethsFrom (power : Nat) (sum : Binary64) : List Binary64 → Except Fault Binary64
  | [] => .ok sum
  | x :: rest =>
    match Binary64.ofInt power with
    | .infinite _ => .error .hugePower
    | factor => sixtiethsFrom (power * 60) (sum.add (x.mul factor)) rest

/-- The characters of a number with a point in plain form: small letters and no underscores. -/
def numberChars (s : List Char) : List Char :=
  (Lowercase.of (String.ofList (s.filter (· ≠ '_')))).toList

/-- Whether a scalar is the word for no number, all of which are one value. -/
def isNoNumber (s : List Char) : Bool :=
  (Integer.splitSign (numberChars s)).2 == ".nan".toList

/-- Reads a number with a point, or to the base sixty, or one of the words. -/
def float (s : List Char) : Except Fault Value := do
  let s := numberChars s
  if s.isEmpty then throw .emptyNumber
  let (negative, body) := Integer.splitSign s
  let read (digits : List Char) : Except Fault Binary64 :=
    match Binary64.parse? digits with
    | some x => .ok x
    | none =>
      .error (.badScalar ("could not convert string to float: " ++
        Quoted.quote (String.ofList digits)))
  let size ←
    if body = ".inf".toList then pure (.infinite false)
    else if body = ".nan".toList then pure .nan
    else if body.contains ':' then do
      let parts ← (Segments.splitOn ':' body).mapM read
      sixtiethsFrom 1 .zero parts.reverse
    else read body
  return .float (if negative then size.negate else size)

/-- Reads a point in time. -/
def moment (s : List Char) : Except Fault Value :=
  match Moment.ofChars? (dropFinalBreak s) with
  | none => .error .notMoment
  | some m =>
    match m.literal with
    | .ok text => .ok (.moment text m.instant?)
    | .error message => .error (.badScalar message)

/-- The value of a character of base sixty-four. -/
def sextet? (c : Char) : Option Nat :=
  if c.isUpper then some (c.toNat - 0x41)
  else if c.isLower then some (c.toNat - 0x61 + 26)
  else if c.isDigit then some (c.toNat - 0x30 + 52)
  else if c = '+' then some 62
  else if c = '/' then some 63
  else none

/-- Reads groups of four characters, given the sextets of the group so far and the padding seen;
characters outside the alphabet count for nothing. -/
def base64 (group : List Nat) (pads : Nat) : List Char → Option Octets
  | [] => if group.isEmpty then some [] else none
  | c :: rest =>
    if c = '=' then
      if 2 ≤ group.length ∧ 4 ≤ group.length + pads + 1 then
        let bits := group.foldl (fun acc n => acc * 64 + n) 0
        if group.length = 2 then some [(bits / 16).toUInt8]
        else some [(bits / 1024).toUInt8, (bits / 4).toUInt8]
      else base64 group (pads + 1) rest
    else
      match sextet? c with
      | none => base64 group pads rest
      | some n =>
        if group.length = 3 then
          let bits := (group ++ [n]).foldl (fun acc n => acc * 64 + n) 0
          (base64 [] 0 rest).map fun more =>
            (bits / 65536).toUInt8 :: (bits / 256).toUInt8 :: bits.toUInt8 :: more
        else base64 (group ++ [n]) 0 rest

/-- Reads octets written to the base sixty-four. -/
def binary (s : List Char) : Except Fault Value :=
  if s.any fun c => 0x80 ≤ c.toNat then .error .malformed
  else
    match base64 [] 0 s with
    | some octets => .ok (.octets octets)
    | none => .error .malformed

end Scalar

end Yaml

end ModelForge
