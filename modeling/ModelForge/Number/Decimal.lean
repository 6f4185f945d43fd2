import ModelForge.Number.Binary64
import ModelForge.Number.Integer

/-!
# Decimal literals

A decimal literal is an optional sign, digits with an optional point among them and an optional
exponent, or a word for infinity or for no number. Single underscores may stand between digits and
blanks around the whole.
-/

namespace ModelForge

namespace Decimal

/-- Digits with single underscores between them and what follows; whether a digit stands in front of
the text is given. -/
def digitRun (started : Bool) : List Char → List Nat × List Char
  | [] => ([], [])
  | c :: rest =>
    if c = '_' ∧ started ∧ (rest.head?.bind digit?).isSome then digitRun false rest
    else
      match digit? c with
      | some d =>
        let (ds, rest) := digitRun true rest
        (d :: ds, rest)
      | none => ([], c :: rest)

/-- Digits with single underscores between them and what follows, if there are any. -/
def digits (s : List Char) : Option (List Nat × List Char) :=
  let (ds, rest) := digitRun false s
  if ds.isEmpty then none else some (ds, rest)

/-- The number that digits stand for. -/
def natOf (ds : List Nat) : Nat := ds.foldl (fun acc d => acc * 10 + d) 0

/-- An exponent that ends the text, zero if nothing is left. -/
def exponent? : List Char → Option Int
  | [] => some 0
  | c :: rest =>
    if c = 'e' ∨ c = 'E' then
      let (negative, rest) := Integer.splitSign rest
      match digits rest with
      | some (ds, []) => some (if negative then -(natOf ds : Int) else natOf ds)
      | _ => none
    else none

/-- A number without sign. -/
def unsigned? (negative : Bool) (s : List Char) : Option Binary64 :=
  let word := String.ofList (s.map Char.toLower)
  if word = "inf" ∨ word = "infinity" then some (.infinite negative)
  else if word = "nan" then some .nan
  else
    let (whole, rest) := (digits s).getD ([], s)
    let (places, rest) :=
      match rest with
      | '.' :: more => (digits more).getD ([], more)
      | _ => ([], rest)
    if whole.isEmpty ∧ places.isEmpty then none
    else
      (exponent? rest).map fun e =>
        Binary64.ofDecimal negative (natOf (whole ++ places)) (e - places.length)

end Decimal

/-- The number nearest to a decimal literal. -/
def Binary64.parse? (s : List Char) : Option Binary64 :=
  let (negative, body) := Integer.splitSign (trimBlanks s)
  Decimal.unsigned? negative body

end ModelForge
