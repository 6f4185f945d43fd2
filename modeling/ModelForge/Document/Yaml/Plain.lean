import ModelForge.Document.Yaml.Moment
import ModelForge.Number.Integer
import ModelForge.Text.Hex
import ModelForge.Text.Segments

/-!
# Scalars that look like something

A plain scalar is a boolean, a number, a null, a point in time or one of two marks if it looks like
one, and a text otherwise (`Tag.ofLook`).
-/

namespace ModelForge

namespace Yaml

/-- The characters of code points, if none is a surrogate. -/
def charsOf? (codes : List Nat) : Option (List Char) :=
  if codes.any fun n => 0xD800 ≤ n && n ≤ 0xDFFF then none else some (codes.map Char.ofNat)

/-- A text without one line end at its end. -/
def dropFinalBreak (s : List Char) : List Char :=
  if s.getLast? = some '\n' then s.dropLast else s

namespace Look

/-- An ASCII digit or an underscore. -/
def isDigitOrBar (c : Char) : Bool := c.isDigit || c == '_'

/-- Whether a text is a digit followed by digits and underscores. -/
def isCount : List Char → Bool
  | [] => false
  | c :: rest => c.isDigit && rest.all isDigitOrBar

/-- Whether a text is at least one character of a class. -/
def someOf (p : Char → Bool) (s : List Char) : Bool := !s.isEmpty && s.all p

/-- Whether a text is a number below sixty, of one or two digits. -/
def isSixtieth : List Char → Bool
  | [c] => c.isDigit
  | [c, d] => '0' ≤ c && c ≤ '5' && d.isDigit
  | _ => false

/-- Whether a text is a count and sixtieths behind colons. -/
def isClock (s : List Char) : Bool :=
  match Segments.splitOn ':' s with
  | first :: second :: rest => isCount first && (second :: rest).all isSixtieth
  | _ => false

/-- Whether a text without sign looks like an integer. -/
def isUnsignedInteger (s : List Char) : Bool :=
  match s with
  | ['0'] => true
  | '0' :: 'b' :: rest => someOf (fun c => c == '0' || c == '1' || c == '_') rest
  | '0' :: 'x' :: rest =>
    someOf (fun c => c == '_' || (Hex.digit? c).isSome) rest
  | '0' :: rest => someOf (fun c => ('0' ≤ c && c ≤ '7') || c == '_') rest
  | _ => isCount s || isClock s

/-- Whether a text looks like an integer. -/
def isInteger (s : List Char) : Bool := isUnsignedInteger (Integer.splitSign s).2

/-- Whether a text is nothing or an exponent with a sign. -/
def isExponent : List Char → Bool
  | [] => true
  | e :: sign :: digits =>
    (e == 'e' || e == 'E') && (sign == '-' || sign == '+') && someOf Char.isDigit digits
  | _ => false

/-- Whether a text is places behind a point and possibly an exponent. -/
def isPlaces (s : List Char) : Bool := isExponent (s.dropWhile isDigitOrBar)

/-- Whether a text looks like a number with a point. -/
def isFraction (s : List Char) : Bool :=
  let body := (Integer.splitSign s).2
  let whole := body.takeWhile (· ≠ '.')
  let places := (body.dropWhile (· ≠ '.')).drop 1
  if !body.contains '.' then false
  else if whole.isEmpty then
    ["inf", "Inf", "INF"].contains (String.ofList places) ||
      (body == s && (["nan", "NaN", "NAN"].contains (String.ofList places) ||
        ((places.head?.map Char.isDigit) == some true && isPlaces places)))
  else (isCount whole && isPlaces places) || (isClock whole && places.all isDigitOrBar)

/-- Whether a text is one of the words for a boolean. -/
def isBoolean (s : String) : Bool :=
  ["yes", "no", "true", "false", "on", "off"].any fun w =>
    s == w || s == w.toUpper || s == w.capitalize

end Look

namespace Tag

/-- A tag of the standard set. -/
def standard (name : String) : String := "tag:yaml.org,2002:" ++ name

/-- The tag that a plain scalar has by its look. -/
def ofLook (codes : List Nat) : String :=
  match charsOf? codes with
  | none => standard "str"
  | some s =>
    let s := dropFinalBreak s
    let word := String.ofList s
    if Look.isBoolean word then standard "bool"
    else if Look.isFraction s then standard "float"
    else if Look.isInteger s then standard "int"
    else if word == "<<" then standard "merge"
    else if codes.isEmpty ∨ ["~", "null", "Null", "NULL"].contains word then standard "null"
    else if (Moment.ofChars? s).any Moment.isPlain then standard "timestamp"
    else if word == "=" then standard "value"
    else standard "str"

end Tag

end Yaml

end ModelForge
