import ModelForge.Text.Printable
import ModelForge.Text.Utf8

/-!
# Quoted literals

`quote` writes a text as a literal of generated code: between single quotes, or between double
quotes when the text holds a single quote and no double one; backslash, the quote in use, tab and
line ends are escaped by a letter, and characters that do not print are escaped by number.
`tuple` writes a list of texts between parentheses, a single one with a comma after it.
-/

namespace ModelForge

namespace Quoted

/-- The quote a text is written between. -/
def delimiter (s : List Char) : Char :=
  if s.contains '\'' && !s.contains '"' then '"' else '\''

/-- The lowest `width` hexadecimal digits of a number. -/
def hexDigits (width n : Nat) : List Char :=
  match width with
  | 0 => []
  | width + 1 => hexDigits width (n / 16) ++ [Utf8.hexDigit (n % 16)]

/-- A character as it stands between the quotes `q`. -/
def escapeChar (q c : Char) : List Char :=
  if c = q ∨ c = '\\' then ['\\', c]
  else if c = '\t' then ['\\', 't']
  else if c = '\n' then ['\\', 'n']
  else if c = '\r' then ['\\', 'r']
  else if isPrintable c then [c]
  else if c.toNat < 0x100 then '\\' :: 'x' :: hexDigits 2 c.toNat
  else if c.toNat < 0x10000 then '\\' :: 'u' :: hexDigits 4 c.toNat
  else '\\' :: 'U' :: hexDigits 8 c.toNat

/-- A text as a quoted literal, character by character. -/
def quoteChars (s : List Char) : List Char :=
  let q := delimiter s
  q :: s.flatMap (escapeChar q) ++ [q]

/-- A text as a quoted literal. -/
def quote (s : String) : String := String.ofList (quoteChars s.toList)

/-- An octet as it stands in an octet literal between the quotes `q`. -/
def escapeOctet (q : Char) (b : UInt8) : List Char :=
  let c := Char.ofNat b.toNat
  if c = q ∨ c = '\\' then ['\\', c]
  else if c = '\t' then ['\\', 't']
  else if c = '\n' then ['\\', 'n']
  else if c = '\r' then ['\\', 'r']
  else if 0x20 ≤ b ∧ b < 0x7F then [c]
  else '\\' :: 'x' :: hexDigits 2 b.toNat

/-- Octets as a quoted literal. -/
def quoteOctets (bs : Octets) : String :=
  let q := delimiter (bs.map fun b => Char.ofNat b.toNat)
  String.ofList ('b' :: q :: bs.flatMap (escapeOctet q) ++ [q])

/-- Texts between brackets, separated by commas. -/
def list (items : List String) : String :=
  "[" ++ String.intercalate ", " (items.map quote) ++ "]"

/-- Texts between parentheses, separated by commas; a single one keeps its comma. -/
def tuple : List String → String
  | [] => "()"
  | [item] => "(" ++ quote item ++ ",)"
  | items => "(" ++ String.intercalate ", " (items.map quote) ++ ")"

end Quoted

end ModelForge
