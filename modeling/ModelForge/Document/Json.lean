import ModelForge.Document.Value
import ModelForge.Number.Integer
import ModelForge.Text.Hex

/-!
# JSON

`Json.parse?` reads one JSON text into a document value, `Json.print` writes a value over several
lines, two blanks per level, and `Json.compact` writes it on one line. Objects keep all their
members as written, also those with a name that comes again (`Value.unify` leaves one of each). The
reader also takes `NaN` and the infinities, and refuses nesting deeper than a limit.
-/

namespace ModelForge

namespace Json

/-- Whether a character may stand between the tokens of a JSON text. -/
def isSpace (c : Char) : Bool := c == ' ' || c == '\t' || c == '\n' || c == '\r'

/-- The text after its leading blanks. -/
def skipSpace (s : List Char) : List Char := s.dropWhile isSpace

/-- The value of four hexadecimal digits. -/
def hex4 (a b c d : Char) : Option Nat := do
  let a ← Hex.digit? a
  let b ← Hex.digit? b
  let c ← Hex.digit? c
  let d ← Hex.digit? d
  return ((a * 16 + b) * 16 + c) * 16 + d

/-- The character of a letter escape. -/
def letterEscape : Char → Option Char
  | '"' => some '"'
  | '\\' => some '\\'
  | '/' => some '/'
  | 'b' => some (Char.ofNat 8)
  | 'f' => some (Char.ofNat 12)
  | 'n' => some '\n'
  | 'r' => some '\r'
  | 't' => some '\t'
  | _ => none

/-- Reads the code points of a string up to its closing quote. -/
def stringBody : List Char → Option (List Nat × List Char)
  | [] => none
  | '"' :: rest => some ([], rest)
  | '\\' :: 'u' :: a :: b :: c :: d :: rest => do
    let n ← hex4 a b c d
    let (codes, rest) ← stringBody rest
    return (n :: codes, rest)
  | '\\' :: e :: rest => do
    let c ← letterEscape e
    let (codes, rest) ← stringBody rest
    return (c.toNat :: codes, rest)
  | c :: rest =>
    if c.toNat < 0x20 ∨ c = '\\' then none
    else do
      let (codes, rest) ← stringBody rest
      return (c.toNat :: codes, rest)

/-- Joins the surrogate pairs among code points. -/
def joinPairs : List Nat → List Nat
  | hi :: lo :: rest =>
    if 0xD800 ≤ hi ∧ hi < 0xDC00 ∧ 0xDC00 ≤ lo ∧ lo < 0xE000 then
      (0x10000 + (hi - 0xD800) * 0x400 + (lo - 0xDC00)) :: joinPairs rest
    else hi :: joinPairs (lo :: rest)
  | codes => codes

/-- The value that code points make: a text unless a surrogate stands alone. -/
def textOf (codes : List Nat) : Value :=
  if codes.any fun n => 0xD800 ≤ n && n ≤ 0xDFFF then .brokenText codes
  else .text (String.ofList (codes.map Char.ofNat))

/-- Reads a string after its opening quote. -/
def string? (s : List Char) : Option (Value × List Char) :=
  (stringBody s).map fun (codes, rest) => (textOf (joinPairs codes), rest)

/-- The value of ASCII digits. -/
def natOf (digits : List Char) : Nat :=
  digits.foldl (fun acc c => acc * 10 + (c.toNat - 0x30)) 0

/-- Reads an exponent, if one stands here. -/
def exponent? (s : List Char) : Option (Option Int × List Char) :=
  match s with
  | [] => some (none, [])
  | e :: more =>
    if e = 'e' ∨ e = 'E' then
      let (negative, more) := Integer.splitSign more
      let digits := more.takeWhile Char.isDigit
      let size : Int := natOf digits
      if digits.isEmpty then none
      else some (some (if negative then -size else size), more.dropWhile Char.isDigit)
    else some (none, s)

/-- Reads the digits, fraction and exponent of a number; a sign counts as one of the digits in front
of the point, of which there may be only so many. -/
def number? (negative : Bool) (s : List Char) : Option (Value × List Char) := do
  let whole := s.takeWhile Char.isDigit
  let rest := s.dropWhile Char.isDigit
  if whole.isEmpty ∨ (1 < whole.length ∧ whole.head? = some '0') then none
  if Integer.digitLimit < whole.length + (if negative then 1 else 0) then none
  let (fraction, rest) ←
    match rest with
    | '.' :: more =>
      let digits := more.takeWhile Char.isDigit
      if digits.isEmpty then none else some (some digits, more.dropWhile Char.isDigit)
    | _ => some (none, rest)
  let (power, rest) ← exponent? rest
  match fraction, power with
  | none, none =>
    let n : Int := natOf whole
    return (.int (if negative then -n else n), rest)
  | _, _ =>
    let places := fraction.getD []
    let exponent := power.getD 0 - places.length
    return (.float (Binary64.ofDecimal negative (natOf (whole ++ places)) exponent), rest)

/-- What follows a fixed word, if the text starts with it. -/
def afterWord : List Char → List Char → Option (List Char)
  | [], rest => some rest
  | w :: ws, c :: rest => if w = c then afterWord ws rest else none
  | _ :: _, [] => none

/-- Reads a scalar other than a string. -/
def scalar? (s : List Char) : Option (Value × List Char) :=
  match s with
  | 'n' :: rest => (afterWord "ull".toList rest).map fun r => (.null, r)
  | 't' :: rest => (afterWord "rue".toList rest).map fun r => (.bool true, r)
  | 'f' :: rest => (afterWord "alse".toList rest).map fun r => (.bool false, r)
  | 'N' :: rest => (afterWord "aN".toList rest).map fun r => (.float .nan, r)
  | 'I' :: rest => (afterWord "nfinity".toList rest).map fun r => (.float (.infinite false), r)
  | '-' :: 'I' :: rest =>
    (afterWord "nfinity".toList rest).map fun r => (.float (.infinite true), r)
  | '-' :: rest => number? true rest
  | _ => number? false s

mutual

/-- Reads a value that starts here, with at most `depth` levels that hold something. -/
def value? (fuel depth : Nat) (s : List Char) : Option (Value × List Char) :=
  match fuel with
  | 0 => none
  | fuel + 1 =>
    match s with
    | '"' :: rest => string? rest
    | '[' :: rest =>
      match skipSpace rest with
      | ']' :: rest => some (.list [], rest)
      | rest =>
        if depth = 0 then none
        else do
          let (items, rest) ← items? fuel (depth - 1) rest
          return (.list items, rest)
    | c :: rest =>
      if c = '\x7b' then
        match skipSpace rest with
        | '\x7d' :: rest => some (.map [], rest)
        | rest =>
          if depth = 0 then none
          else do
            let (entries, rest) ← members? fuel (depth - 1) rest
            return (.map entries, rest)
      else scalar? s
    | [] => none

/-- Reads the items of an array up to its bracket. -/
def items? (fuel depth : Nat) (s : List Char) : Option (List Value × List Char) :=
  match fuel with
  | 0 => none
  | fuel + 1 => do
    let (item, rest) ← value? fuel depth s
    match skipSpace rest with
    | ',' :: rest =>
      let (items, rest) ← items? fuel depth (skipSpace rest)
      return (item :: items, rest)
    | ']' :: rest => return ([item], rest)
    | _ => none

/-- Reads the members of an object up to its brace. -/
def members? (fuel depth : Nat) (s : List Char) : Option (List (Value × Value) × List Char) :=
  match fuel with
  | 0 => none
  | fuel + 1 =>
    match s with
    | '"' :: rest => do
      let (key, rest) ← string? rest
      match skipSpace rest with
      | ':' :: rest =>
        let (value, rest) ← value? fuel depth (skipSpace rest)
        match skipSpace rest with
        | ',' :: rest =>
          let (entries, rest) ← members? fuel depth (skipSpace rest)
          return ((key, value) :: entries, rest)
        | '\x7d' :: rest => return ([(key, value)], rest)
        | _ => none
      | _ => none
    | _ => none

end

/-- The deepest nesting of arrays and objects that are not empty. -/
def depthLimit : Nat := 200

/-- Reads a whole JSON text. -/
def parseChars? (s : List Char) : Option Value := do
  let (v, rest) ← value? (s.length + 1) depthLimit (skipSpace s)
  if (skipSpace rest).isEmpty then some v else none

/-- Whether every text in a value is well formed. -/
def wellFormedFuel (fuel : Nat) : Value → Bool
  | .brokenText _ => false
  | .list items =>
    match fuel with
    | 0 => false
    | fuel + 1 => items.all (wellFormedFuel fuel)
  | .map entries =>
    match fuel with
    | 0 => false
    | fuel + 1 => entries.all fun (k, v) => wellFormedFuel fuel k && wellFormedFuel fuel v
  | _ => true

/-- Reads a JSON text from its octets; a text with an unpaired surrogate is refused. -/
def parse? (bs : Octets) : Option Value := do
  let s ← (Utf8.decodeChars bs).toOption
  let v ← parseChars? s
  if wellFormedFuel (depthLimit + 1) v then some v else none

/-- A character as it stands in a JSON string. -/
def escapeChar (c : Char) : List Char :=
  if c = '"' then ['\\', '"']
  else if c = '\\' then ['\\', '\\']
  else if c = '\n' then ['\\', 'n']
  else if c = '\r' then ['\\', 'r']
  else if c = '\t' then ['\\', 't']
  else if c.toNat = 8 then ['\\', 'b']
  else if c.toNat = 12 then ['\\', 'f']
  else if c.toNat < 0x20 then '\\' :: 'u' :: Quoted.hexDigits 4 c.toNat
  else [c]

/-- A text as a JSON string. -/
def quote (s : String) : String :=
  String.ofList ('"' :: s.toList.flatMap escapeChar ++ ['"'])

/-- A floating-point number in JSON. -/
def number : Binary64 → String
  | .nan => "NaN"
  | .infinite false => "Infinity"
  | .infinite true => "-Infinity"
  | x => x.text

/-- A line end followed by the indentation of a level. -/
def newline (level : Nat) : String := "\n" ++ String.ofList (List.replicate (2 * level) ' ')

mutual

/-- A value as JSON over several lines, its first line indented already. -/
def printAt (level : Nat) : Value → String
  | .null => "null"
  | .bool b => if b then "true" else "false"
  | .int i => toString i
  | .float x => number x
  | .text s => quote s
  | .list [] => "[]"
  | .list items =>
    "[" ++ String.intercalate "," (printItems (level + 1) items) ++ newline level ++ "]"
  | .map [] => "\x7b\x7d"
  | .map entries =>
    "\x7b" ++ String.intercalate "," (printMembers (level + 1) entries) ++ newline level ++ "\x7d"
  | v => quote v.literal

/-- Values as JSON, each on a line of its own. -/
def printItems (level : Nat) : List Value → List String
  | [] => []
  | v :: rest => (newline level ++ printAt level v) :: printItems level rest

/-- Members as JSON, each on a line of its own. -/
def printMembers (level : Nat) : List (Value × Value) → List String
  | [] => []
  | (k, v) :: rest =>
    (newline level ++ quote k.display ++ ": " ++ printAt level v) :: printMembers level rest

end

/-- A value as JSON over several lines. -/
def print (v : Value) : String := printAt 0 v

/-- A code point as it stands in a JSON string. -/
def escapeCode (n : Nat) : List Char :=
  if 0xD800 ≤ n ∧ n ≤ 0xDFFF then '\\' :: 'u' :: Quoted.hexDigits 4 n
  else escapeChar (Char.ofNat n)

mutual

/-- A value as JSON on one line. -/
def compact : Value → String
  | .null => "null"
  | .bool b => if b then "true" else "false"
  | .int i => toString i
  | .float x => number x
  | .text s => quote s
  | .brokenText codes => String.ofList ('"' :: codes.flatMap escapeCode ++ ['"'])
  | .list items => "[" ++ String.intercalate "," (compactItems items) ++ "]"
  | .map entries => "\x7b" ++ String.intercalate "," (compactMembers entries) ++ "\x7d"
  | v => quote v.literal

/-- Values as JSON, each on one line. -/
def compactItems : List Value → List String
  | [] => []
  | v :: rest => compact v :: compactItems rest

/-- Members as JSON, each on one line. -/
def compactMembers : List (Value × Value) → List String
  | [] => []
  | (k, v) :: rest => (quote k.display ++ ":" ++ compact v) :: compactMembers rest

end

end Json

end ModelForge
