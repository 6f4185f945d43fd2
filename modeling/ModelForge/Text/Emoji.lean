import ModelForge.Number.Digit
import ModelForge.Text.Emoji.Names
import ModelForge.Text.Hex
import ModelForge.Text.Lowercase
import ModelForge.Text.Segments

/-!
# Emoji by name

A name between two colons stands for an emoji. `Emoji.replace` puts the emoji in its place; a name
that is none stays as it is, its colons with it. Behind the name may stand whether the emoji is to
look like text or like a picture.
-/

namespace ModelForge

namespace Emoji

/-- The characters whose numbers are written in hexadecimal digits with hyphens between them. -/
def charsOf (numbers : List Char) : List Char :=
  (Segments.splitOn '-' numbers).map fun digits =>
    Char.ofNat (digits.foldl (fun acc c => acc * 16 + (Hex.digit? c).getD 0) 0)

/-- The characters of the emoji with a name, if a line of the table has it. -/
def inLine? (name : List Char) (line : String) : Option (List Char) :=
  (Segments.splitOn ' ' line.toList).findSome? fun entry =>
    if (name ++ ['=']).isPrefixOf entry then some (charsOf (entry.drop (name.length + 1))) else none

/-- The characters of the emoji with a name, in letters of any size. -/
def named? (name : List Char) : Option (List Char) :=
  lines.findSome? (inLine? (Lowercase.chars [] name))

/-- A name up to the next colon, what it asks the emoji to look like, and what follows the colon.
There is none if a blank comes first. -/
def code? : List Char → Option (List Char × List Char × List Char)
  | [] => none
  | ':' :: rest => some ([], [], rest)
  | c :: rest =>
    if "-emoji:".toList.isPrefixOf (c :: rest) then some ([], [Char.ofNat 0xFE0F], rest.drop 6)
    else if "-text:".toList.isPrefixOf (c :: rest) then some ([], [Char.ofNat 0xFE0E], rest.drop 5)
    else if isBlank c || (0x1C ≤ c.toNat && c.toNat ≤ 0x1F) then none
    else (code? rest).map fun (name, look, rest) => (c :: name, look, rest)

/-- Replaces the emoji named in a text; `fuel` bounds the length of the text. -/
def replaceFrom (fuel : Nat) (s : List Char) : List Char :=
  match fuel, s with
  | 0, _ | _, [] => s
  | fuel + 1, c :: rest =>
    match (if c = ':' then code? rest else none) with
    | some (name, look, behind) =>
      let written := (c :: rest).take (rest.length + 1 - behind.length)
      let shown := ((named? name).map (· ++ look)).getD written
      shown ++ replaceFrom fuel behind
    | none => c :: replaceFrom fuel rest

/-- Replaces the emoji named in a text. -/
def replace (s : List Char) : List Char := replaceFrom s.length s

end Emoji

end ModelForge
