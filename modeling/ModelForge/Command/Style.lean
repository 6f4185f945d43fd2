import ModelForge.Number.Integer
import ModelForge.Text.Hex
import ModelForge.Text.Lowercase
import ModelForge.Text.Segments

/-!
# Styles of console text

A style is written in words: attributes, which `not` may stand in front of, a colour, `on` with the
colour of the background, and `link` with an address. `Style.normal` writes the same style always
in the same way; a text that is no style is its own normal form in small letters.
-/

namespace ModelForge

/-- A style. -/
structure Style where
  /-- The attributes that are set, and whether they are on. -/
  attributes : List (String × Bool)
  colour : Option String
  background : Option String
  link : Option String
  deriving DecidableEq, Repr

namespace Style

/-- The style that sets nothing. -/
def plain : Style := ⟨[], none, none, none⟩

/-- The attributes in the order they are written in. -/
def attributeNames : List String :=
  ["bold", "dim", "italic", "underline", "blink", "blink2", "reverse", "conceal", "strike",
   "underline2", "frame", "encircle", "overline"]

/-- The short names of attributes. -/
def shortNames : List (String × String) :=
  [("d", "dim"), ("b", "bold"), ("i", "italic"), ("u", "underline"), ("r", "reverse"),
   ("c", "conceal"), ("s", "strike"), ("uu", "underline2"), ("o", "overline")]

/-- The attribute that a word names. -/
def attribute? (word : String) : Option String :=
  match shortNames.lookup word with
  | some name => some name
  | none => if attributeNames.contains word then some word else none

/-- The shades of grey. -/
def greys : List Nat :=
  [0, 3, 7, 11, 15, 19, 23, 27, 30, 35, 37, 39, 42, 46, 50, 53, 54, 58, 62, 63, 66, 69, 70, 74, 78,
   82, 84, 85, 89, 93, 100]

/-- The colours that come in numbered shades: the name and the numbers. -/
def shades : List (String × List Nat) :=
  [("aquamarine", [1, 3]), ("blue", [1, 3]), ("chartreuse", [1, 2, 3, 4]), ("cornsilk", [1]),
   ("cyan", [1, 2, 3]), ("dark_olive_green", [1, 2, 3]), ("dark_orange", [3]),
   ("dark_sea_green", [1, 2, 3, 4]), ("dark_slate_gray", [1, 2, 3]), ("deep_pink", [1, 2, 3, 4]),
   ("deep_sky_blue", [1, 2, 3, 4]), ("dodger_blue", [1, 2, 3]), ("gold", [1, 3]),
   ("gray", greys), ("green", [1, 3, 4]), ("grey", greys), ("honeydew", [2]),
   ("hot_pink", [2, 3]), ("indian_red", [1]), ("khaki", [1, 3]),
   ("light_cyan", [1, 3]), ("light_goldenrod", [1, 2, 3]), ("light_pink", [1, 3, 4]),
   ("light_salmon", [1, 3]), ("light_sky_blue", [1, 3]), ("light_steel_blue", [1, 3]),
   ("light_yellow", [3]), ("magenta", [1, 2, 3]), ("medium_orchid", [1, 3]),
   ("medium_purple", [1, 2, 3, 4]), ("misty_rose", [1, 3]), ("navajo_white", [1, 3]),
   ("orange", [1, 3, 4]), ("orange_red", [1]), ("orchid", [1, 2]), ("pale_green", [1, 3]),
   ("pale_turquoise", [1, 4]), ("pale_violet_red", [1]), ("pink", [1, 3]), ("plum", [1, 2, 3, 4]),
   ("purple", [3, 4]), ("red", [1, 3]), ("royal_blue", [1]), ("salmon", [1]),
   ("sea_green", [1, 2, 3]), ("sky_blue", [1, 2, 3]), ("slate_blue", [1, 3]),
   ("spring_green", [1, 2, 3, 4]), ("steel_blue", [1, 3]), ("thistle", [1, 3]),
   ("turquoise", [2, 4]), ("wheat", [1, 4]), ("yellow", [1, 2, 3, 4])]

/-- The colours without shades. -/
def unshaded : List String :=
  ["black", "blue", "blue_violet", "bright_black", "bright_blue", "bright_cyan", "bright_green",
   "bright_magenta", "bright_red", "bright_white", "bright_yellow", "cadet_blue",
   "cornflower_blue", "cyan", "dark_blue", "dark_cyan", "dark_goldenrod", "dark_green",
   "dark_khaki", "dark_magenta", "dark_orange", "dark_red", "dark_sea_green", "dark_turquoise",
   "dark_violet", "default", "green", "green_yellow", "hot_pink", "indian_red", "light_coral",
   "light_green", "light_sea_green", "light_slate_blue", "light_slate_gray", "light_slate_grey",
   "light_steel_blue", "magenta", "medium_orchid", "medium_purple", "medium_spring_green",
   "medium_turquoise", "medium_violet_red", "navy_blue", "orchid", "purple", "red", "rosy_brown",
   "sandy_brown", "steel_blue", "tan", "violet", "white", "yellow"]

/-- Whether a word in small letters is the name of a colour. -/
def isColourName (word : String) : Bool :=
  unshaded.contains word || shades.any fun (name, numbers) =>
    numbers.any fun n => name ++ toString n == word

/-- What stands between a beginning and a closing bracket at the end of a word. -/
def inBrackets? (beginning word : String) : Option (List Char) :=
  let start := (beginning ++ "(").toList
  if start.isPrefixOf word.toList ∧ word.toList.getLast? = some ')' then
    some ((word.toList.drop start.length).dropLast)
  else none

/-- Whether a word in small letters is a colour: a name, six hexadecimal digits behind a hash, a
number of the palette, or three parts. -/
def isColour (word : String) : Bool :=
  let isPart (digits : List Char) : Bool :=
    !digits.isEmpty && digits.all Char.isDigit &&
      ((Integer.digitsIn 10 digits).map fun n => decide (n ≤ 255)) == some true
  isColourName word ||
    (match word.toList with
      | '#' :: digits => digits.length == 6 && digits.all fun c => (Hex.digit? c).isSome
      | _ => false) ||
    ((inBrackets? "color" word).map fun digits => decide (digits.length ≤ 3) && isPart digits)
      == some true ||
    ((inBrackets? "rgb" word).map fun parts =>
      (Segments.splitOn ',' parts).length == 3 && (Segments.splitOn ',' parts).all isPart)
      == some true

/-- Sets an attribute. -/
def set (name : String) (on : Bool) (s : Style) : Style :=
  { s with attributes := (name, on) :: s.attributes.filter (·.1 ≠ name) }

/-- The style that words add to another. -/
def ofWords? (s : Style) : List String → Option Style
  | [] => some s
  | word :: rest =>
    let small := Lowercase.of word
    match small, rest with
    | "on", colour :: rest =>
      let colour := Lowercase.of colour
      if isColour colour then ofWords? { s with background := some colour } rest else none
    | "not", name :: rest => do ofWords? (s.set (← attribute? name) false) rest
    | "link", address :: rest => ofWords? { s with link := some address } rest
    | small, rest =>
      match attribute? small with
      | some name => ofWords? (s.set name true) rest
      | none => if isColour small then ofWords? { s with colour := some small } rest else none

/-- The words of a style. -/
def words (s : Style) : List String :=
  (attributeNames.filterMap fun name =>
    (s.attributes.lookup name).map fun on => if on then name else "not " ++ name) ++
    s.colour.toList ++ (s.background.map fun colour => "on " ++ colour).toList ++
    (s.link.map fun address => "link " ++ address).toList

/-- Whether a character separates words. -/
def isGap (c : Char) : Bool := isBlank c || (0x1C ≤ c.toNat && c.toNat ≤ 0x1F)

/-- A text without the gaps at its two ends. -/
def trim (s : List Char) : List Char :=
  ((s.dropWhile isGap).reverse.dropWhile isGap).reverse

/-- The words of a text. -/
def split (s : List Char) : List String :=
  ((s.splitBy fun a b => isGap a == isGap b).filter fun word =>
    (word.head?.map isGap) == some false).map String.ofList

/-- The normal form of a text that may be a style. -/
def normal (text : List Char) : String :=
  let parts := split text
  let style := if parts = ["none"] then some plain else plain.ofWords? parts
  match style with
  | some s => if s.words.isEmpty then "none" else String.intercalate " " s.words
  | none => Lowercase.of (String.ofList (trim text))

end Style

end ModelForge
