import ModelForge.Text.Utf8

/-!
# Reading positions in a YAML text

The character classes of YAML 1.1 and a cursor that knows its line and column. A line ends at a
line feed, a next-line character or one of the two Unicode separators; the first two are read as a
line feed.
-/

namespace ModelForge

namespace Yaml

/-- Whether a character may stand in a document at all. -/
def isAllowed (c : Char) : Bool :=
  let n := c.toNat
  n == 0x09 || n == 0x0A || n == 0x0D || (0x20 ≤ n && n ≤ 0x7E) || n == 0x85 ||
    (0xA0 ≤ n && n ≤ 0xD7FF) || (0xE000 ≤ n && n ≤ 0xFFFD) || (0x10000 ≤ n && n ≤ 0x10FFFF)

/-- The text with every line end written as a line feed. -/
def unifyLineEnds : List Char → List Char
  | [] => []
  | '\r' :: '\n' :: rest => '\n' :: unifyLineEnds rest
  | c :: rest => (if c = '\r' then '\n' else c) :: unifyLineEnds rest

/-- Whether a character ends a line. -/
def isBreak (c : Char) : Bool :=
  c == '\n' || c == '\r' || c.toNat == 0x85 || c.toNat == 0x2028 || c.toNat == 0x2029

/-- Whether a text stands at the end of a line or of the document. -/
def atLineEnd : List Char → Bool
  | [] => true
  | c :: _ => isBreak c

/-- Whether a text stands at the end of a line or at a blank. -/
def atSpace : List Char → Bool
  | [] => true
  | c :: _ => isBreak c || c == ' '

/-- Whether a text stands at the end of a line, a blank or a tab. -/
def atGap : List Char → Bool
  | [] => true
  | c :: _ => isBreak c || c == ' ' || c == '\t'

/-- A character of a name: a letter, a digit, a hyphen or an underscore. -/
def isWord (c : Char) : Bool := c.isAlphanum || c == '-' || c == '_'

/-- A position in a text, with what follows it. -/
structure Cursor where
  rest : List Char
  index : Nat
  line : Nat
  column : Nat

namespace Cursor

/-- The start of a text. -/
def start (s : List Char) : Cursor := ⟨s, 0, 0, 0⟩

/-- The character at the cursor. -/
def head? (c : Cursor) : Option Char := c.rest.head?

/-- Whether the cursor stands at a character. -/
def isAt (c : Cursor) (ch : Char) : Bool := c.rest.head? == some ch

/-- One character further. -/
def next (c : Cursor) : Cursor :=
  match c.rest with
  | [] => c
  | ch :: rest =>
    if isBreak ch then ⟨rest, c.index + 1, c.line + 1, 0⟩
    else if ch.toNat = 0xFEFF then ⟨rest, c.index + 1, c.line, c.column⟩
    else ⟨rest, c.index + 1, c.line, c.column + 1⟩

/-- Some characters further. -/
def skip : Nat → Cursor → Cursor
  | 0, c => c
  | n + 1, c => skip n c.next

/-- The characters from the cursor on that satisfy a test, and the cursor behind them. -/
def span (p : Char → Bool) (c : Cursor) : List Char × Cursor :=
  let word := c.rest.takeWhile p
  (word, c.skip word.length)

/-- The cursor behind the blanks at it. -/
def skipSpaces (c : Cursor) : Cursor := (c.span (· == ' ')).2

/-- The cursor at the end of its line. -/
def skipLine (c : Cursor) : Cursor := (c.span fun ch => !isBreak ch).2

/-- The line end at the cursor as it is read, if there is one, and the cursor behind it. -/
def lineBreak (c : Cursor) : Option Char × Cursor :=
  match c.rest with
  | [] => (none, c)
  | ch :: _ =>
    if !isBreak ch then (none, c)
    else if ch.toNat = 0x2028 ∨ ch.toNat = 0x2029 then (some ch, c.next)
    else (some '\n', c.next)

/-- Whether three times `ch` and then a gap stand at the cursor. -/
def atMarker (ch : Char) (c : Cursor) : Bool :=
  match c.rest with
  | x :: y :: z :: rest => x == ch && y == ch && z == ch && atGap rest
  | _ => false

/-- Whether a document marker stands at the cursor. -/
def atDocumentMarker (c : Cursor) : Bool := c.atMarker '-' || c.atMarker '.'

end Cursor

end Yaml

end ModelForge
