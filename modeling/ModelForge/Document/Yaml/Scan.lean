import ModelForge.Document.Yaml.Token
import ModelForge.Number.Integer
import ModelForge.Text.Hex

/-!
# Scalars, names and directives of a YAML text

Readers of the tokens that carry text: anchors and aliases, tags, directives, block scalars, quoted
scalars and plain scalars. Every reader takes the cursor at the token and gives it back behind.
-/

namespace ModelForge

namespace Yaml

/-- The fault of a text that breaks the rules. -/
def fail {α : Type} : Except Fault α := .error .malformed

/-- The name behind `&` or `*`. -/
def anchorName (c : Cursor) : Except Fault (String × Cursor) := do
  let (word, c) := c.next.span isWord
  if word.isEmpty then fail
  else if atGap c.rest || (c.rest.head?.map fun ch => "?:,]\x7d%@`".toList.contains ch) == some true
  then return (String.ofList word, c)
  else fail

/-- A character of a tag other than an escape. -/
def isTagChar (c : Char) : Bool :=
  c.isAlphanum || "-;/?:@&=+$,_.!~*'()[]".toList.contains c

/-- The octets of the escapes at the cursor. -/
def tagEscapes : List Char → Except Fault (Octets × Nat)
  | '%' :: a :: b :: rest => do
    match Hex.digit? a, Hex.digit? b with
    | some x, some y =>
      let (octets, count) ← tagEscapes rest
      return ((x * 16 + y).toUInt8 :: octets, count + 3)
    | _, _ => fail
  | '%' :: _ => fail
  | _ => .ok ([], 0)

/-- The text of a tag: its characters with escapes read. -/
def tagText (fuel : Nat) (c : Cursor) : Except Fault (List Char × Cursor) :=
  match fuel with
  | 0 => .ok ([], c)
  | fuel + 1 => do
    let (word, c) := c.span isTagChar
    if c.isAt '%' then
      let (octets, count) ← tagEscapes c.rest
      match Utf8.decodeChars octets with
      | .error _ => fail
      | .ok chars =>
        let (more, c) ← tagText fuel (c.skip count)
        return (word ++ chars ++ more, c)
    else return (word, c)

/-- The text of a tag, which must not be empty. -/
def tagSuffix (c : Cursor) : Except Fault (String × Cursor) := do
  let (text, behind) ← tagText (c.rest.length + 1) c
  if c.index = behind.index then fail else return (String.ofList text, behind)

/-- The handle of a tag: `!`, or a word between two exclamation marks. -/
def tagHandle (c : Cursor) : Except Fault (String × Cursor) := do
  if !c.isAt '!' then fail
  else
    let c := c.next
    if c.isAt ' ' then return ("!", c)
    else
      let (word, behind) := c.span isWord
      if behind.isAt '!' then return (String.ofList ('!' :: word ++ ['!']), behind.next)
      else fail

/-- Whether another exclamation mark stands before the next blank. -/
def hasHandle : List Char → Bool
  | [] => false
  | c :: rest => if isBreak c || c == ' ' then false else c == '!' || hasHandle rest

/-- A tag. -/
def tag (c : Cursor) : Except Fault (TagName × Cursor) := do
  let inside := c.next
  let (name, behind) ←
    if inside.isAt '<' then do
      let (suffix, behind) ← tagSuffix inside.next
      if behind.isAt '>' then
        pure (⟨none, suffix⟩, behind.next)
      else fail
    else if atGap inside.rest then pure (⟨none, "!"⟩, inside)
    else do
      let (handle, behind) ←
        if hasHandle inside.rest then tagHandle c else pure ("!", inside)
      let (suffix, behind) ← tagSuffix behind
      pure (⟨some handle, suffix⟩, behind)
  if atSpace behind.rest then return (name, behind) else fail

/-- The blanks and the comment up to the end of a line, and the line end. -/
def restOfLine (c : Cursor) : Except Fault Cursor :=
  let c := c.skipSpaces
  let c := if c.isAt '#' then c.skipLine else c
  if atLineEnd c.rest then .ok c.lineBreak.2 else fail

/-- A number of a version. -/
def versionNumber (c : Cursor) : Except Fault (Nat × Cursor) :=
  let (digits, behind) := c.span Char.isDigit
  match Integer.digitsIn 10 digits with
  | some n => .ok (n, behind)
  | none => fail

/-- A directive. -/
def directive (c : Cursor) : Except Fault (Token × Cursor) := do
  let (name, c) := c.next.span isWord
  if name.isEmpty ∨ !atSpace c.rest then fail
  else if name = "YAML".toList then
    let (major, c) ← versionNumber c.skipSpaces
    if c.isAt '.' then
      let (_, c) ← versionNumber c.next
      if atSpace c.rest then return (.version major, ← restOfLine c) else fail
    else fail
  else if name = "TAG".toList then
    let (handle, c) ← tagHandle c.skipSpaces
    if c.isAt ' ' then
      let (start, c) ← tagSuffix c.skipSpaces
      if atSpace c.rest then return (.tagHandle handle start, ← restOfLine c) else fail
    else fail
  else return (.otherDirective, ← restOfLine c.skipLine)

/-- Code points of characters. -/
def codesOf (s : List Char) : List Nat := s.map Char.toNat

/-- How the line ends behind a block scalar are kept. -/
inductive Chomping where
  | strip
  | clip
  | keep
  deriving DecidableEq

/-- The chomping that a sign stands for. -/
def chomping? : Option Char → Option Chomping
  | some '+' => some .keep
  | some '-' => some .strip
  | _ => none

/-- The digit of an indentation indicator; zero is none. -/
def increment? (c : Cursor) : Except Fault (Option Nat × Cursor) :=
  match c.head? with
  | some ch =>
    if ch.isDigit then
      if ch = '0' then fail else .ok (some (ch.toNat - 0x30), c.next)
    else .ok (none, c)
  | none => .ok (none, c)

/-- The indicators of a block scalar, in either order. -/
def blockIndicators (c : Cursor) : Except Fault ((Chomping × Option Nat) × Cursor) := do
  let (chomping, increment, c) ←
    match chomping? c.head? with
    | some chomping => do
      let (increment, c) ← increment? c.next
      (pure (chomping, increment, c) : Except Fault (Chomping × Option Nat × Cursor))
    | none => do
      let (increment, c) ← increment? c
      match increment, chomping? c.head? with
      | some _, some chomping => pure (chomping, increment, c.next)
      | _, _ => pure (.clip, increment, c)
  if atSpace c.rest then return ((chomping, increment), c) else fail

/-- The cursor behind the blanks that belong to an indentation. -/
def skipIndent (indent : Nat) (c : Cursor) : Cursor :=
  let blanks := (c.rest.takeWhile (· == ' ')).length
  c.skip (min blanks (indent - c.column))

/-- The empty lines at the cursor and the indentation of the line behind them. -/
def emptyLines (fuel indent : Nat) (c : Cursor) : List Char × Cursor :=
  match fuel with
  | 0 => ([], c)
  | fuel + 1 =>
    let c := skipIndent indent c
    match c.lineBreak with
    | (some b, behind) =>
      let (more, behind) := emptyLines fuel indent behind
      (b :: more, behind)
    | (none, _) => ([], c)

/-- The empty lines at the cursor and the widest indentation among them. -/
def openingLines (fuel widest : Nat) (c : Cursor) : List Char × Nat × Cursor :=
  match fuel with
  | 0 => ([], widest, c)
  | fuel + 1 =>
    let c := c.skipSpaces
    let widest := max widest c.column
    match c.lineBreak with
    | (some b, behind) =>
      let (more, widest, behind) := openingLines fuel widest behind
      (b :: more, widest, behind)
    | (none, _) => ([], widest, c)

/-- Whether a text starts with a blank or a tab. -/
def startsBlank (s : List Char) : Bool := s.head? == some ' ' || s.head? == some '\t'

/-- The lines of a block scalar: their characters, the line end of the last one and the empty lines
behind it. -/
def blockLines (fuel : Nat) (folded : Bool) (indent : Nat) (before : List Char) (c : Cursor) :
    List Char × Option Char × List Char × Cursor :=
  match fuel with
  | 0 => ([], none, before, c)
  | fuel + 1 =>
    if c.column = indent ∧ !c.rest.isEmpty then
      let textual := !startsBlank c.rest
      let (line, c) := c.span fun ch => !isBreak ch
      let (lineEnd, c) := c.lineBreak
      let (empty, c) := emptyLines (c.rest.length + 1) indent c
      if c.column = indent ∧ !c.rest.isEmpty then
        let joint :=
          if folded && lineEnd == some '\n' && textual && !startsBlank c.rest then
            if empty.isEmpty then [' '] else []
          else lineEnd.toList
        let (more, lastEnd, trailing, c) := blockLines fuel folded indent empty c
        (before ++ line ++ joint ++ more, lastEnd, trailing, c)
      else (before ++ line, lineEnd, empty, c)
    else ([], none, before, c)

/-- A block scalar under a parent indented by `parent - 1` columns. -/
def blockScalar (folded : Bool) (parent : Nat) (c : Cursor) : Except Fault (Scalar × Cursor) := do
  let ((chomping, increment), c) ← blockIndicators c.next
  let c ← restOfLine c
  let least := max 1 parent
  let (before, indent, c) :=
    match increment with
    | none =>
      let (before, widest, c) := openingLines (c.rest.length + 1) 0 c
      (before, max least widest, c)
    | some n =>
      let indent := least + n - 1
      let (before, c) := emptyLines (c.rest.length + 1) indent c
      (before, indent, c)
  let (text, lastEnd, trailing, c) := blockLines (c.rest.length + 1) folded indent before c
  let text :=
    match chomping with
    | .strip => text
    | .clip => text ++ lastEnd.toList
    | .keep => text ++ lastEnd.toList ++ trailing
  return (⟨false, codesOf text⟩, c)

/-- The character that a letter escape stands for. -/
def letterEscape : Char → Option Nat
  | '0' => some 0
  | 'a' => some 7
  | 'b' => some 8
  | 't' | '\t' => some 9
  | 'n' => some 10
  | 'v' => some 11
  | 'f' => some 12
  | 'r' => some 13
  | 'e' => some 27
  | ' ' => some 32
  | '"' => some 34
  | '\\' => some 92
  | '/' => some 47
  | 'N' => some 0x85
  | '_' => some 0xA0
  | 'L' => some 0x2028
  | 'P' => some 0x2029
  | _ => none

/-- The number of hexadecimal digits that an escape takes. -/
def digitEscape : Char → Option Nat
  | 'x' => some 2
  | 'u' => some 4
  | 'U' => some 8
  | _ => none

/-- The value of hexadecimal digits, all of which must be there. -/
def hexValue : Nat → Nat → List Char → Option Nat
  | 0, acc, _ => some acc
  | _ + 1, _, [] => none
  | n + 1, acc, c :: rest =>
    match Hex.digit? c with
    | some d => hexValue n (acc * 16 + d) rest
    | none => none

/-- The line ends between two lines of a quoted scalar. -/
def quotedBreaks (fuel : Nat) (c : Cursor) : Except Fault (List Char × Cursor) :=
  match fuel with
  | 0 => .ok ([], c)
  | fuel + 1 => do
    if c.atDocumentMarker then fail
    else
      let c := (c.span fun ch => ch == ' ' || ch == '\t').2
      match c.lineBreak with
      | (some b, behind) =>
        let (more, behind) ← quotedBreaks fuel behind
        return (b :: more, behind)
      | (none, _) => return ([], c)

/-- The body of a quoted scalar up to its closing quote. -/
def quotedBody (fuel : Nat) (double : Bool) (c : Cursor) : Except Fault (List Nat × Cursor) :=
  match fuel with
  | 0 => fail
  | fuel + 1 =>
    let continueWith (codes : List Nat) (c : Cursor) : Except Fault (List Nat × Cursor) := do
      let (more, c) ← quotedBody fuel double c
      return (codes ++ more, c)
    match c.rest with
    | [] => fail
    | ch :: after =>
      if ch = '\'' then
        if double then continueWith [ch.toNat] c.next
        else if after.head? = some '\'' then continueWith [ch.toNat] (c.skip 2)
        else .ok ([], c.next)
      else if ch = '"' then
        if double then .ok ([], c.next) else continueWith [ch.toNat] c.next
      else if ch = '\\' then
        if !double then continueWith [ch.toNat] c.next
        else
          match after with
          | [] => fail
          | e :: digits =>
            match letterEscape e, digitEscape e with
            | some code, _ => continueWith [code] (c.skip 2)
            | none, some width =>
              match hexValue width 0 digits with
              | none => fail
              | some code =>
                if 0x10FFFF < code then .error (.noSuchCharacter code)
                else continueWith [code] (c.skip (2 + width))
            | none, none =>
              if isBreak e then do
                let (breaks, c) ← quotedBreaks (c.rest.length + 1) c.next.lineBreak.2
                continueWith (codesOf breaks) c
              else fail
      else if ch = ' ' ∨ ch = '\t' ∨ isBreak ch then do
        let (blanks, c) := c.span fun ch => ch == ' ' || ch == '\t'
        match c.lineBreak with
        | (some lineEnd, behind) => do
          let (breaks, c) ← quotedBreaks (c.rest.length + 1) behind
          let joint :=
            if lineEnd ≠ '\n' then [lineEnd] else if breaks.isEmpty then [' '] else []
          continueWith (codesOf (joint ++ breaks)) c
        | (none, _) => if c.rest.isEmpty then fail else continueWith (codesOf blanks) c
      else continueWith [ch.toNat] c.next

/-- A quoted scalar. -/
def quotedScalar (double : Bool) (c : Cursor) : Except Fault (Scalar × Cursor) := do
  let (codes, c) ← quotedBody (c.rest.length + 1) double c.next
  return (⟨false, codes⟩, c)

/-- Whether a plain scalar ends before this text. -/
def plainEnds (inFlow : Bool) (s : List Char) : Bool :=
  match s with
  | [] => true
  | c :: rest =>
    atGap s ||
      (c == ':' && (atGap rest ||
        (inFlow && (rest.head?.map fun d => ",[]\x7b\x7d".toList.contains d) == some true))) ||
      (inFlow && ",?[]\x7b\x7d".toList.contains c)

/-- The characters of a plain scalar up to the next gap. -/
def plainWord (inFlow : Bool) : List Char → List Char
  | [] => []
  | c :: rest => if plainEnds inFlow (c :: rest) then [] else c :: plainWord inFlow rest

/-- The line ends between two lines of a plain scalar, none if a document marker follows one. -/
def plainBreaks (fuel : Nat) (c : Cursor) : Option (List Char) × Cursor :=
  match fuel with
  | 0 => (some [], c)
  | fuel + 1 =>
    let c := c.skipSpaces
    match c.lineBreak with
    | (some b, behind) =>
      if behind.atDocumentMarker then (none, behind)
      else
        match plainBreaks fuel behind with
        | (some more, behind) => (some (b :: more), behind)
        | (none, behind) => (none, behind)
    | (none, _) => (some [], c)

/-- What joins two words of a plain scalar, empty if the scalar ends here, and whether a line
ended. -/
def plainGap (c : Cursor) : List Char × Bool × Cursor :=
  let (blanks, c) := c.span (· == ' ')
  match c.lineBreak with
  | (none, _) => (blanks, false, c)
  | (some lineEnd, behind) =>
    if behind.atDocumentMarker then ([], true, behind)
    else
      match plainBreaks (behind.rest.length + 1) behind with
      | (none, c) => ([], true, c)
      | (some breaks, c) =>
        let joint := if lineEnd ≠ '\n' then [lineEnd] else if breaks.isEmpty then [' '] else []
        (joint ++ breaks, true, c)

/-- The words of a plain scalar: their characters, and whether the last gap had a line end. -/
def plainWords (fuel : Nat) (inFlow : Bool) (indent : Nat) (c : Cursor) :
    List Char × Bool × Cursor :=
  match fuel with
  | 0 => ([], false, c)
  | fuel + 1 =>
    let word := plainWord inFlow c.rest
    let (gap, lineEnded, behind) := plainGap (c.skip word.length)
    if gap.isEmpty ∨ behind.isAt '#' ∨ (!inFlow ∧ behind.column < indent) ∨
        plainEnds inFlow behind.rest then
      (word, lineEnded, behind)
    else
      let (more, lineEnded, behind) := plainWords fuel inFlow indent behind
      (word ++ gap ++ more, lineEnded, behind)

end Yaml

end ModelForge
