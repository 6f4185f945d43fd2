import ModelForge.Command.Style
import ModelForge.Text.Emoji

/-!
# Markup of console text

Tags in square brackets style what stands between them and are not shown. `Markup.shown` gives the
text that is: without tags, with emoji in place of their names, and without the control characters
that would move the cursor. A backslash in front of a tag makes it text. A closing tag must close a
tag that is open; tags may stay open.
-/

namespace ModelForge

namespace Markup

/-- What is wrong with a markup, at which character. -/
inductive Fault where
  /-- No open tag has the style of a closing one. -/
  | unmatched (tag : String) (position : Nat)
  /-- No tag is open. -/
  | nothingOpen (position : Nat)
  deriving DecidableEq, Repr

/-- The wording of a fault. -/
def Fault.message : Fault → String
  | .unmatched tag position =>
    s!"closing tag '[{tag}]' at position {position} doesn't match any open tag"
  | .nothingOpen position => s!"closing tag '[/]' at position {position} has nothing to close"

/-- A piece of a markup. -/
inductive Piece where
  | text (s : List Char)
  /-- A tag at a position. -/
  | tag (position : Nat) (inside : List Char)
  deriving DecidableEq, Repr

/-- Whether a character can stand first in a tag. -/
def startsTag (c : Char) : Bool := ('a' ≤ c && c ≤ 'z') || c == '#' || c == '/' || c == '@'

/-- The inside of the tag at the front of a text, and what follows it. -/
def tagAt? : List Char → Option (List Char × List Char)
  | '[' :: c :: rest =>
    let inside := rest.takeWhile fun c => c != '[' && c != ']'
    match startsTag c, rest.drop inside.length with
    | true, ']' :: behind => some (c :: inside, behind)
    | _, _ => none
  | _ => none

/-- Puts a character in front of pieces. -/
def consText (c : Char) : List Piece → List Piece
  | .text s :: rest => .text (c :: s) :: rest
  | pieces => .text [c] :: pieces

/-- The pieces of a markup from a position on; two backslashes in front of a tag are one, and one
that is left over makes the tag a text. `fuel` bounds the length of the text. -/
def piecesFrom (fuel position : Nat) (s : List Char) : List Piece :=
  match fuel, s with
  | 0, _ | _, [] => []
  | fuel + 1, c :: rest =>
    let bars := ((c :: rest).takeWhile (· = '\\')).length
    match tagAt? ((c :: rest).drop bars) with
    | some (inside, behind) =>
      let next := position + (rest.length + 1 - behind.length)
      let literal := List.replicate (bars / 2) '\\'
      let first :=
        if bars % 2 = 1 then .text ('[' :: inside ++ [']'])
        else .tag (position + bars) inside
      [.text literal, first, .text []] ++ piecesFrom fuel next behind
    | none => consText c (piecesFrom fuel (position + 1) rest)

/-- A text in which a backslash in front of an opening bracket is left out. -/
def bareBrackets : List Char → List Char
  | '\\' :: '[' :: rest => '[' :: bareBrackets rest
  | c :: rest => c :: bareBrackets rest
  | [] => []

/-- Whether a character is left out when a text is shown. -/
def isHidden (c : Char) : Bool := [7, 8, 11, 12, 13].contains c.toNat

/-- The name in a tag, in front of the value it may have. -/
def nameOf (inside : List Char) : List Char := inside.takeWhile (· ≠ '=')

/-- The open tags after a tag, by the normal forms of their styles, the one opened last first. -/
def follow (stack : List String) (position : Nat) (inside : List Char) :
    Except Fault (List String) :=
  match nameOf inside with
  | '/' :: name =>
    let name := Style.trim name
    if name.isEmpty then
      match stack with
      | [] => .error (.nothingOpen position)
      | _ :: rest => .ok rest
    else
      let style := Style.normal name
      if stack.contains style then .ok (stack.erase style)
      else .error (.unmatched (String.ofList inside) position)
  | name => .ok (Style.normal name :: stack)

/-- The text that pieces show, given the tags that are open. -/
def shownPieces (stack : List String) : List Piece → Except Fault (List Char)
  | [] => .ok []
  | .text s :: rest => do
    let text := (Emoji.replace (bareBrackets s)).filter fun c => !isHidden c
    return text ++ (← shownPieces stack rest)
  | .tag position inside :: rest => do
    shownPieces (← follow stack position inside) rest

/-- The text that a markup shows. -/
def shown (markup : String) : Except Fault String := do
  let s := markup.toList
  return String.ofList (← shownPieces [] (piecesFrom (s.length + 1) 0 s))

end Markup

end ModelForge
