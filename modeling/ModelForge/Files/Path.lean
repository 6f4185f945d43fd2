import ModelForge.Text.Segments

/-!
# Paths

A path is relative or absolute and otherwise a list of names. Reading drops empty names and `.`;
`..` is kept. Exactly two slashes in front are an absolute root of their own.
-/

namespace ModelForge

/-- Where a path starts. -/
inductive Path.Root where
  | here
  | slash
  | doubleSlash
  deriving DecidableEq, Repr

/-- A path. -/
structure Path where
  root : Path.Root
  parts : List String
  deriving DecidableEq, Repr

namespace Path

/-- The slashes a root is written with. -/
def Root.text : Root → String
  | .here => ""
  | .slash => "/"
  | .doubleSlash => "//"

/-- The root of a text. -/
def rootOf (s : List Char) : Root :=
  match (s.takeWhile (· == '/')).length with
  | 0 => .here
  | 2 => .doubleSlash
  | _ => .slash

/-- The names in a text, empty ones and `.` left out. -/
def partsOf (s : List Char) : List String :=
  ((Segments.splitOn '/' s).map String.ofList).filter fun part => part ≠ "" && part ≠ "."

/-- The path that a text writes. -/
def ofString (s : String) : Path := ⟨rootOf s.toList, partsOf s.toList⟩

/-- A relative path of names. -/
def ofParts (parts : List String) : Path := ⟨.here, parts⟩

/-- Whether a path starts at a root. -/
def isAbsolute (p : Path) : Bool := p.root ≠ .here

/-- The names joined by slashes. -/
def joined (parts : List String) : String := String.intercalate "/" parts

/-- The text of a path; the empty relative path is a point. -/
def text (p : Path) : String :=
  match p.root, p.parts with
  | .here, [] => "."
  | root, parts => root.text ++ joined parts

instance : ToString Path := ⟨text⟩

/-- The second path seen from the first: an absolute one is itself. -/
def append (p q : Path) : Path := if q.isAbsolute then q else ⟨p.root, p.parts ++ q.parts⟩

/-- A name below a path, as text that may hold slashes. -/
def child (p : Path) (name : String) : Path := p.append (ofString name)

/-- The path without its last name. -/
def parent (p : Path) : Path := ⟨p.root, p.parts.dropLast⟩

/-- The last name of a path. -/
def name (p : Path) : String := p.parts.getLast?.getD ""

/-- Whether some names come before others or are the same, compared name by name. -/
def namesLe : List String → List String → Bool
  | [], _ => true
  | _ :: _, [] => false
  | a :: as, b :: bs => decide (a < b) || (decide (a = b) && namesLe as bs)

/-- The text of a path below another one, seen from there. -/
def textBelow (base p : Path) : String := (ofParts (p.parts.drop base.parts.length)).text

end Path

end ModelForge
