import ModelForge.Text.Segments

/-!
# Identifiers and the names built from them

An identifier is an ASCII letter or underscore followed by ASCII letters, digits and underscores.
An element path is identifiers joined by `::`, a dotted package name is identifiers joined by
dots, and a repository name starts with a small letter and goes on with small letters, digits,
underscores and hyphens. Names that become identifiers of generated code must not be reserved
words.
-/

namespace ModelForge

namespace Identifier

/-- A character an identifier may start with. -/
def isStart (c : Char) : Bool := c.isAlpha || c == '_'

/-- A character an identifier may go on with. -/
def isPart (c : Char) : Bool := c.isAlphanum || c == '_'

/-- Whether the characters form an identifier. -/
def wellFormed : List Char → Bool
  | [] => false
  | c :: rest => isStart c && rest.all isPart

/-- Words that generated code cannot use as names. -/
def reserved : List String :=
  ["False", "None", "True", "and", "as", "assert", "async", "await", "break", "class",
   "continue", "def", "del", "elif", "else", "except", "finally", "for", "from", "global",
   "if", "import", "in", "is", "lambda", "nonlocal", "not", "or", "pass", "raise", "return",
   "try", "while", "with", "yield"]

/-- Whether a name is a reserved word. -/
def isReserved (name : String) : Bool := reserved.contains name

end Identifier

/-- Whether the text is a single identifier. -/
def isIdentifier (s : String) : Bool := Identifier.wellFormed s.toList

/-- The text between the `::` separators of a path. -/
def pathSegments (path : String) : List String :=
  (Segments.splitOnPair ':' path.toList).map String.ofList

/-- Whether the text is identifiers joined by `::`. -/
def isElementPath (s : String) : Bool :=
  (Segments.splitOnPair ':' s.toList).all Identifier.wellFormed

/-- Whether the characters are identifiers joined by single dots. -/
def isDottedName (s : List Char) : Bool :=
  (Segments.splitOn '.' s).all Identifier.wellFormed

/-- Whether the text is a legal repository name. -/
def isRepositoryName (s : String) : Bool :=
  match s.toList with
  | [] => false
  | c :: rest => c.isLower && rest.all fun d => d.isLower || d.isDigit || d == '_' || d == '-'

/-- A package and a name joined into an element path. -/
def qualify (package name : String) : String := package ++ "::" ++ name

end ModelForge
