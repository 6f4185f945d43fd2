import ModelForge.Document.Yaml.Cursor

/-!
# Tokens of a YAML text

The structure of a document, its indentation included, as a row of tokens. A text that is no YAML
ends in a fault in place of the end mark.
-/

namespace ModelForge

namespace Yaml

/-- What is wrong with a text, or with a scalar in it. -/
inductive Fault where
  /-- The text breaks the rules of YAML. -/
  | malformed
  /-- A character number lies beyond the last character. -/
  | noSuchCharacter (code : Nat)
  /-- A scalar does not have the form its type calls for. -/
  | badScalar (message : String)
  /-- A scalar is none of the words its type allows. -/
  | unknownWord (word : String)
  /-- A number has no digits. -/
  | emptyNumber
  /-- A number to the base sixty has so many parts that a power of sixty is no float. -/
  | hugePower
  /-- A scalar marked as a point in time is none. -/
  | notMoment
  deriving DecidableEq, Repr

/-- The handle of a tag, if it has one, and what follows the handle. -/
structure TagName where
  handle : Option String
  suffix : String
  deriving DecidableEq, Repr

/-- A scalar as written: whether it stands without quotes and its code points. -/
structure Scalar where
  plain : Bool
  codes : List Nat
  deriving DecidableEq, Repr

/-- A token. -/
inductive Token where
  | version (major : Nat)
  | tagHandle (handle start : String)
  | otherDirective
  | documentStart
  | documentEnd
  | blockSequence
  | blockMapping
  | blockEnd
  | flowSequence
  | flowSequenceEnd
  | flowMapping
  | flowMappingEnd
  | key
  | value
  | entry
  | flowEntry
  | alias (name : String)
  | anchor (name : String)
  | tag (name : TagName)
  | scalar (s : Scalar)
  | fault (f : Fault)
  deriving DecidableEq, Repr

end Yaml

end ModelForge
