/-!
# Violations of a schema

A schema reads a document value into a type of the domain, and finds everything that is wrong with
it rather than only the first thing: `Checked` collects the violations of all parts. A violation
says where it stands, by member names and indexes, and what is wrong.
-/

namespace ModelForge

/-- What can be wrong at a place. -/
inductive Violation.Kind where
  /-- A member that must be there is not. -/
  | missing
  /-- A member that no rule knows. -/
  | unexpected
  /-- A key that is no text. -/
  | badKey
  /-- Not an object; the name says what it should have been. -/
  | notObject (model : String)
  /-- Not an object where one of several is expected. -/
  | notVariant
  /-- The member that says which variant this is is missing. -/
  | noTag (discriminator : String)
  /-- The member that says which variant this is names none. -/
  | unknownTag (tag discriminator : String) (tags : List String)
  /-- Not one of the listed texts. -/
  | notListed (texts : List String)
  /-- Not the name of a member of an enumeration. -/
  | notNamed (names : List String)
  | notText
  /-- A text with unpaired surrogates, or octets that are no text. -/
  | brokenText
  /-- A text that does not have the form it should have. -/
  | badForm (pattern : String)
  | textTooShort (least : Nat)
  | tooFew (least found : Nat)
  | notList
  | notSet
  | notMap
  | notPath
  | notBoolean
  | unreadableBoolean
  | notInteger
  | unreadableInteger
  /-- An integer with more digits than are read. -/
  | oversized
  | fractional
  | infinite
  | notNumber
  | unreadableNumber
  | tooSmall (least : Int)
  /-- Not an instance of the named type. -/
  | notInstance (type : String)
  /-- Not a JSON text at all. -/
  | badJson
  /-- A rule of the domain is broken, in its own words. -/
  | rule (text : String)
  deriving DecidableEq, Repr

/-- Something wrong at a place. -/
structure Violation where
  place : List String
  kind : Violation.Kind
  deriving DecidableEq, Repr

namespace Violation

/-- Quoted texts with a word before the last. -/
def choices : List String → String
  | [] => ""
  | [a] => "'" ++ a ++ "'"
  | [a, b] => "'" ++ a ++ "' or '" ++ b ++ "'"
  | a :: rest => "'" ++ a ++ "', " ++ choices rest

/-- A count with its noun. -/
def counted (n : Nat) (noun : String) : String :=
  toString n ++ " " ++ noun ++ (if n = 1 then "" else "s")

/-- The wording of a violation. -/
def Kind.message : Kind → String
  | .missing => "Field required"
  | .unexpected => "Extra inputs are not permitted"
  | .badKey => "Keys should be strings"
  | .notObject model => "Input should be a valid dictionary or instance of " ++ model
  | .notVariant => "Input should be a valid dictionary or object to extract fields from"
  | .noTag d => "Unable to extract tag using discriminator '" ++ d ++ "'"
  | .unknownTag tag d tags =>
    "Input tag '" ++ tag ++ "' found using '" ++ d ++
      "' does not match any of the expected tags: " ++
      String.intercalate ", " (tags.map fun t => "'" ++ t ++ "'")
  | .notListed texts => "Input should be " ++ choices texts
  | .notNamed names => "Input should be " ++ choices names
  | .notText => "Input should be a valid string"
  | .brokenText => "Input should be a valid string, unable to parse raw data as a unicode string"
  | .badForm pattern => "String should match pattern '" ++ pattern ++ "'"
  | .textTooShort least => "String should have at least " ++ counted least "character"
  | .tooFew least found =>
    "Tuple should have at least " ++ counted least "item" ++ " after validation, not " ++
      toString found
  | .notList => "Input should be a valid tuple"
  | .notSet => "Input should be a valid frozenset"
  | .notMap => "Input should be a valid dictionary"
  | .notPath => "Input is not a valid path for <class 'pathlib.Path'>"
  | .notBoolean => "Input should be a valid boolean"
  | .unreadableBoolean => "Input should be a valid boolean, unable to interpret input"
  | .notInteger => "Input should be a valid integer"
  | .unreadableInteger =>
    "Input should be a valid integer, unable to parse string as an integer"
  | .oversized => "Unable to parse input string as an integer, exceeded maximum size"
  | .fractional => "Input should be a valid integer, got a number with a fractional part"
  | .infinite => "Input should be a finite number"
  | .notNumber => "Input should be a valid number"
  | .unreadableNumber => "Input should be a valid number, unable to parse string as a number"
  | .tooSmall least => "Input should be greater than or equal to " ++ toString least
  | .notInstance type => "Input should be an instance of " ++ type
  | .badJson => "Invalid JSON"
  | .rule text => "Value error, " ++ text

/-- The violation seen from the object that holds the part it is in. -/
def below (label : String) (v : Violation) : Violation := { v with place := label :: v.place }

end Violation

/-- A part that has been read, or everything that is wrong with it. -/
inductive Checked (α : Type) where
  | valid (a : α)
  | invalid (violations : List Violation)

namespace Checked

/-- Applies a function to what has been read. -/
def map {α β : Type} (f : α → β) : Checked α → Checked β
  | .valid a => .valid (f a)
  | .invalid vs => .invalid vs

/-- Reads two parts; the violations of both count, the first ones first. -/
def seq {α β : Type} (f : Checked (α → β)) (a : Checked α) : Checked β :=
  match f, a with
  | .valid f, .valid a => .valid (f a)
  | .valid _, .invalid vs => .invalid vs
  | .invalid vs, .valid _ => .invalid vs
  | .invalid vs, .invalid ws => .invalid (vs ++ ws)

instance : Applicative Checked where
  pure := .valid
  map := map
  seq f a := seq f (a ())

/-- Goes on with what has been read; a later rule sees only a valid part. -/
def andThen {α β : Type} (a : Checked α) (rule : α → Checked β) : Checked β :=
  match a with
  | .valid a => rule a
  | .invalid vs => .invalid vs

/-- A violation at this very place. -/
def violation {α : Type} (kind : Violation.Kind) : Checked α := .invalid [⟨[], kind⟩]

/-- The violations seen from the object that holds the part. -/
def below {α : Type} (label : String) : Checked α → Checked α
  | .valid a => .valid a
  | .invalid vs => .invalid (vs.map (Violation.below label))

/-- The violations of a part. -/
def violations {α : Type} : Checked α → List Violation
  | .valid _ => []
  | .invalid vs => vs

/-- What has been read, if it is valid. -/
def toOption {α : Type} : Checked α → Option α
  | .valid a => some a
  | .invalid _ => none

/-- Reads all parts of a list. -/
def all {α : Type} : List (Checked α) → Checked (List α)
  | [] => .valid []
  | a :: rest => (map List.cons a).seq (all rest)

end Checked

end ModelForge
