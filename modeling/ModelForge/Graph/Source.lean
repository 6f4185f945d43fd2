import ModelForge.Schema.Rule
import ModelForge.Text.Identifier
import ModelForge.Text.Names

/-!
# Declarations of a source file

A source file names a package and declares classes and enumerations in it. Names are identifiers
and no reserved words; the properties of a class and the values of an enumeration have distinct
names.
-/

namespace ModelForge

/-- How many values a property holds. -/
inductive Multiplicity where
  | one
  | optional
  | many
  | some
  deriving DecidableEq, Repr

namespace Multiplicity

/-- How a multiplicity is written. -/
def text : Multiplicity → String
  | .one => "1"
  | .optional => "0..1"
  | .many => "*"
  | .some => "1..*"

/-- The multiplicities by how they are written. -/
def names : List (String × Multiplicity) :=
  [one, optional, many, some].map fun m => (m.text, m)

/-- Whether a property may hold several values. -/
def isMany : Multiplicity → Bool
  | .many | .some => true
  | _ => false

end Multiplicity

/-- A typed property of a class. -/
structure Property where
  name : String
  /-- A primitive type or the path of an element. -/
  type : String
  multiplicity : Multiplicity
  deriving DecidableEq, Repr

/-- What an element is. -/
inductive Body where
  | classBody (supertypes : List String) (properties : List Property)
  | enumerationBody (values : List String)
  deriving DecidableEq, Repr

/-- An element as declared, by its name in the package. -/
structure Declaration where
  name : String
  stereotypes : List String
  body : Body
  deriving DecidableEq, Repr

/-- A source file. -/
structure Source where
  package : String
  declarations : List Declaration
  deriving DecidableEq, Repr

namespace Source

/-- The form of an identifier. -/
def identifierPattern : String := "^[A-Za-z_][A-Za-z0-9_]*$"

/-- The form of an element path or package. -/
def pathPattern : String := "^[A-Za-z_][A-Za-z0-9_]*(::[A-Za-z_][A-Za-z0-9_]*)*$"

/-- A name that generated code can use. -/
def unreserved (name : String) : Checked String :=
  if Identifier.isReserved name then .violation (.rule ("'" ++ name ++ "' is a reserved word"))
  else .valid name

/-- An identifier. -/
def identifier (v : Value) : Checked String :=
  Schema.textLike identifierPattern isIdentifier v

/-- The names that occur more than once, ascending. -/
def repeated (names : List String) : List String :=
  Names.ofList (names.filter fun n => 1 < names.count n)

/-- Refuses names that occur more than once. -/
def distinct {α : Type} (what : String) (names : List String) (a : α) : Checked α :=
  match repeated names with
  | [] => .valid a
  | again => .violation (.rule ("Duplicate " ++ what ++ ": " ++ String.intercalate ", " again))

/-- The name of a declaration or property. -/
def name (entries : List (Value × Value)) : Checked String :=
  Schema.required entries "name" fun v => (identifier v).andThen unreserved

/-- A list of texts that may be left out. -/
def texts (entries : List (Value × Value)) (member : String) : Checked (List String) :=
  Schema.member entries member (Schema.list Schema.text) (some [])

/-- A property. -/
def property : Value → Checked Property :=
  Schema.object "PropertyDefinition" fun entries =>
    Schema.closed ["name", "type", "multiplicity"] entries
      (Property.mk <$> name entries
        <*> Schema.required entries "type" Schema.someText
        <*> Schema.member entries "multiplicity" (Schema.listed Multiplicity.names)
              (some Multiplicity.one))

/-- A list of properties that may be left out. -/
def properties (entries : List (Value × Value)) : Checked (List Property) :=
  Schema.member entries "properties" (Schema.list property) (some [])

/-- A class. -/
def classDeclaration (entries : List (Value × Value)) : Checked Declaration :=
  let read : Checked Declaration :=
    Schema.closed ["kind", "name", "stereotypes", "extends", "properties"] entries
      ((fun name stereotypes supertypes properties =>
          ⟨name, stereotypes, .classBody supertypes properties⟩) <$> name entries
        <*> texts entries "stereotypes"
        <*> texts entries "extends"
        <*> properties entries)
  read.andThen fun d =>
    match d.body with
    | .classBody _ properties => distinct "property names" (properties.map Property.name) d
    | .enumerationBody _ => .valid d

/-- The first violation of a list of names that generated code cannot use. -/
def unreservedAll : List String → Checked Unit
  | [] => .valid ()
  | n :: rest => (unreserved n).andThen fun _ => unreservedAll rest

/-- The values of an enumeration. -/
def values (v : Value) : Checked (List String) :=
  (Schema.listOf 1 identifier v).andThen fun names =>
    (unreservedAll names).andThen fun _ => distinct "enumeration values" names names

/-- An enumeration. -/
def enumerationDeclaration (entries : List (Value × Value)) : Checked Declaration :=
  Schema.closed ["kind", "name", "stereotypes", "values"] entries
    ((fun name stereotypes values => ⟨name, stereotypes, .enumerationBody values⟩) <$> name entries
      <*> texts entries "stereotypes"
      <*> Schema.required entries "values" values)

/-- A declaration, by its kind. -/
def declaration : Value → Checked Declaration :=
  Schema.variant "kind"
    [("class", classDeclaration), ("enumeration", enumerationDeclaration)]

/-- A package none of whose segments is reserved. -/
def packageName (v : Value) : Checked String :=
  (Schema.textLike pathPattern isElementPath v).andThen fun s =>
    (unreservedAll (pathSegments s)).andThen fun _ => .valid s

/-- A property as a document value. -/
def propertyValue (p : Property) : Value :=
  .object [("name", .text p.name), ("type", .text p.type),
    ("multiplicity", .text p.multiplicity.text)]

/-- A declaration as a document value, with everything that could be left out. -/
def declarationValue (d : Declaration) : Value :=
  let kind (name : String) (rest : List (String × Value)) : Value :=
    .object ([("kind", .text name), ("name", .text d.name),
      ("stereotypes", .texts d.stereotypes)] ++ rest)
  match d.body with
  | .classBody supertypes properties =>
    kind "class" [("extends", .texts supertypes),
      ("properties", .list (properties.map propertyValue))]
  | .enumerationBody values => kind "enumeration" [("values", .texts values)]

/-- A source file as a document value. -/
def toValue (s : Source) : Value :=
  .object [("package", .text s.package), ("elements", .list (s.declarations.map declarationValue))]

/-- Reads a source file. -/
def check : Value → Checked Source :=
  Schema.object "SourceFile" fun entries =>
    Schema.closed ["package", "elements"] entries
      (Source.mk <$> Schema.required entries "package" packageName
        <*> Schema.member entries "elements" (Schema.list declaration) (some []))

end Source

end ModelForge
