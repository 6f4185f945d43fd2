import ModelForge.Graph.Source

/-!
# Elements of a graph

An element is a declaration with its full path and where it comes from. `Element.toValue` writes an
element as a document value and `Element.check` reads it back.
-/

namespace ModelForge

/-- A compiled class or enumeration. -/
structure Element where
  path : String
  repository : String
  /-- The source file that declares the element. -/
  source : String
  stereotypes : List String
  body : Body
  deriving DecidableEq, Repr

namespace Element

/-- The types of properties that need no element. -/
def primitiveTypes : List String :=
  ["Boolean", "Date", "DateTime", "Decimal", "Float", "Integer", "StrictDate", "String"]

/-- Whether a type is primitive. -/
def isPrimitive (type : String) : Bool := primitiveTypes.contains type

/-- The stereotype of elements that are part of the external interface. -/
def externalizable : String := "externalizable"

/-- The element that a declaration in a package makes. -/
def ofDeclaration (package repository source : String) (d : Declaration) : Element :=
  ⟨qualify package d.name, repository, source, d.stereotypes, d.body⟩

/-- The package of an element: its path without the last segment. -/
def package (e : Element) : String := String.intercalate "::" (pathSegments e.path).dropLast

/-- The name of an element: the last segment of its path. -/
def name (e : Element) : String := (pathSegments e.path).getLast?.getD ""

/-- Whether an element is a class. -/
def isClass (e : Element) : Bool :=
  match e.body with
  | .classBody _ _ => true
  | .enumerationBody _ => false

/-- What an element is called in metadata. -/
def classifier (e : Element) : String :=
  if e.isClass then "meta::pure::metamodel::type::Class"
  else "meta::pure::metamodel::type::Enumeration"

/-- The kind of an element as written. -/
def kind (e : Element) : String := if e.isClass then "class" else "enumeration"

/-- Whether an element is part of the external interface. -/
def isExternalizable (e : Element) : Bool := e.stereotypes.contains externalizable

/-- The members that classes and enumerations share. -/
def shared (entries : List (Value × Value)) : Checked (Body → Element) :=
  (fun path repository source stereotypes body => ⟨path, repository, source, stereotypes, body⟩)
    <$> Schema.required entries "path" (Schema.textLike Source.pathPattern isElementPath)
    <*> Schema.required entries "repository" Schema.text
    <*> Schema.required entries "source_id" Schema.text
    <*> Source.texts entries "stereotypes"

/-- The names of the shared members and of the kind. -/
def sharedNames : List String := ["path", "repository", "source_id", "stereotypes", "kind"]

/-- Reads a class. -/
def checkClass (entries : List (Value × Value)) : Checked Element :=
  Schema.closed (sharedNames ++ ["supertypes", "properties"]) entries
    ((fun make supertypes properties => make (.classBody supertypes properties))
      <$> shared entries
      <*> Source.texts entries "supertypes"
      <*> Source.properties entries)

/-- Reads an enumeration. -/
def checkEnumeration (entries : List (Value × Value)) : Checked Element :=
  Schema.closed (sharedNames ++ ["values"]) entries
    ((fun make values => make (.enumerationBody values))
      <$> shared entries
      <*> Schema.required entries "values" (Schema.list Schema.text))

/-- Reads an element, by its kind. -/
def check : Value → Checked Element :=
  Schema.variant "kind" [("class", checkClass), ("enumeration", checkEnumeration)]

/-- An element as a document value. -/
def toValue (e : Element) : Value :=
  let shared : List (String × Value) :=
    [("path", .text e.path), ("repository", .text e.repository), ("source_id", .text e.source),
     ("stereotypes", .texts e.stereotypes), ("kind", .text e.kind)]
  match e.body with
  | .classBody supertypes properties =>
    .object (shared ++ [("supertypes", .texts supertypes),
      ("properties", .list (properties.map Source.propertyValue))])
  | .enumerationBody values => .object (shared ++ [("values", .texts values)])

end Element

end ModelForge
