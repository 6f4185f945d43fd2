import ModelForge.Files.Path
import ModelForge.Graph.Element
import ModelForge.Text.Quoted

/-!
# Text of generated modules

A module holds the elements of one package: classes become plain classes with slots, and
enumerations become `enum.Enum` classes. Texts of the model enter a module only as quoted literals.
-/

namespace ModelForge

namespace Code

/-- The dotted name of the module of a package. -/
def moduleName (package : String) : String :=
  String.ofList (Segments.joinWith ['.'] (Segments.splitOnPair ':' package.toList))

/-- The segments of a dotted name. -/
def nameParts (name : String) : List String :=
  (Segments.splitOn '.' name.toList).map String.ofList

/-- The directory of a module: the segments of its name one below the other. -/
def moduleDirectory (name : String) : Path :=
  (nameParts name).foldl Path.child (Path.ofParts [])

/-- The file of a generated module. -/
def modulePath (name : String) : Path := (moduleDirectory name).append (.ofParts ["__init__.py"])

/-- The file of a compiled module. -/
def artifactPath (name : String) : Path :=
  (moduleDirectory name).append (.ofParts ["__init__.pyc"])

/-- The package that the modules of a group live in. -/
def groupPackage (group : String) : String :=
  String.ofList (group.toList.map fun c => if c = '-' then '_' else c)

/-- The type that a property has in generated code. -/
def valueType (type : String) : String :=
  match type with
  | "Boolean" => "bool"
  | "Date" => "datetime.date"
  | "DateTime" => "datetime.datetime"
  | "Decimal" => "decimal.Decimal"
  | "Float" => "float"
  | "Integer" => "int"
  | "StrictDate" => "datetime.date"
  | "String" => "str"
  | _ => "object"

/-- The annotation of a property. -/
def annotation (p : Property) : String :=
  if p.multiplicity.isMany then "list[" ++ valueType p.type ++ "]"
  else valueType p.type ++ " | None"

/-- A line indented by some levels. -/
def indented (level : Nat) (line : String) : String :=
  String.ofList (List.replicate (4 * level) ' ') ++ line

/-- The parameter of a property. -/
def parameter (p : Property) : String := p.name ++ ": " ++ annotation p ++ " = None"

/-- The line that sets a property. -/
def setter (p : Property) : String :=
  let value :=
    if p.multiplicity.isMany then
      "list(" ++ p.name ++ ") if " ++ p.name ++ " is not None else []"
    else p.name
  indented 2 ("self." ++ p.name ++ " = " ++ value)

/-- The lines of the constructor of a class. -/
def constructorLines (properties : List Property) : List String :=
  if properties.isEmpty then
    [indented 1 "def __init__(self) -> None:", indented 2 "pass"]
  else
    indented 1 ("def __init__(self, *, " ++
      String.intercalate ", " (properties.map parameter) ++ ") -> None:") ::
      properties.map setter

/-- The lines of a class. -/
def classLines (e : Element) (supertypes : List String) (properties : List Property) :
    List String :=
  ["class " ++ e.name ++ ":",
   indented 1 ("__pure_path__ = " ++ Quoted.quote e.path),
   indented 1 ("__pure_supertypes__ = " ++ Quoted.tuple supertypes),
   indented 1 ("__pure_stereotypes__ = " ++ Quoted.tuple e.stereotypes),
   indented 1 ("__slots__ = " ++ Quoted.tuple (properties.map Property.name)),
   ""] ++ constructorLines properties

/-- The lines of an enumeration. -/
def enumerationLines (e : Element) (values : List String) : List String :=
  ("class " ++ e.name ++ "(enum.Enum):") ::
    values.map (fun v => indented 1 (v ++ " = " ++ Quoted.quote v)) ++
    ["",
     e.name ++ ".__pure_path__ = " ++ Quoted.quote e.path,
     e.name ++ ".__pure_stereotypes__ = " ++ Quoted.tuple e.stereotypes]

/-- The lines of an element. -/
def elementLines (e : Element) : List String :=
  match e.body with
  | .classBody supertypes properties => classLines e supertypes properties
  | .enumerationBody values => enumerationLines e values

/-- The lines that every module starts with. -/
def headLines (origin : String) (elements : List Element) : List String :=
  ["\"\"\"Generated from " ++ origin ++ ". Do not edit.\"\"\"",
   "",
   "from __future__ import annotations",
   "",
   "import enum",
   "",
   "__pure_elements__ = " ++ Quoted.tuple (elements.map Element.path)]

/-- The lines of a module. -/
def moduleLines (origin : String) (elements : List Element) : List String :=
  headLines origin elements ++ elements.flatMap fun e => "" :: "" :: elementLines e

/-- The text of a module. -/
def renderModule (origin : String) (elements : List Element) : String :=
  String.intercalate "\n" (moduleLines origin elements) ++ "\n"

end Code

end ModelForge
