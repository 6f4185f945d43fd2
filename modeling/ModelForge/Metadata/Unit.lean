import ModelForge.Document.Json
import ModelForge.Graph.Basic
import ModelForge.Metadata.StringId
import ModelForge.Number.BigEndian
import ModelForge.Plan

/-!
# Metadata units

A unit describes elements in three files: the pools of its texts, its objects, and an index that
sums it up. All numbers are written with the highest octet first; texts are written as ids of the
pools.
-/

namespace ModelForge

namespace Value

/-- The name of the type of a value. -/
def typeName : Value → String
  | .null => "NoneType"
  | .bool _ => "bool"
  | .int _ => "int"
  | .float _ => "float"
  | .text _ | .brokenText _ => "str"
  | .octets _ => "bytes"
  | .moment _ _ => "date"
  | .list _ => "list"
  | .pair _ _ => "tuple"
  | .set _ => "set"
  | .map _ => "dict"

/-- The integer that a value stands for: a float is cut toward zero, and a text is read. -/
def toInteger : Value → Except Integer.Fault Int
  | .bool b => .ok (if b then 1 else 0)
  | .int i => .ok i
  | .float .nan => .error .undefined
  | .float (.infinite _) => .error .infinite
  | .float x => .ok (x.truncate?.getD 0)
  | .text s => Integer.parse s
  | v => .error (.unsuited v.typeName)

end Value

/-- A value of a property of an object. -/
inductive MetadataValue where
  | string (text : String)
  | integer (i : Int)
  | boolean (b : Bool)
  | reference (path : String)
  deriving DecidableEq, Repr

namespace MetadataValue

/-- The number that marks the type of a value. -/
def tag : MetadataValue → UInt8
  | string _ => 1
  | integer _ => 2
  | boolean _ => 3
  | reference _ => 4

/-- The name of the type of a value. -/
def tagName : MetadataValue → String
  | string _ => "STRING"
  | integer _ => "INTEGER"
  | boolean _ => "BOOLEAN"
  | reference _ => "REFERENCE"

/-- The value that a document value becomes under the name of a type. -/
def ofValue (name : String) (v : Value) : Except Failure MetadataValue :=
  match name with
  | "STRING" => .ok (string v.display)
  | "INTEGER" => (v.toInteger.map integer).mapError .integer
  | "BOOLEAN" => .ok (boolean !v.isNothing)
  | "REFERENCE" => .ok (reference v.display)
  | _ => .error (.unknownName name)

/-- What a value holds, as a document value. -/
def content : MetadataValue → Value
  | string text => .text text
  | integer i => .int i
  | boolean b => .bool b
  | reference path => .text path

/-- A value behind the name of its type, as a document value. -/
def toValue (v : MetadataValue) : Value := .list [.text v.tagName, v.content]

end MetadataValue

/-- The values of the properties of an object, in order. -/
abbrev MetadataProperties := List (String × List MetadataValue)

/-- Properties as a document value: pairs of a name and values. -/
def MetadataProperties.toValue (ps : MetadataProperties) : Value :=
  .list (ps.map fun (name, values) =>
    .list [.text name, .list (values.map MetadataValue.toValue)])

/-- An element as it stands in a unit. -/
structure MetadataObject where
  classifier : String
  path : String
  repository : String
  source : String
  properties : MetadataProperties
  deriving DecidableEq, Repr

/-- An object as a document value. -/
def MetadataObject.toValue (o : MetadataObject) : Value :=
  .object [("classifier", .text o.classifier), ("path", .text o.path),
    ("repository", .text o.repository), ("source_id", .text o.source),
    ("properties", MetadataProperties.toValue o.properties)]

namespace Element

/-- The type of a property as a value: a text if it is primitive and a reference otherwise. -/
def typeValue (p : Property) : MetadataValue :=
  if isPrimitive p.type then .string p.type else .reference p.type

/-- A property as it stands in metadata. -/
def propertyValues (p : Property) : String × List MetadataValue :=
  ("properties." ++ p.name, [typeValue p, .string p.multiplicity.text])

/-- A property that is left out if it has no values. -/
def unlessEmpty (name : String) (values : List MetadataValue) : MetadataProperties :=
  if values.isEmpty then [] else [(name, values)]

/-- What metadata says about an element: names with values, in order. -/
def metadata (e : Element) : MetadataProperties :=
  unlessEmpty "stereotypes" (e.stereotypes.map .string) ++
    match e.body with
    | .classBody supertypes properties =>
      unlessEmpty "supertypes" (supertypes.map .reference) ++ properties.map propertyValues
    | .enumerationBody values => [("values", values.map .string)]

/-- An element as an object of a unit. -/
def toObject (e : Element) : MetadataObject :=
  ⟨e.classifier, e.path, e.repository, e.source, e.metadata⟩

end Element

/-- The sum of a unit. -/
structure UnitIndex where
  version : Int
  unit : String
  repository : Option String
  objectCount : Int
  classifierCount : Int
  stringCount : Int
  /-- The number of objects of each classifier. -/
  classifiers : List (String × Int)
  deriving DecidableEq, Repr

namespace UnitIndex

/-- Reads an index. -/
def check : Value → Checked UnitIndex :=
  Schema.object "UnitIndex" fun entries =>
    Schema.closed
      ["format_version", "unit", "repository", "object_count", "classifier_count",
       "string_count", "classifiers"] entries
      (UnitIndex.mk
        <$> Schema.required entries "format_version" (Schema.integer 1)
        <*> Schema.required entries "unit" Schema.text
        <*> Schema.member entries "repository" (Schema.optional Schema.text) (some none)
        <*> Schema.required entries "object_count" (Schema.integer 0)
        <*> Schema.required entries "classifier_count" (Schema.integer 0)
        <*> Schema.required entries "string_count" (Schema.integer 0)
        <*> Schema.member entries "classifiers" (Schema.map Schema.anyInteger) (some []))

/-- An index as a document value. -/
def toValue (i : UnitIndex) : Value :=
  .object [("format_version", .int i.version), ("unit", .text i.unit),
    ("repository", .textOrNull i.repository), ("object_count", .int i.objectCount),
    ("classifier_count", .int i.classifierCount), ("string_count", .int i.stringCount),
    ("classifiers", .object (i.classifiers.map fun (name, n) => (name, .int n)))]

/-- Reads an index from the octets of a JSON text. -/
def ofOctets (bs : Octets) : Checked UnitIndex :=
  match Json.parse? bs with
  | some v => check v
  | none => .violation .badJson

end UnitIndex

/-- The files of a unit. -/
structure UnitFiles where
  strings : Octets
  objects : Octets
  index : Octets
  deriving DecidableEq, Repr

namespace UnitFiles

/-- The name of the file of the pools. -/
def stringsName : String := "strings.bin"

/-- The name of the file of the objects. -/
def objectsName : String := "objects.bin"

/-- The name of the file of the index. -/
def indexName : String := "index.json"

/-- The files with their names in the order they are put into place: the index comes last, so that a
unit with an index is complete. -/
def inOrder (u : UnitFiles) : List (String × Octets) :=
  [(stringsName, u.strings), (objectsName, u.objects), (indexName, u.index)]

end UnitFiles

namespace Metadata

/-- The version of the format. -/
def version : Nat := 1

/-- What the file of the pools starts with. -/
def stringsMagic : Octets := Utf8.encode "PMSP"

/-- What the file of the objects starts with. -/
def objectsMagic : Octets := Utf8.encode "PMOB"

/-- A step of writing. Texts that were put into the pools before a failure stay there. -/
abbrev Encode := ExceptT Failure (StateM StringPools)

/-- A natural number in a field of some octets. -/
def count (width n : Nat) : Except Failure Octets :=
  match BigEndian.unsigned? width n with
  | some bs => .ok bs
  | none => .error .packing

/-- An integer in a field of some octets. -/
def number (width : Nat) (i : Int) : Except Failure Octets :=
  match BigEndian.signed? width i with
  | some bs => .ok bs
  | none => .error .packing

/-- Takes a result, or fails. -/
def orThrow {α : Type} (result : Except Failure α) : Encode α :=
  match result with
  | .ok a => pure a
  | .error f => throw f

/-- A text as an id of the general pool. -/
def encodeString (text : String) : Encode Octets := do
  let id ← StringPools.stringId text
  orThrow (number 4 id)

/-- The octets of a value behind its tag. -/
def encodeValue : MetadataValue → Encode Octets
  | .boolean b => pure [if b then 1 else 0]
  | .integer i => orThrow (number 8 i)
  | .string text => encodeString text
  | .reference path => encodeString path

/-- The octets of a value with its tag. -/
def encodeTagged (v : MetadataValue) : Encode Octets := do return v.tag :: (← encodeValue v)

/-- The octets of a property. -/
def encodeProperty (p : String × List MetadataValue) : Encode Octets := do
  let name ← encodeString p.1
  let size ← orThrow (count 4 p.2.length)
  let values ← p.2.mapM encodeTagged
  return name ++ size ++ values.flatten

/-- The octets of the ids that an object starts with. -/
def encodeHeader (o : MetadataObject) : Encode Octets := do
  let classifier ← StringPools.classifierId o.classifier
  let path ← StringPools.stringId o.path
  let repository ← StringPools.stringId o.repository
  let source ← StringPools.stringId o.source
  return (← [classifier, path, repository, source].mapM fun id => orThrow (number 4 id)).flatten

/-- The octets of an object. -/
def encodeObject (o : MetadataObject) : Encode Octets := do
  let header ← encodeHeader o
  let size ← orThrow (count 4 o.properties.length)
  let properties ← o.properties.mapM encodeProperty
  return header ++ size ++ properties.flatten

/-- What both binary files have in common: the magic, the version and the content. -/
def withHeader (magic content : Octets) : Octets := magic ++ BigEndian.octets 2 version ++ content

/-- The file of the objects. -/
def encodeObjects (objects : List MetadataObject) : Encode Octets := do
  let size ← orThrow (count 4 objects.length)
  let encoded ← objects.mapM encodeObject
  return withHeader objectsMagic (size ++ encoded.flatten)

/-- A text with its length in front. -/
def encodeText (text : String) : Except Failure Octets := do
  let bs := Utf8.encode text
  return (← count 4 bs.length) ++ bs

/-- A pool with its size in front. -/
def encodePool (pool : List String) : Except Failure Octets := do
  return (← count 4 pool.length) ++ (← pool.mapM encodeText).flatten

/-- The file of the pools. -/
def encodeStrings (pools : StringPools) : Except Failure Octets := do
  return withHeader stringsMagic
    ((← encodePool pools.classifiers) ++ (← encodePool pools.strings))

/-- How often each name occurs, ascending by name. -/
def tally (names : List String) : List (String × Int) :=
  (Names.ofList names).map fun n => (n, (names.count n : Int))

/-- The files of a unit of a graph, which must be ready. -/
def serialize (g : Graph) (u : OutputUnit) : Except Failure UnitFiles :=
  if !g.isReady then .error (.graphNotReady g.state)
  else
    let objects := (g.elementsOf u.repository).map Element.toObject
    match (encodeObjects objects).run.run .empty with
    | (.error f, _) => .error f
    | (.ok encoded, pools) => do
      let strings ← encodeStrings pools
      let index : UnitIndex :=
        ⟨version, u.name, u.repository, objects.length, pools.classifiers.length,
         pools.strings.length, tally (objects.map MetadataObject.classifier)⟩
      return ⟨strings, encoded, Utf8.encode (Json.print index.toValue)⟩

end Metadata

end ModelForge
