import ModelForge.Files.Disk
import ModelForge.Metadata.Unit
import ModelForge.Repository.Definition

/-!
# Reading metadata units

The three files of a unit are read back to objects. Whatever is wrong with them is found: missing
files, a broken index, cut off or overlong files, ids of the wrong pool, unknown tags.
-/

namespace ModelForge

/-- A unit that has been read. -/
structure MetadataUnit where
  index : UnitIndex
  pools : StringPools
  objects : List MetadataObject
  deriving DecidableEq, Repr

namespace MetadataUnit

/-- The first object with a path. -/
def get? (u : MetadataUnit) (path : String) : Option MetadataObject :=
  u.objects.find? fun o => o.path == path

/-- A unit as a document value, apart from its index. -/
def contentValue (u : MetadataUnit) : Value :=
  .object [("classifier_ids", .texts u.pools.classifiers), ("strings", .texts u.pools.strings),
    ("objects", .list (u.objects.map MetadataObject.toValue))]

end MetadataUnit

namespace MetadataObject

/-- The values of a property; none if there is no such property. -/
def values (o : MetadataObject) (name : String) : List MetadataValue :=
  (o.properties.lookup name).getD []

end MetadataObject

namespace Metadata

/-- A file being read: its name and its length. -/
structure Extent where
  file : String
  size : Nat

/-- A step of reading; the state is what has not been read. -/
abbrev Decode := StateT Octets (Except Failure)

/-- The failure of a file that ends too early. -/
def truncated (x : Extent) (rest : Octets) (cause : Option Failure) : Failure :=
  .format (.truncated x.file (x.size - rest.length)) cause

/-- Reads octets. -/
def take (x : Extent) (n : Nat) : Decode Octets := do
  let rest ← get
  let bs := rest.take n
  if bs.length < n then throw (truncated x rest none)
  else
    set (rest.drop n)
    return bs

/-- Reads the octets of a number. -/
def field (x : Extent) (width : Nat) : Decode Octets := do
  let rest ← get
  let bs := rest.take width
  if bs.length < width then throw (truncated x rest (some .packing))
  else
    set (rest.drop width)
    return bs

/-- Reads a natural number. -/
def natural (x : Extent) (width : Nat) : Decode Nat := do
  return BigEndian.value (← field x width)

/-- Reads an integer. -/
def integer (x : Extent) (width : Nat) : Decode Int := do
  return BigEndian.signedValue (← field x width)

/-- Reads the same thing several times. -/
def times {α : Type} (step : Decode α) : Nat → Decode (List α)
  | 0 => pure []
  | n + 1 => do
    let a ← step
    return a :: (← times step n)

/-- Reads the magic and the version. -/
def header (x : Extent) (magic : Octets) : Decode Unit := do
  if (← take x magic.length) ≠ magic then throw (.format (.badMagic x.file) none)
  let found ← natural x 2
  if found ≠ version then throw (.format (.unsupportedVersion x.file found) none)

/-- Makes sure that nothing is left. -/
def atEnd (x : Extent) : Decode Unit := do
  let rest ← get
  if !rest.isEmpty then throw (.format (.trailing x.file rest.length) none)

/-- Takes a result about ids, or fails. -/
def orUnknown {α : Type} (result : Except IdFault α) : Decode α :=
  match result with
  | .ok a => pure a
  | .error f => throw (.stringId f)

/-- Reads a text with its length in front. -/
def text (x : Extent) : Decode String := do
  let n ← natural x 4
  match Utf8.decode (← take x n) with
  | .ok s => return s
  | .error f => throw (.undecodable f)

/-- Reads a pool. -/
def pool (x : Extent) : Decode (List String) := do
  let n ← natural x 4
  times (text x) n

/-- Reads the file of the pools. -/
def pools (x : Extent) : Decode StringPools := do
  header x stringsMagic
  let classifiers ← pool x
  let strings ← pool x
  atEnd x
  return ⟨classifiers, strings⟩

/-- Reads a text by its id. -/
def stringById (x : Extent) (table : StringPools) : Decode String := do
  orUnknown (table.string (← integer x 4))

/-- Reads the tag of a value; whatever goes wrong is a fault of the tag. -/
def tag (x : Extent) : Decode Nat := do
  let rest ← get
  match (natural x 1).run rest with
  | .error f => throw (.format .badTag (some f))
  | .ok (t, rest) =>
    set rest
    if 1 ≤ t ∧ t ≤ 4 then return t
    else throw (.format .badTag (some (.notMember (toString t) "ValueTag")))

/-- Reads a value. -/
def value (x : Extent) (table : StringPools) : Decode MetadataValue := do
  let t ← tag x
  if t = 3 then return .boolean ((← natural x 1) ≠ 0)
  else if t = 2 then return .integer (← integer x 8)
  else if t = 1 then return .string (← stringById x table)
  else return .reference (← stringById x table)

/-- Puts a property among those read before: a name that is there keeps its place. -/
def putProperty (p : String × List MetadataValue) : MetadataProperties → MetadataProperties
  | [] => [p]
  | q :: rest => if q.1 = p.1 then p :: rest else q :: putProperty p rest

/-- Reads a property. -/
def property (x : Extent) (table : StringPools) : Decode (String × List MetadataValue) := do
  let name ← stringById x table
  let n ← natural x 4
  return (name, ← times (value x table) n)

/-- Reads an object. -/
def object (x : Extent) (table : StringPools) : Decode MetadataObject := do
  let ids ← take x 16
  let id (k : Nat) : Int := BigEndian.signedValue ((ids.drop (4 * k)).take 4)
  let n ← natural x 4
  let properties ← times (property x table) n
  let classifier ← orUnknown (table.classifier (id 0))
  let path ← orUnknown (table.string (id 1))
  let repository ← orUnknown (table.string (id 2))
  let source ← orUnknown (table.string (id 3))
  return ⟨classifier, path, repository, source,
    properties.foldl (fun acc p => putProperty p acc) []⟩

/-- Reads the file of the objects. -/
def objects (x : Extent) (table : StringPools) : Decode (List MetadataObject) := do
  header x objectsMagic
  let n ← natural x 4
  let os ← times (object x table) n
  atEnd x
  return os

/-- Reads the two binary files. -/
def decodeFiles (strings objectData : Octets) :
    Except Failure (StringPools × List MetadataObject) := do
  let (table, _) ← (pools ⟨UnitFiles.stringsName, strings.length⟩).run strings
  let (os, _) ← (objects ⟨UnitFiles.objectsName, objectData.length⟩ table).run objectData
  return (table, os)

/-- A failure inside the binary files as a failure of the unit: broken ids and broken texts make the
unit corrupt, and any other failure stays what it is. -/
def corrupt (unit : Path) : Failure → Failure
  | .stringId fault => .format (.corrupt unit) (some (.stringId fault))
  | .undecodable fault => .format (.corrupt unit) (some (.undecodable fault))
  | f => f

/-- Reads a unit from its files. -/
def decode (unit : Path) (files : UnitFiles) : Except Failure MetadataUnit := do
  let index ←
    match UnitIndex.ofOctets files.index with
    | .valid i => pure i
    | .invalid vs => throw (.format .badIndex (some (.violations "UnitIndex" vs)))
  if index.version ≠ version then throw (.format .unsupportedIndex none)
  match decodeFiles files.strings files.objects with
  | .error f => throw (corrupt unit f)
  | .ok (table, os) =>
    if (os.length : Int) ≠ index.objectCount then
      throw (.format (.miscounted index.objectCount os.length) none)
    else return ⟨index, table, os⟩

/-- Reads a file of a unit; one that is missing makes the unit incomplete. -/
def readFile (d : Disk) (unit : Path) (name : String) : Except Failure Octets :=
  match d.read (unit.append (.ofParts [name])) with
  | .ok content => .ok content
  | .error (.failed .notFound path target) =>
    .error (.format (.incomplete path) (some (.file (.failed .notFound path target))))
  | .error f => .error (.file f)

/-- Reads the unit in a directory. -/
def readUnit (d : Disk) (unit : Path) : Except Failure MetadataUnit := do
  let index ← readFile d unit UnitFiles.indexName
  match UnitIndex.ofOctets index with
  | .invalid vs => throw (.format .badIndex (some (.violations "UnitIndex" vs)))
  | .valid _ =>
    let strings ← readFile d unit UnitFiles.stringsName
    let objectData ← readFile d unit UnitFiles.objectsName
    decode unit ⟨strings, objectData, index⟩

end Metadata

end ModelForge
