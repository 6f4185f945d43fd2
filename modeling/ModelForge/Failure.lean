import ModelForge.Code.Diagnostic
import ModelForge.Document.Read
import ModelForge.Failure.Outside
import ModelForge.Files.Fault
import ModelForge.Files.Path
import ModelForge.Graph.State
import ModelForge.Schema.Violation

/-!
# Failures

Everything that can end an operation, as causes rather than texts. `Failure.message` is the wording
shown to a user, `Failure.details` what is only logged, and `Failure.cause` the failure that led to
this one.
-/

namespace ModelForge

/-- What is wrong with a repository or a set of them. -/
inductive DefinitionFault where
  /-- There is no definition at the path. -/
  | notFound (path : Path)
  /-- The definition at the path cannot be read. -/
  | malformed (path : Path)
  /-- A repository named by the caller cannot be loaded, possibly from a bundled resource. -/
  | extra (descriptor : String) (resource : Option Path)
  /-- Two repositories have one name. -/
  | duplicate (name : String) (first second : Path)
  /-- A repository depends on repositories that are not there. -/
  | unknownDependencies (name : String) (missing : List String)
  /-- Repositories from which a cycle of dependencies can be reached. -/
  | circular (names : List String)
  | other (text : String) (details : Option String)
  deriving DecidableEq, Repr

/-- Why a graph cannot be compiled from its sources. -/
inductive RebuildFault where
  /-- A source file is no YAML document. -/
  | unreadable
  /-- A source file does not follow the schema. -/
  | invalid
  /-- An element is declared twice, the first time in the given source file. -/
  | duplicate (path firstSource : String)
  /-- A class extends something that is no class. -/
  | notClass (element supertype : String)
  /-- An element refers to a path that nothing has. -/
  | unknownReference (element path : String)
  /-- An element refers to an element of a repository that its own does not depend on. -/
  | hiddenReference (element path owner repository : String)
  | other (text : String) (details : Option String)
  deriving DecidableEq, Repr

/-- Why the files of a metadata unit cannot be read. -/
inductive FormatFault where
  /-- A file of the unit is missing. -/
  | incomplete (file : String)
  /-- The index does not follow its schema. -/
  | badIndex
  | unsupportedIndex
  /-- A file ends inside a field that starts at the offset. -/
  | truncated (file : String) (offset : Nat)
  | badMagic (file : String)
  | unsupportedVersion (file : String) (version : Nat)
  | trailing (file : String) (count : Nat)
  /-- A value has no known tag. -/
  | badTag
  /-- Strings or string ids of the unit are broken. -/
  | corrupt (unit : Path)
  /-- The index states another number of objects than the unit holds. -/
  | miscounted (expected : Int) (found : Nat)
  deriving DecidableEq, Repr

/-- Why a string id or an index of a pool is refused. -/
inductive IdFault where
  | notClassifier (id : Int)
  | notGeneral (id : Int)
  | unknownClassifier (id : Int)
  | unknownString (id : Int)
  | negativeIndex (index : Int)
  deriving DecidableEq, Repr

/-- A failure. -/
inductive Failure where
  /-- A failure without a kind of its own. -/
  | general (text : String) (details : Option String)
  | unknownRepositories (missing : List String)
  | definition (fault : DefinitionFault) (cause : Option Failure)
  | rebuild (fault : RebuildFault) (source : Option String) (cause : Option Failure)
  /-- A metadata unit cannot be written. -/
  | serialization (unit : String) (details : Option String) (cause : Option Failure)
  /-- Generated modules do not compile. -/
  | compilation (diagnostics : List Diagnostic)
  /-- A stage of the pipeline failed after the given number of seconds. -/
  | pipeline (text : String) (elapsed : Binary64) (cause : Option Failure)
  /-- A command ends with a message and an exit code. -/
  | command (text : String) (exitCode : Nat) (cause : Option Failure)
  | format (fault : FormatFault) (cause : Option Failure)
  /-- An event is not allowed in a state. -/
  | transition (state : GraphState) (event : GraphEvent)
  /-- A graph is changed outside loading. -/
  | frozen (action : String) (state : GraphState)
  | duplicateElement (path : String)
  | graphNotReady (state : GraphState)
  | notCacheable (state : GraphState)
  | unhandledType (name : String)
  /-- A name or number that an enumeration does not have. -/
  | notMember (literal type : String)
  /-- A name that a collection does not have. -/
  | unknownName (name : String)
  | stringId (fault : IdFault)
  | integer (fault : Integer.Fault)
  /-- A number does not fit its field, or a field is cut off. -/
  | packing
  | undecodable (fault : Utf8.Fault)
  | yaml (fault : Yaml.Fault)
  | file (fault : Files.Fault)
  /-- A value does not follow its schema. -/
  | violations (model : String) (list : List Violation)
  /-- Any other failure, with its message and the path it is about, if that is known. -/
  | outside (kind : OutsideKind) (text : String) (path : Option String)

namespace DefinitionFault

/-- The wording of a fault of a definition. -/
def text : DefinitionFault → String
  | notFound path => s!"Repository definition not found: {path}"
  | malformed path => s!"Invalid repository definition: {path}"
  | extra descriptor none => "Error loading extra repository \"" ++ descriptor ++ "\""
  | extra descriptor (some path) =>
    "Error loading extra repository \"" ++ descriptor ++ "\" from resource " ++ path.text
  | duplicate name _ _ => s!"Duplicate repository name: '{name}'"
  | unknownDependencies name missing =>
    s!"Repository '{name}' depends on unknown repositories: " ++ String.intercalate ", " missing
  | circular names => "Circular repository dependencies: " ++ String.intercalate ", " names
  | other text _ => text

end DefinitionFault

namespace RebuildFault

/-- The wording of a fault of a rebuild. -/
def text : RebuildFault → String
  | unreadable => "Invalid YAML"
  | invalid => "Invalid source declarations"
  | duplicate path _ => s!"Duplicate element '{path}'"
  | notClass element supertype => s!"'{element}' extends '{supertype}', which is not a class"
  | unknownReference element path => s!"'{element}' references unknown element '{path}'"
  | hiddenReference element path owner repository =>
    s!"'{element}' references '{path}' from repository '{owner}', which '{repository}' " ++
      "does not depend on"
  | other text _ => text

end RebuildFault

namespace IdFault

/-- The wording of a fault of a string id. -/
def text : IdFault → String
  | notClassifier id => s!"Not a classifier id: {id}"
  | notGeneral id => s!"Not a general string id: {id}"
  | unknownClassifier id => s!"Unknown classifier id: {id}"
  | unknownString id => s!"Unknown string id: {id}"
  | negativeIndex index => s!"String pool index must be non-negative: {index}"

end IdFault

namespace FormatFault

/-- The wording of a fault of a unit, given that of what led to it. -/
def text (cause : String) : FormatFault → String
  | incomplete file => s!"Incomplete metadata unit: {file}"
  | badIndex => s!"index.json: {cause}"
  | unsupportedIndex => "index.json: unsupported format version"
  | truncated file offset => s!"{file}: truncated at offset {offset}"
  | badMagic file => s!"{file}: bad magic"
  | unsupportedVersion file version => s!"{file}: unsupported format version {version}"
  | trailing file count => s!"{file}: {count} trailing bytes"
  | badTag => s!"objects.bin: {cause}"
  | corrupt unit => s!"Corrupt metadata unit {unit}: {cause}"
  | miscounted expected found => s!"index.json: expected {expected} objects, found {found}"

end FormatFault

/-- Violations, one a line; those of the whole are named `config`. -/
def Violation.listText (vs : List Violation) : String :=
  let line (v : Violation) : String :=
    let place := if v.place.isEmpty then "config" else String.intercalate "." v.place
    "\n  - " ++ place ++ ": " ++ v.kind.message
  "Validation failed:" ++ String.join (vs.map line)

namespace Yaml

/-- The wording of a fault of a text or scalar. -/
def Fault.message : Fault → String
  | .malformed => "malformed document"
  | .noSuchCharacter code =>
    if code < 0x80000000 then "chr() arg not in range(0x110000)"
    else "Python int too large to convert to C int"
  | .badScalar text => text
  | .unknownWord word => Quoted.quote word
  | .emptyNumber => "string index out of range"
  | .hugePower => "int too large to convert to float"
  | .notMoment => "'NoneType' object has no attribute 'groupdict'"

end Yaml

namespace Failure

/-- The failure of a document that cannot be read. -/
def ofDocument : Document.Fault → Failure
  | .undecodable f => .undecodable f
  | .yaml f => .yaml f

mutual

/-- The wording of a failure. -/
def message : Failure → String
  | general text _ => text
  | unknownRepositories missing =>
    "Unknown repositories: \"" ++ String.intercalate "\", \"" missing ++ "\""
  | definition fault _ => fault.text
  | rebuild fault none _ => fault.text
  | rebuild fault (some source) _ =>
    if source.isEmpty then fault.text else fault.text ++ " (in " ++ source ++ ")"
  | serialization unit _ _ => s!"Error writing distributed metadata for '{unit}'"
  | compilation diagnostics =>
    s!"{diagnostics.length} compilation error(s):" ++
      String.join (diagnostics.map fun d => "\n  - " ++ d.text)
  | pipeline text _ _ => text
  | command text _ _ => text
  | format fault cause => fault.text (causeMessage cause)
  | transition state event => s!"Event '{event.name}' is not allowed in state '{state.name}'"
  | frozen action state => s!"Cannot {action} a graph in state '{state.name}'"
  | duplicateElement path => s!"Duplicate element: {path}"
  | graphNotReady state => s!"Graph is not ready (state: {state.name})"
  | notCacheable state => s!"Only a ready graph can be cached (state: {state.name})"
  | unhandledType name => s!"Unhandled generation type: {name}"
  | notMember literal type => s!"{literal} is not a valid {type}"
  | unknownName name => Quoted.quote name
  | stringId fault => fault.text
  | integer fault => fault.message
  | packing => "value does not fit its field"
  | undecodable fault => fault.message
  | yaml fault => fault.message
  | file fault => fault.message
  | violations _ list => Violation.listText list
  | outside _ text _ => text

/-- The wording of a cause, if there is one. -/
def causeMessage : Option Failure → String
  | none => ""
  | some f => message f

end

/-- The failure that led to a failure. -/
def cause : Failure → Option Failure
  | definition _ c => c
  | rebuild _ _ c => c
  | serialization _ _ c => c
  | pipeline _ _ c => c
  | command _ _ c => c
  | format _ c => c
  | _ => none

/-- What is logged with a failure but not shown; an empty text is nothing. -/
def details (f : Failure) : Option String :=
  let text :=
    match f with
    | general _ details => details
    | definition (.malformed _) c => c.map message
    | definition (.extra _ _) c => c.map message
    | definition (.duplicate _ first second) _ => some s!"{first} and {second}"
    | definition (.other _ details) _ => details
    | rebuild .unreadable _ c => c.map message
    | rebuild .invalid _ c => c.map message
    | rebuild (.duplicate _ first) _ _ => some s!"first defined in {first}"
    | rebuild (.other _ details) _ _ => details
    | serialization _ details _ => details
    | _ => none
  text.filter fun s => !s.isEmpty

/-- Whether a failure is one of the library's own kinds, meant to be shown as it is. -/
def isOwn : Failure → Bool
  | general _ _ | unknownRepositories _ | definition _ _ | rebuild _ _ _ | serialization _ _ _
  | compilation _ | pipeline _ _ _ => true
  | _ => false

/-- Unknown names as a failure: ascending, repetitions kept. -/
def unknown (names : List String) : Failure :=
  .unknownRepositories (names.mergeSort fun a b => decide (a ≤ b))

/-- The failure of a kind from outside that was given some values. -/
def ofOutside (kind : OutsideKind) (values : List Value) : Failure :=
  let path := if kind.isOfSystem then (Outside.path? values).map Value.display else none
  .outside (if kind = .system then Outside.systemKind values else kind) (Outside.text kind values)
    path

/-- The start of every trace. -/
def traceMark : String := "Failure trace:"

/-- The chain of failures that led to a failure, the first one first. -/
def trace (fuel : Nat) (f : Failure) : List String :=
  match fuel with
  | 0 => [f.message]
  | fuel + 1 =>
    match f.cause with
    | none => [f.message]
    | some c => trace fuel c ++ [f.message]

/-- The chain of failures as a text. -/
def traceText (f : Failure) : String :=
  traceMark ++ "\n" ++ String.intercalate "\n" (f.trace 16)

end Failure

end ModelForge
