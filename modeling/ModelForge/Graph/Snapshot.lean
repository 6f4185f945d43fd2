import ModelForge.Document.Json
import ModelForge.Graph.Fingerprint

/-!
# Snapshots of graphs

A snapshot is a JSON text with the elements of a graph and the fingerprints of the repositories
they were compiled from. `Cache.hydrate` fills a graph from a snapshot if the fingerprints are
those of the repositories as they are now.
-/

namespace ModelForge

/-- A graph as stored. -/
structure Snapshot where
  version : Int
  /-- The fingerprints of the repositories by name. -/
  repositories : List (String × String)
  elements : List Element
  deriving DecidableEq, Repr

namespace Snapshot

/-- The version of the format. -/
def currentVersion : Int := 1

/-- Reads a snapshot. -/
def check : Value → Checked Snapshot :=
  Schema.object "GraphSnapshot" fun entries =>
    Schema.closed ["format_version", "repositories", "elements"] entries
      (Snapshot.mk
        <$> Schema.required entries "format_version" (Schema.integer 1)
        <*> Schema.required entries "repositories" (Schema.map Schema.text)
        <*> Schema.member entries "elements" (Schema.list Element.check) (some []))

/-- A snapshot as a document value. -/
def toValue (s : Snapshot) : Value :=
  .object [("format_version", .int s.version),
    ("repositories", .object (s.repositories.map fun (name, f) => (name, .text f))),
    ("elements", .list (s.elements.map Element.toValue))]

/-- A snapshot as a JSON text. -/
def text (s : Snapshot) : String := Json.print s.toValue

/-- Reads a snapshot from its octets. -/
def ofOctets (bs : Octets) : Checked Snapshot :=
  match Json.parse? bs with
  | some v => check v
  | none => .violation .badJson

/-- Whether two lists give the same texts to the same names. -/
def sameMap (a b : List (String × String)) : Bool :=
  let within (a b : List (String × String)) : Bool := a.all fun (k, v) => b.lookup k == some v
  within a b && within b a

/-- The snapshot of a graph. -/
def ofGraph (d : Disk) (g : Graph) : Except Failure Snapshot := do
  return ⟨currentVersion, ← g.repositories.fingerprints d, g.elements⟩

end Snapshot

/-- Why a graph was not filled from a cache. -/
inductive CacheMiss where
  | notConfigured
  | notFound (path : Path)
  | unreadable (fault : Files.Fault)
  | unsupported (version : Int)
  | stale
  /-- Something failed while the snapshot was read or loaded. -/
  | notLoaded (failure : Failure)
  | other (reason trace : Option String)

namespace CacheMiss

/-- The reason in words. -/
def reason : CacheMiss → Option String
  | notConfigured => some "no cache configured"
  | notFound path => some s!"cache file not found: {path}"
  | unreadable fault => some s!"cache file could not be read: {fault.message}"
  | unsupported version => some s!"unsupported cache format version {version}"
  | stale => some "cache is stale for the selected repositories"
  | notLoaded failure => some s!"cache could not be loaded: {failure.message}"
  | other reason _ => reason

/-- The trace of the failure, if there was one. -/
def trace : CacheMiss → Option String
  | unreadable fault => some (Failure.file fault).traceText
  | notLoaded failure => some failure.traceText
  | other _ trace => trace
  | _ => none

end CacheMiss

/-- Where a graph may be filled from. -/
inductive Cache where
  /-- There is no cache. -/
  | none
  /-- A snapshot in a file. -/
  | file (path : Path)
  /-- A cache with a given outcome that adds nothing. -/
  | given (hit : Bool) (state : Option CacheMiss)

namespace Cache

/-- What is known about a miss before the cache has been tried. -/
def initial : Cache → Option CacheMiss
  | .given _ state => state
  | _ => Option.none

/-- Adds elements one after the other, up to the first that cannot be added. -/
def addAll (g : Graph) : List Element → Option Failure × Graph
  | [] => (Option.none, g)
  | e :: rest =>
    match g.add e with
    | .ok g => addAll g rest
    | .error f => (some f, g)

/-- Fills a graph from the octets of a snapshot: why it could not be, if so, and the graph. -/
def load (d : Disk) (content : Octets) (g : Graph) : Option CacheMiss × Graph :=
  match Snapshot.ofOctets content with
  | .invalid vs => (some (.notLoaded (.violations "GraphSnapshot" vs)), g)
  | .valid s =>
    if s.version ≠ Snapshot.currentVersion then (some (.unsupported s.version), g)
    else
      match g.repositories.fingerprints d with
      | .error f => (some (.notLoaded f), g)
      | .ok current =>
        if !Snapshot.sameMap s.repositories current then (some .stale, g)
        else
          match addAll g s.elements with
          | (Option.none, g) => (Option.none, g)
          | (some f, g) => (some (.notLoaded f), g)

/-- Tries to fill a graph: whether that worked, what is known about a miss, and the graph. -/
def hydrate (d : Disk) (cache : Cache) (g : Graph) :
    Except Failure (Bool × Option CacheMiss × Graph) :=
  match cache with
  | .none => .ok (false, some .notConfigured, g)
  | .given hit state => .ok (hit, state, g)
  | .file path =>
    match d.read path with
    | .error (.failed .notFound _ _) => .ok (false, some (.notFound path), g)
    | .error .nullCharacter => .error (.file .nullCharacter)
    | .error f => .ok (false, some (.unreadable f), g)
    | .ok content =>
      match load d content g with
      | (Option.none, g) => .ok (true, Option.none, g)
      | (some miss, g) => .ok (false, some miss, g)

end Cache

end ModelForge
