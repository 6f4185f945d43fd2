import ModelForge.Graph.Basic
import ModelForge.Repository.Definition

/-!
# Compiling a graph from sources

A graph is compiled in two phases: first the core repository, then the others in dependency order.
Each phase reads its source files, adds the declared elements, and then resolves their references.
An element may refer to elements of its own repository and of those it depends on.
-/

namespace ModelForge

namespace Repository

/-- The ending of the names of source files. -/
def sourceEnding : String := ".pure.yaml"

/-- Whether a name is that of a source file. -/
def isSourceName (name : String) : Bool := sourceEnding.toList.isSuffixOf name.toList

/-- The parts of the source files below a directory, name by name in ascending order. -/
def sourceParts (d : Disk) (l : Files.Location) : List (List String) :=
  let found := (d.below l).filterMap fun (parts, _) =>
    if (parts.getLast?.map isSourceName) == some true then some parts else none
  found.mergeSort Path.namesLe

/-- The source files of a repository, in a fixed order. -/
def sources (d : Disk) (r : Repository) : Except Files.Fault (List Path) := do
  if ← d.isDirectory r.root then
    match d.locate r.root with
    | .ok l => return (sourceParts d l).map fun parts => r.root.append (.ofParts parts)
    | .error _ => return []
  else return []

/-- The name of a source file: the repository and the path below its directory. -/
def sourceId (r : Repository) (p : Path) : String := "/" ++ r.name ++ "/" ++ r.root.textBelow p

variable [SetOrder]

/-- The declarations in a document. -/
def readSource (source : String) (content : Octets) : Except Failure Source :=
  match Document.read content with
  | .error (.yaml .malformed) =>
    .error (.rebuild .unreadable (some source) (some (.yaml .malformed)))
  | .error f => .error (.ofDocument f)
  | .ok v =>
    match Source.check v with
    | .valid s => .ok s
    | .invalid vs => .error (.rebuild .invalid (some source) (some (.violations "SourceFile" vs)))

/-- The elements that a source file declares. -/
def parse (d : Disk) (r : Repository) (p : Path) : Except Failure (List Element) := do
  let id := r.sourceId p
  let s ← readSource id (← Disk.orFail (d.read p))
  return s.declarations.map (Element.ofDeclaration s.package r.name id)

end Repository

/-- A graph being compiled, and the messages about it so far. -/
structure Loading where
  graph : Graph
  messages : List String

/-- A step of compiling. What has been added before a failure stays. -/
abbrev Compile := ExceptT Failure (StateM Loading)

namespace Graph

/-- Says something about the progress. -/
def say (text : String) : Compile Unit :=
  modify fun l => { l with messages := l.messages ++ [text] }

/-- A result as a step. -/
def orThrow {α : Type} (result : Except Failure α) : Compile α :=
  match result with
  | .ok a => pure a
  | .error f => throw f

/-- Adds a declared element; its path must be new. -/
def declare (e : Element) : Compile Unit := do
  let l ← get
  match l.graph.get? e.path with
  | some first =>
    throw (.rebuild (.duplicate e.path first.source) (some e.source) none)
  | none => set { l with graph := ← orThrow (l.graph.add e) }

variable [SetOrder]

/-- Reads a source file and adds what it declares. -/
def loadFile (d : Disk) (r : Repository) (p : Path) : Compile (List Element) := do
  let elements ← orThrow (r.parse d p)
  elements.forM declare
  return elements

/-- Reads the source files of a repository and adds what they declare. -/
def loadRepository (d : Disk) (phase : String) (r : Repository) : Compile (List Element) := do
  let files ← orThrow (Disk.orFail (r.sources d))
  say s!"Loading {phase} repository '{r.name}' ({files.length} sources)"
  return (← files.mapM (loadFile d r)).flatten

/-- The element that another one refers to. -/
def lookUp (g : Graph) (e : Element) (path : String) (visible : List String) :
    Except Failure Element :=
  match g.get? path with
  | none => .error (.rebuild (.unknownReference e.path path) (some e.source) none)
  | some target =>
    if visible.contains target.repository then .ok target
    else
      .error (.rebuild (.hiddenReference e.path path target.repository e.repository)
        (some e.source) none)

/-- Checks that a supertype is a class that may be referred to. -/
def resolveSupertype (g : Graph) (e : Element) (visible : List String) (path : String) :
    Except Failure Unit := do
  let target ← g.lookUp e path visible
  if target.isClass then return ()
  else throw (.rebuild (.notClass e.path path) (some e.source) none)

/-- Checks that the type of a property is primitive or may be referred to. -/
def resolveProperty (g : Graph) (e : Element) (visible : List String) (p : Property) :
    Except Failure Unit :=
  if Element.isPrimitive p.type then .ok ()
  else (g.lookUp e p.type visible).map fun _ => ()

/-- Checks the references of an element: those of supertypes first. -/
def resolve (g : Graph) (e : Element) : Except Failure Unit := do
  match e.body with
  | .enumerationBody _ => return ()
  | .classBody supertypes properties =>
    let visible ← g.repositories.visibleFrom e.repository
    supertypes.forM (g.resolveSupertype e visible)
    properties.forM (g.resolveProperty e visible)

/-- Compiles repositories: first all declarations, then all references. Gives the number of
elements. -/
def compilePhase (d : Disk) (phase : String) (rs : List Repository) : Compile Nat := do
  let added := (← rs.mapM (loadRepository d phase)).flatten
  let g := (← get).graph
  orThrow (added.forM g.resolve)
  say s!"Compiled {added.length} {phase} elements"
  return added.length

/-- Compiles the core repository. -/
def compileCore (d : Disk) : Compile Nat := do
  compilePhase d "core" ((← get).graph.repositories.members.filter Repository.isCore)

/-- Compiles all other repositories in dependency order. -/
def compileSystem (d : Disk) : Compile Nat := do
  let order ← orThrow (← get).graph.repositories.dependencyOrder
  compilePhase d "system" (order.filter fun r => !r.isCore)

/-- Runs a step of compiling. -/
def runCompile {α : Type} (step : Compile α) (g : Graph) : Except Failure α × Graph × List String :=
  let (result, l) := step.run.run ⟨g, []⟩
  (result, l.graph, l.messages)

end Graph

end ModelForge
