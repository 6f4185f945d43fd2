import ModelForge.Code.Compile
import ModelForge.Graph.Preparation
import ModelForge.Metadata.Publish
import ModelForge.Repository.Discovery
import ModelForge.Repository.Selection
import ModelForge.Settings

/-!
# The pipeline

A run finds and selects repositories, prepares their graph, publishes metadata, generates code and
compiles it, strictly in this order. The first failure ends the run: it is logged with the time
spent and becomes the cause of a single failure of the pipeline.
-/

namespace ModelForge

/-- What a run has made. -/
structure Summary where
  selected : List String
  /-- The directories of the metadata units. -/
  units : List Path
  generation : Option Generation
  /-- The files of the compiled modules. -/
  compiled : List Path
  nanoseconds : Nat
  skipped : Bool

namespace Pipeline

/-- What a run makes. -/
def product : String := "compiled mode artifacts"

/-- The summary of a run that was to do nothing. -/
def skipped : Summary := ⟨[], [], none, [], 0, true⟩

/-- Adds a message that belongs to no step. -/
def info (message : String) : Run Unit := Run.log (Log.info message none)

/-- Logs what the settings ask for. -/
def announce (s : Settings) : Run Unit := do
  info ("Generating " ++ product)
  info ("  Requested repositories: " ++ Quoted.list s.repositories)
  info ("  Excluded repositories: " ++ Quoted.list s.excluded)
  info ("  Extra repositories: " ++ Quoted.list s.extra)
  info ("  Generation type: " ++ s.type.name)
  info ("  Generate External API: '" ++ (Value.bool s.addExternal).literal ++ "' in package '" ++
    s.externalPackage ++ "'")

/-- Logs where the results go. -/
def announceLayout (s : Settings) : Run Unit := do
  match s.layout.metadata with
  | none =>
    info s!"  Classes output directory: {s.classes}"
    info "  No metadata output"
  | some directory =>
    if s.singleDirectory then info s!"  All in output directory: {s.classes}"
    else
      info s!"  Classes output directory: {s.classes}"
      info s!"  Distributed metadata output directory: {directory}"
  match s.layout.sources with
  | none => return ()
  | some directory => info s!"  Codegen output directory: {directory}"

variable [SetOrder] [Code.Compiler]

/-- Finds all repositories and selects those the run works on. -/
def choose (s : Settings) (places : Discovery) (around : Surroundings) :
    Run (RepositorySet × List String) := do
  let all ← Run.orThrow (places.discover around (← get).disk s.extra)
  info ("  Found repositories: " ++ String.intercalate ", " all.names)
  let selected ← Run.orThrow (all.select s.repositories s.excluded)
  info ("  Selected repositories: " ++ String.intercalate ", " selected)
  return (all, selected)

/-- Prepares the graph of a selection. -/
def prepare (all : RepositorySet) (selected : List String) (cache : Cache) : Run Graph := do
  let w ← get
  let (result, _, l) := Preparation.run w.disk all selected cache w.log
  set { w with log := l }
  Run.orThrow result

/-- The cache that settings name. -/
def cacheOf (s : Settings) : Cache :=
  match s.cache with
  | none => .none
  | some path => .file path

/-- Publishes metadata, if it has a directory. -/
def publish (g : Graph) (plan : Plan) : Option Path → Run (List Path)
  | none => return []
  | some directory => Metadata.publish g plan directory

/-- Compiles generated code, unless that is prevented. -/
def compile (s : Settings) (code : Generation) : Run (List Path) := do
  if s.preventCompilation then
    info "  Compilation: skipped"
    return []
  else Code.compileStep code s.classes

/-- All stages of a run that began at a reading of the clock. -/
def stages (s : Settings) (places : Discovery) (around : Surroundings) (start : Nat) :
    Run Summary := do
  let (all, selected) ← choose s places around
  announceLayout s
  let g ← prepare all selected (cacheOf s)
  let plan ← Run.orThrow (Plan.build s.type selected)
  let units ← publish g plan s.layout.metadata
  let code ← Code.generateStep g plan s.external s.layout.sources
  let compiled ← compile s code
  let total ← Run.log (Log.completeStep ("building " ++ product) start)
  return ⟨selected, units, some code, compiled, total, false⟩

/-- Logs a failure of a stage and makes it the cause of the failure of the run. -/
def abandon {α : Type} (start : Nat) (f : Failure) : Run α := do
  let elapsed ← Run.log (Log.since start)
  let time := " (" ++ Log.secondsText elapsed ++ ")"
  Run.log (Log.error ("    Error" ++ time) (some f) none (some elapsed))
  Run.log (Log.error ("    FAILURE building " ++ product ++ time) none none (some elapsed))
  throw (.pipeline ("Error building " ++ product) (Log.seconds elapsed) (some f))

/-- Runs the pipeline. -/
def run (s : Settings) (places : Discovery) (around : Surroundings) : Run Summary := do
  if s.skip then
    info ("Skipping " ++ product ++ " generation")
    return skipped
  else
    let start ← Run.log Log.clock
    announce s
    tryCatch (stages s places around start) (abandon start)

end Pipeline

end ModelForge
