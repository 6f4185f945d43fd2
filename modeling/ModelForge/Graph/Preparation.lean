import ModelForge.Event.Log
import ModelForge.Graph.Snapshot

/-!
# Preparing a graph

A graph is filled from the cache if that works; otherwise what the cache left behind is dropped and
the graph is compiled from its sources, the core repository first. A miss of the cache is no
failure; a failure to compile is, and leaves the graph in its failed state.
-/

namespace ModelForge

/-- A graph being prepared, what is known about the cache, and the log. -/
structure Preparing where
  graph : Graph
  cache : Option CacheMiss
  log : Log

/-- A step of preparing. What has happened before a failure stays. -/
abbrev Prepare := ExceptT Failure (StateM Preparing)

namespace Preparation

/-- The name of the step. -/
def stepName : String := "graph initialization"

/-- Writes to the log. -/
def log {α : Type} (entry : StateM Log α) : Prepare α := do
  let p ← get
  let (a, l) := entry.run p.log
  set { p with log := l }
  return a

/-- Adds a message of this step. -/
def info (message : String) : Prepare Unit := log (Log.info message (some stepName))

/-- Applies an event to the graph. -/
def apply (event : GraphEvent) : Prepare Unit := do
  let p ← get
  match p.graph.apply event with
  | .ok g => set { p with graph := g }
  | .error f => throw f

/-- Tries to fill the graph from the cache. -/
def hydrate (d : Disk) (cache : Cache) : Prepare Bool := do
  let p ← get
  match cache.hydrate d p.graph with
  | .ok (hit, miss, g) =>
    set { p with graph := g, cache := miss }
    return hit
  | .error f => throw f

/-- Runs a phase of compiling and logs its messages. -/
def phase (step : Compile Nat) : Prepare Unit := do
  let p ← get
  let (result, g, messages) := Graph.runCompile step p.graph
  set { p with graph := g }
  messages.forM fun m => info ("    " ++ m)
  match result with
  | .ok _ => return ()
  | .error f => throw f

variable [SetOrder]

/-- Compiles the graph from its sources. -/
def rebuild (d : Disk) : Prepare Unit := do
  apply .rebuildStarted
  let p ← get
  match p.graph.reset with
  | .ok g => set { p with graph := g }
  | .error f => throw f
  phase (Graph.compileCore d)
  phase (Graph.compileSystem d)

/-- Logs that the cache did not serve, and its trace if something failed. -/
def reportMiss : Prepare Unit := do
  match (← get).cache.bind CacheMiss.trace with
  | some trace =>
    log (Log.warning ("    Cache initialization failure: " ++ trace) (some stepName))
  | none => pure ()
  info "    Initialization from caches failed - compiling from scratch"

/-- Fills the graph from the cache or from its sources. -/
def fill (d : Disk) (cache : Cache) : Prepare Unit := do
  if ← hydrate d cache then
    apply .cacheLoaded
    info "    Initialized from cache"
  else
    apply .cacheMissed
    reportMiss
    rebuild d
  apply .completed

/-- Notes a failure in the graph and in the log, and passes it on. -/
def abandon (start : Nat) (f : Failure) : Prepare Unit := do
  apply .failed
  let text ← log (Log.since start)
  let elapsed ← log (Log.since start)
  log (Log.error ("    Error initializing graph (" ++ Log.secondsText text ++ ")") (some f)
    (some stepName) (some elapsed))
  throw f

/-- Prepares the graph, as a step that began at a reading of the clock. -/
def prepare (d : Disk) (cache : Cache) (start : Nat) : Prepare Unit := do
  tryCatch (fill d cache) (abandon start)
  let _ ← log (Log.completeStep stepName start)

/-- The outcome of preparing the graph of a selection: the ready graph or why there is none, what is
known about the cache, and the log. -/
def run (d : Disk) (all : RepositorySet) (selected : List String) (cache : Cache) (l : Log) :
    Except Failure Graph × Option CacheMiss × Log :=
  let (start, l) := (Log.beginStep stepName).run l
  match all.subset selected with
  | .error f => (.error f, cache.initial, l)
  | .ok repositories =>
    let (result, p) :=
      (prepare d cache start).run.run ⟨Graph.new repositories, cache.initial, l⟩
    (result.map fun _ => p.graph, p.cache, p.log)

end Preparation

end ModelForge
