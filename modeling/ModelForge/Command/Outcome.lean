import ModelForge.Command.Markup
import ModelForge.Command.Request
import ModelForge.Graph.Store
import ModelForge.Pipeline

/-!
# Outcomes of commands

Carrying out a request shows lines and tables and ends with an exit code. A failure is shown as one
message; the exit code tells whether a stage failed, or settings or the file system did. Lines are
written in markup, so that names with tags in them are shown without those; a line that is no markup
ends the program.
-/

namespace ModelForge

namespace Failure

/-- The message of a failure; that of the pipeline names what led to it. -/
def description : Failure → String
  | pipeline text _ (some cause) => text ++ ": " ++ cause.message
  | f => f.message

/-- Whether a failure is one of settings or of the file system. -/
def isOfSystem : Failure → Bool
  | violations _ _ | file (.failed _ _ _) => true
  | outside kind _ _ => kind.isOfSystem
  | _ => false

/-- What is shown of a failure. -/
def shown : Failure → String
  | outside .permission _ path => "Permission denied: " ++ path.getD Value.null.literal
  | f => f.description

/-- The exit code after a failure. -/
def exitCode (f : Failure) : Nat := if f.isOfSystem then 2 else 1

/-- A failure as that of a command. -/
def ofCommand (f : Failure) : Failure := .command f.shown f.exitCode (some f)

end Failure

/-- What a command shows: lines in markup, or tables. -/
inductive Shown where
  | line (markup : String)
  | table (title : String) (columns : List String) (rows : List (List String))
  deriving DecidableEq, Repr

/-- What appears of something shown. -/
def Shown.rendered : Shown → Except Markup.Fault Shown
  | .line markup => .line <$> Markup.shown markup
  | .table title columns rows => .ok (.table title columns rows)

/-- How a command ends. -/
structure Outcome where
  exitCode : Nat
  shown : List Shown
  /-- What is written apart from what is shown. -/
  written : String
  failure : Option Failure

namespace Command

/-- The name of the program. -/
def programName : String := "pure-compiled"

/-- The version of the program. -/
def version : String := "0.1.0"

/-- A message about success. -/
def success (text : String) : Shown := .line ("[green]✓[/green] " ++ text)

/-- A message about a failure. -/
def error (text : String) : Shown := .line ("[red]✗[/red] " ++ text)

/-- A warning. -/
def warning (text : String) : Shown := .line ("[yellow]⚠[/yellow] " ++ text)

/-- The row of a repository in the list. -/
def row (r : Repository) : List String :=
  let dependencies := String.intercalate ", " r.dependencies
  [r.name, if dependencies.isEmpty then "-" else dependencies, r.root.text]

variable [SetOrder] [Code.Compiler]

/-- Lists all repositories in dependency order. -/
def list (around : Surroundings) (extra : List String) : Run (List Shown) := do
  let all ← Run.orThrow (Discovery.everywhere.discover around (← get).disk extra)
  let ordered ← Run.orThrow all.dependencyOrder
  return [.table "Repositories" ["Name", "Dependencies", "Root"] (ordered.map row),
    .line s!"{ordered.length} repositories"]

/-- Compiles a selection from its sources and stores the snapshot. -/
def buildCache (around : Surroundings) (output : Path)
    (repositories excluded extra : List String) : Run (List Shown) := do
  let all ← Run.orThrow (Discovery.everywhere.discover around (← get).disk extra)
  let selected ← Run.orThrow (all.select repositories excluded)
  let g ← Pipeline.prepare all selected .none
  Cache.store g output
  return [success s!"Cached {g.size} elements from {g.repositories.size} repositories",
    success s!"Wrote {output}"]

/-- Nanoseconds as seconds with three places. -/
def timeText (nanoseconds : Nat) : String :=
  let thousandths := (nanoseconds + 500000) / 1000000
  toString (thousandths / 1000) ++ "." ++ Log.padded 3 (thousandths % 1000) ++ "s"

/-- What is shown of a finished run. -/
def summaryLines (s : Settings) (summary : Summary) : List Shown :=
  if summary.skipped then [.line "Skipped"]
  else
    [.line ("Repositories: " ++ String.intercalate ", " summary.selected)] ++
    summary.units.map (fun unit => .line s!"  metadata: {unit}") ++
    summary.generation.toList.map
      (fun code => .line s!"  generated modules: {code.moduleCount}") ++
    [if s.preventCompilation then .line "  compilation: skipped"
      else .line s!"  compiled modules: {summary.compiled.length} in {s.classes}",
     success ("Built compiled artifacts in " ++ timeText summary.nanoseconds)]

/-- Runs the pipeline. -/
def generate (around : Surroundings) (s : Settings) : Run (List Shown) := do
  match s.checkExternal with
  | .invalid vs => throw (.violations "GenerationConfig" vs)
  | .valid s => return summaryLines s (← Pipeline.run s .everywhere around)

/-- What is shown before anything is done. -/
def warnings (s : Settings) : List Shown :=
  if s.test && !s.sources then [warning "--test has no effect without --generate-sources"] else []

/-- Carries out a step and tells how it ended, after what has been shown before. -/
def finish (before : List Shown) (step : Run (List Shown)) (w : World) : Outcome × World :=
  match Run.perform step w with
  | (.ok shown, w) => (⟨0, before ++ shown, "", none⟩, w)
  | (.error f, w) =>
    (⟨f.exitCode, before ++ [error f.shown], "", some f.ofCommand⟩, w)

/-- How the program is used. -/
def helpText : String :=
  "Usage: " ++ programName ++ " [OPTIONS] COMMAND [ARGS]...\n"

/-- Carries out a request; what is shown of it is still markup. -/
def carryOut (around : Surroundings) : Request → World → Outcome × World
  | .version, w => (⟨0, [], programName ++ ", version " ++ version ++ "\n", none⟩, w)
  | .help, w => (⟨0, [], helpText, none⟩, w)
  | .repositories extra, w => finish [] (list around extra) w
  | .generate s, w => finish (warnings s) (generate around s) w
  | .buildCache output repositories excluded extra, w =>
    finish [] (buildCache around output repositories excluded extra) w

/-- Carries out a request and shows what it has to show, which must be well-formed markup. -/
def perform (around : Surroundings) (request : Request) (w : World) :
    Except Markup.Fault Outcome × World :=
  let (outcome, w) := carryOut around request w
  ((outcome.shown.mapM Shown.rendered).map fun shown => { outcome with shown := shown }, w)

end Command

end ModelForge
