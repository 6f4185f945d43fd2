import ModelForge.Event.Log
import ModelForge.Files.Action
import ModelForge.Repository.Definition

/-!
# Runs

A run changes the disk and writes a log. When it fails, what it has done so far stays.
-/

namespace ModelForge

/-- What a run changes. -/
structure World where
  disk : Disk
  log : Log

/-- A step of a run. -/
abbrev Run := ExceptT Failure (StateM World)

namespace Run

/-- Writes to the log. -/
def log {α : Type} (entry : StateM Log α) : Run α := do
  let w ← get
  let (a, l) := entry.run w.log
  set { w with log := l }
  return a

/-- Does something to the disk. -/
def files {α : Type} (action : Files.Action α) : Run α := do
  let w ← get
  let (result, d) := action.run.run w.disk
  set { w with disk := d }
  match result with
  | .ok a => return a
  | .error f => throw (.file f)

/-- Takes a result, or fails. -/
def orThrow {α : Type} (result : Except Failure α) : Run α :=
  match result with
  | .ok a => pure a
  | .error f => throw f

/-- Runs a step. -/
def perform {α : Type} (step : Run α) (w : World) : Except Failure α × World := step.run.run w

end Run

end ModelForge
