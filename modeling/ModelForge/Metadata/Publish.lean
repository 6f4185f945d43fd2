import ModelForge.Metadata.Unit
import ModelForge.Run

/-!
# Publishing metadata

The units of a plan are written one after the other, each through a staging directory. The first
one that fails ends the run; units written before stay as they are.
-/

namespace ModelForge

namespace Metadata

/-- The name of the step. -/
def stepName : String := "writing distributed metadata"

/-- Writes a unit into a directory. -/
def publishUnit (g : Graph) (u : OutputUnit) (directory stagingRoot : Path) : Run Unit := do
  let files ← Run.orThrow (serialize g u)
  Run.files (Files.Action.publish stagingRoot directory files.inOrder)

/-- The directory of a unit. -/
def unitDirectory (destination : Path) (u : OutputUnit) : Path :=
  match u.repository with
  | none => destination
  | some name => if name.isEmpty then destination else destination.child name

/-- Whether a failure is reported as that of the unit: one of the file tree or of the graph. -/
def isUnitFailure : Failure → Bool
  | .file _ | .graphNotReady _ => true
  | _ => false

/-- Writes a unit; a failure names it. -/
def publishNamed (g : Graph) (u : OutputUnit) (destination : Path) : Run Unit :=
  tryCatch (publishUnit g u (unitDirectory destination u) destination) fun f =>
    if isUnitFailure f then throw (.serialization u.name (some f.message) (some f)) else throw f

/-- Writes a unit as a step of a modular run. -/
def publishStep (g : Graph) (modular : Bool) (destination : Path) (u : OutputUnit) : Run Path := do
  if modular then
    let step := stepName ++ " for " ++ u.name
    let start ← Run.log (Log.beginStep step)
    publishNamed g u destination
    let _ ← Run.log (Log.completeStep step start)
  else publishNamed g u destination
  return unitDirectory destination u

/-- Writes the units of a plan and gives their directories. -/
def publish (g : Graph) (plan : Plan) (destination : Path) : Run (List Path) := do
  let start ← Run.log (Log.beginStep stepName)
  let written ← plan.units.mapM (publishStep g plan.isModular destination)
  let _ ← Run.log (Log.completeStep stepName start)
  return written

end Metadata

end ModelForge
