import ModelForge.Graph.Snapshot
import ModelForge.Run

/-!
# Storing snapshots

The snapshot of a ready graph replaces whatever file is at its path, all of it or nothing.
-/

namespace ModelForge

namespace Cache

/-- The snapshot of a ready graph as text. -/
def textOf (d : Disk) (g : Graph) : Except Failure String :=
  if !g.isReady then .error (.notCacheable g.state)
  else (Snapshot.ofGraph d g).map Snapshot.text

/-- Stores the snapshot of a ready graph at a path. -/
def store (g : Graph) (path : Path) : Run Unit := do
  let text ← Run.orThrow (textOf (← get).disk g)
  Run.files (Files.Action.replaceFile path (Utf8.encode text))

end Cache

end ModelForge
