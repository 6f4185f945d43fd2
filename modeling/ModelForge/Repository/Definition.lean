import ModelForge.Document.Read
import ModelForge.Files.Disk
import ModelForge.Repository.Basic
import ModelForge.Schema.Rule
import ModelForge.Text.Identifier

/-!
# Definitions of repositories

A repository is defined by a document in its directory that names it and its dependencies.
-/

namespace ModelForge

/-- A definition as written. -/
structure Definition where
  name : String
  dependencies : List String
  legal : isRepositoryName name = true
  deriving Repr

namespace Definition

/-- The form of a repository name. -/
def namePattern : String := "^[a-z][a-z0-9_-]*$"

/-- The file that holds a definition. -/
def fileName : String := "definition.yaml"

/-- Reads a definition. -/
def check : Value → Checked Definition :=
  Schema.object "RepositoryDefinition" fun entries =>
    Schema.closed ["name", "dependencies"] entries
      ((fun name dependencies => ⟨name.1, dependencies, name.2⟩)
        <$> Schema.required entries "name" (Schema.formed namePattern isRepositoryName)
        <*> Schema.member entries "dependencies" (Schema.list Schema.text) (some []))

/-- A definition as a document value. -/
def toValue (d : Definition) : Value :=
  .object [("name", .text d.name), ("dependencies", .texts d.dependencies)]

end Definition

/-- Reads a repository that has been resolved to a directory. -/
def Repository.check : Value → Checked Repository :=
  Schema.object "CodeRepository" fun entries =>
    Schema.closed ["name", "dependencies", "root"] entries
      ((fun name dependencies root => ⟨name.1, dependencies, root, name.2⟩)
        <$> Schema.required entries "name"
              (Schema.formed Definition.namePattern isRepositoryName)
        <*> Schema.member entries "dependencies"
              (fun v => (Schema.set Schema.text v).map Names.ofList) (some [])
        <*> Schema.required entries "root" Schema.path)

namespace Disk

/-- The failure of a file operation. -/
def orFail {α : Type} : Except Files.Fault α → Except Failure α
  | .ok a => .ok a
  | .error f => .error (.file f)

end Disk

namespace Repository

/-- Where the definition at a path is: the path itself, or the usual file in the directory. -/
def definitionPath (d : Disk) (p : Path) : Except Failure Path := do
  if ← Disk.orFail (d.isDirectory p) then return p.append (.ofParts [Definition.fileName])
  else return p

variable [SetOrder]

/-- Reads the definition in a document. -/
def readDefinition (p : Path) (content : Octets) : Except Failure Definition :=
  match Document.read content with
  | .error (.yaml .malformed) =>
    .error (.definition (.malformed p) (some (.yaml .malformed)))
  | .error f => .error (.ofDocument f)
  | .ok v =>
    match Definition.check v with
    | .valid definition => .ok definition
    | .invalid vs =>
      .error (.definition (.malformed p) (some (.violations "RepositoryDefinition" vs)))

/-- Loads the repository defined at a path, or in the directory at a path. -/
def load (d : Disk) (path : Path) : Except Failure Repository := do
  let p ← definitionPath d path
  if !(← Disk.orFail (d.isFile p)) then throw (.definition (.notFound p) none)
  else
    let definition ← readDefinition p (← Disk.orFail (d.read p))
    return ⟨definition.name, Names.ofList definition.dependencies, p.parent, definition.legal⟩

end Repository

end ModelForge
