import ModelForge.Repository.Definition
import ModelForge.Repository.Platform

/-!
# Discovery of repositories

Repositories come from three places, in this order: the bundle, the entry points of installed
packages, and the descriptors given by the caller. A descriptor names a resource of a package, or
else a path.
-/

namespace ModelForge

/-- A repository advertised by an installed package: its name and the path of its definition. -/
structure EntryPoint where
  name : String
  target : String
  deriving DecidableEq, Repr

/-- What a run finds around it. -/
structure Surroundings where
  /-- The directory of the bundle. -/
  bundle : Path
  entryPoints : List EntryPoint
  /-- The packages that can be looked up, with their directories. Every part of the name of such a
  package is an identifier. -/
  packages : List (String × Path)

namespace Surroundings

/-- The packages that come with the library. -/
def ownPackages (bundle : Path) : List (String × Path) :=
  [("pure_compiled", bundle.parent), ("pure_compiled.repositories", bundle)]

end Surroundings

/-- Which places repositories are taken from. -/
structure Discovery where
  bundled : Bool
  entryPoints : Bool
  deriving DecidableEq, Repr

namespace Discovery

/-- Every place where repositories can be found. -/
def everywhere : Discovery := ⟨true, true⟩

/-- The package and the resource that a descriptor names. -/
def splitDescriptor (descriptor : String) : Option (String × String) :=
  let cs := descriptor.toList
  let package := cs.takeWhile (· ≠ ':')
  match cs.dropWhile (· ≠ ':') with
  | [] => none
  | _ :: resource => some (String.ofList package, String.ofList resource)

/-- The path of the resource that a descriptor names, if there is such a resource. -/
def resource? (s : Surroundings) (d : Disk) (descriptor : String) :
    Except Failure (Option Path) := do
  match splitDescriptor descriptor with
  | none => return none
  | some (package, resource) =>
    match s.packages.lookup package with
    | none => return none
    | some root =>
      let p := root.child resource
      if ← Disk.orFail (d.isFile p) then return some p
      else if ← Disk.orFail (d.isDirectory p) then return some p
      else return none

variable [SetOrder]

/-- Loads the repository that a descriptor names. -/
def resolve (s : Surroundings) (d : Disk) (descriptor : String) : Except Failure Repository := do
  let resource ← resource? s d descriptor
  match Repository.load d (resource.getD (Path.ofString descriptor)) with
  | .ok r => return r
  | .error (.definition fault cause) =>
    throw (.definition (.extra descriptor resource) (some (.definition fault cause)))
  | .error f => throw f

/-- The bundled repositories. -/
def bundledRepositories (s : Surroundings) (d : Disk) : Except Failure (List Repository) := do
  return [← Repository.load d (s.bundle.child Repository.coreName)]

/-- The entry points in the order they are loaded. -/
def loadOrder (points : List EntryPoint) : List EntryPoint :=
  points.mergeSort fun a b => decide (a.name ≤ b.name)

/-- The repositories that entry points advertise. -/
def advertised (s : Surroundings) (d : Disk) : Except Failure (List Repository) :=
  (loadOrder s.entryPoints).mapM fun point => Repository.load d (Path.ofString point.target)

/-- The set of all repositories of a run. -/
def discover (places : Discovery) (s : Surroundings) (d : Disk) (extra : List String) :
    Except Failure RepositorySet := do
  let bundled ← if places.bundled then bundledRepositories s d else pure []
  let advertised ← if places.entryPoints then advertised s d else pure []
  let extra ← extra.mapM (resolve s d)
  match RepositorySet.ofList? (bundled ++ advertised ++ extra) with
  | .ok repositories => return repositories
  | .error f => throw (.definition f none)

end Discovery

end ModelForge
