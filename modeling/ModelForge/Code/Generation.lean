import ModelForge.Code.Render
import ModelForge.Graph.Basic
import ModelForge.Plan
import ModelForge.Run
import ModelForge.Text.Named

/-!
# Generation of code

Each unit of a plan becomes a group of modules, one for each package that the unit has elements in.
Groups with elements of the external interface can be marked, so that they compile into a package of
their own.
-/

namespace ModelForge

/-- The modules of a group by name: their texts. -/
abbrev ModuleTexts := List (String × String)

/-- Generated code. -/
structure Generation where
  type : GenerationType
  groups : List (String × ModuleTexts)
  /-- The groups that compile into the external package. -/
  externalizable : List String
  externalPackage : Option String
  deriving DecidableEq, Repr

namespace Generation

/-- The number of modules. -/
def moduleCount (g : Generation) : Nat := (g.groups.flatMap Prod.snd).length

/-- Whether a group compiles into the external package. -/
def isExternalizable (g : Generation) (group : String) : Bool := g.externalizable.contains group

/-- Reads generated code. -/
def check : Value → Checked Generation :=
  Schema.object "GenerationResult" fun entries =>
    Schema.closed
      ["generation_type", "sources_by_group", "externalizable_groups", "external_api_package"]
      entries
      (Generation.mk
        <$> Schema.required entries "generation_type" (Schema.named GenerationType.names)
        <*> Schema.member entries "sources_by_group" (Schema.map (Schema.map Schema.text))
              (some [])
        <*> Schema.member entries "externalizable_groups" (Schema.set Schema.text) (some [])
        <*> Schema.member entries "external_api_package" (Schema.optional Schema.text)
              (some none))

end Generation

namespace Code

/-- The packages of elements, ascending. -/
def packages (elements : List Element) : List String := Names.ofList (elements.map Element.package)

/-- Where the modules of a unit are said to come from. -/
def origin (u : OutputUnit) : String :=
  match u.repository with
  | none => "all repositories"
  | some name => if name.isEmpty then "all repositories" else "repository " ++ name

/-- The modules of a unit: one for each package. -/
def modulesOf (u : OutputUnit) (elements : List Element) : ModuleTexts :=
  Named.ofList ((packages elements).map fun package =>
    (moduleName package,
     renderModule (origin u) (elements.filter fun e => e.package == package)))

/-- How groups of the external interface are treated: in which package, if they are to be marked. -/
abbrev ExternalPackage := Option String

/-- The code of a graph for the units of a plan. -/
def ofPlan (g : Graph) (plan : Plan) (external : ExternalPackage) : Generation where
  type := plan.type
  groups := Named.ofList (plan.units.map fun u => (u.name, modulesOf u (g.elementsOf u.repository)))
  externalizable :=
    if external.isSome then
      (plan.units.filter fun u =>
        (g.elementsOf u.repository).any Element.isExternalizable).map OutputUnit.name
    else []
  externalPackage := external

/-- Generates the code of a graph, which must be ready. -/
def generate (g : Graph) (plan : Plan) (external : ExternalPackage) : Except Failure Generation :=
  if g.isReady then .ok (ofPlan g plan external) else .error (.graphNotReady g.state)

/-- The file of a module below the directory of generated code. -/
def sourcePath (directory : Path) (group name : String) : Path :=
  (directory.child group).append (modulePath name)

/-- Writes the text of a module. -/
def writeSource (path : Path) (text : String) : Run Path := do
  Run.files do
    Files.Action.makeDirectories path.parent
    Files.Action.write path (Utf8.encode text)
  return path

/-- Writes all modules below a directory, group by group, and gives their files. -/
def writeSources (code : Generation) (directory : Path) : Run (List Path) := do
  let written ← code.groups.mapM fun (group, modules) =>
    modules.mapM fun (name, text) => writeSource (sourcePath directory group name) text
  return written.flatten

/-- The name of the step. -/
def generationStep : String := "code generation"

/-- Generates code and writes it to a directory, if there is one. -/
def generateInto (g : Graph) (plan : Plan) (external : ExternalPackage)
    (directory : Option Path) : Run Generation := do
  let code ← Run.orThrow (generate g plan external)
  match directory with
  | none => return code
  | some directory =>
    let _ ← writeSources code directory
    return code

/-- Generates code as a step of a run. -/
def generateStep (g : Graph) (plan : Plan) (external : ExternalPackage)
    (directory : Option Path) : Run Generation := do
  let start ← Run.log (Log.beginStep generationStep)
  let code ← generateInto g plan external directory
  Run.log (Log.info
    s!"    Generated {code.moduleCount} modules in {code.groups.length} group(s)"
    (some generationStep))
  let _ ← Run.log (Log.completeStep generationStep start)
  return code

end Code

end ModelForge
