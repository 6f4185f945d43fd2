import ModelForge.Failure
import ModelForge.Schema.Rule

/-!
# Plans

A run writes one unit for the whole graph, or one unit for each selected repository. Metadata and
generated code follow the same plan.
-/

namespace ModelForge

/-- How output is divided. -/
inductive GenerationType where
  | monolithic
  | modular
  deriving DecidableEq, Repr

/-- The name of a generation type. -/
def GenerationType.name : GenerationType → String
  | .monolithic => "monolithic"
  | .modular => "modular"

/-- The generation types by name. -/
def GenerationType.names : List (String × GenerationType) :=
  [.monolithic, .modular].map fun t => (t.name, t)

/-- One unit of output: its name, and the repository it covers or none for the whole graph. -/
structure OutputUnit where
  name : String
  repository : Option String
  deriving DecidableEq, Repr

/-- The units of a run. -/
structure Plan where
  type : GenerationType
  units : List OutputUnit
  deriving DecidableEq, Repr

namespace OutputUnit

/-- A unit; its name must not be empty. -/
def make (name : String) (repository : Option String) : Except Failure OutputUnit :=
  if name.isEmpty then
    .error (.violations "GenerationUnit" [⟨["name"], .textTooShort 1⟩])
  else .ok ⟨name, repository⟩

/-- Reads a unit. -/
def check : Value → Checked OutputUnit :=
  Schema.object "GenerationUnit" fun entries =>
    Schema.closed ["name", "repository"] entries
      (OutputUnit.mk
        <$> Schema.required entries "name" Schema.someText
        <*> Schema.member entries "repository" (Schema.optional Schema.text) (some none))

end OutputUnit

namespace Plan

/-- The name of the unit that covers the whole graph. -/
def wholeName : String := "monolithic"

/-- Whether there is a unit for each repository. -/
def isModular (p : Plan) : Bool := p.type == .modular

/-- The plan for a selection. -/
def build (type : GenerationType) (selected : List String) : Except Failure Plan :=
  match type with
  | .monolithic => .ok ⟨.monolithic, [⟨wholeName, none⟩]⟩
  | .modular => do
    return ⟨.modular, ← selected.mapM fun name => OutputUnit.make name (some name)⟩

/-- The plan for a generation type given by name. -/
def ofName (type : String) (selected : List String) : Except Failure Plan :=
  match GenerationType.names.lookup type with
  | some type => build type selected
  | none => .error (.unhandledType type)

end Plan

end ModelForge
