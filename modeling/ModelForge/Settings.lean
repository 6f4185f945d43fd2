import ModelForge.Plan
import ModelForge.Schema.Rule
import ModelForge.Text.Identifier
import ModelForge.Text.Names

/-!
# Settings of a run

The settings say which repositories a run works on, what it makes of them and where it puts the
results. `Settings.layout` resolves the directories: metadata goes to a directory of its own below
the target, or beside the compiled modules if everything shares one directory.
-/

namespace ModelForge

/-- The settings of a run. -/
structure Settings where
  /-- The requested repositories, ascending; none means all. -/
  repositories : List String
  /-- The repositories left out, ascending. -/
  excluded : List String
  /-- Descriptors of further repositories. -/
  extra : List String
  type : GenerationType
  /-- Whether the run does nothing at all. -/
  skip : Bool
  /-- Whether groups of the external interface compile into a package of their own. -/
  addExternal : Bool
  externalPackage : String
  metadata : Bool
  /-- Whether metadata is put beside the compiled modules. -/
  singleDirectory : Bool
  /-- Whether generated code is written too. -/
  sources : Bool
  /-- Whether generated code is that of tests. -/
  test : Bool
  /-- Whether generated code is left uncompiled. -/
  preventCompilation : Bool
  classes : Path
  target : Path
  /-- The file of a snapshot to start from. -/
  cache : Option Path
  deriving DecidableEq, Repr

/-- Where the results of a run go. -/
structure Layout where
  classes : Path
  metadata : Option Path
  sources : Option Path
  deriving DecidableEq, Repr

namespace Settings

/-- The name of the directory of metadata below the target. -/
def metadataName : String := "metadata-distributed"

/-- The name of the directory of generated code below the target. -/
def sourcesName : String := "generated-sources"

/-- The name of the directory of generated code of tests below the target. -/
def testSourcesName : String := "generated-test-sources"

/-- The directory of metadata, if there is metadata. -/
def metadataDirectory (s : Settings) : Option Path :=
  if !s.metadata then none
  else if s.singleDirectory then some s.classes
  else some (s.target.append (.ofParts [metadataName]))

/-- The directory of generated code, if it is written. -/
def sourcesDirectory (s : Settings) : Option Path :=
  if s.sources then
    some (s.target.append (.ofParts [if s.test then testSourcesName else sourcesName]))
  else none

/-- The directories of a run. -/
def layout (s : Settings) : Layout := ⟨s.classes, s.metadataDirectory, s.sourcesDirectory⟩

/-- The external package, if groups are to compile into it. -/
def external (s : Settings) : Option String :=
  if s.addExternal then some s.externalPackage else none

/-- Whether a text is a dotted package name; one line end may follow it. -/
def isExternalPackage (text : String) : Bool :=
  let cs := text.toList
  isDottedName (if cs.getLast? = some '\n' then cs.dropLast else cs)

/-- Refuses settings that ask for an external package without a proper name for it. -/
def checkExternal (s : Settings) : Checked Settings :=
  if s.addExternal && !isExternalPackage s.externalPackage then
    .violation (.rule ("external_api_package must be a dotted package name when " ++
      "add_external_api is set, got '" ++ s.externalPackage ++ "'"))
  else .valid s

/-- A set of names that may be left out. -/
def nameSet (entries : List (Value × Value)) (name : String) : Checked (List String) :=
  Schema.member entries name (fun v => (Schema.set Schema.text v).map Names.ofList) (some [])

/-- A switch that may be left out. -/
def switch (entries : List (Value × Value)) (name : String) (fallback : Bool) : Checked Bool :=
  Schema.member entries name Schema.boolean (some fallback)

/-- The names of all settings. -/
def memberNames : List String :=
  ["repositories", "excluded_repositories", "extra_repositories", "generation_type", "skip",
   "add_external_api", "external_api_package", "generate_metadata", "use_single_dir",
   "generate_sources", "generate_test", "prevent_compilation", "classes_directory",
   "target_directory", "cache_path"]

/-- Reads settings member by member. -/
def ofEntries (entries : List (Value × Value)) : Checked Settings :=
  Settings.mk
    <$> nameSet entries "repositories"
    <*> nameSet entries "excluded_repositories"
    <*> Schema.member entries "extra_repositories" (Schema.list Schema.text) (some [])
    <*> Schema.member entries "generation_type" (Schema.named GenerationType.names)
          (some .modular)
    <*> switch entries "skip" false
    <*> switch entries "add_external_api" false
    <*> Schema.member entries "external_api_package" Schema.text (some "")
    <*> switch entries "generate_metadata" true
    <*> switch entries "use_single_dir" false
    <*> switch entries "generate_sources" false
    <*> switch entries "generate_test" false
    <*> switch entries "prevent_compilation" false
    <*> Schema.required entries "classes_directory" Schema.path
    <*> Schema.required entries "target_directory" Schema.path
    <*> Schema.member entries "cache_path" (Schema.optional Schema.path) (some none)

/-- Reads settings. -/
def check : Value → Checked Settings :=
  Schema.object "GenerationConfig" fun entries =>
    (Schema.closed memberNames entries (ofEntries entries)).andThen checkExternal

/-- Settings as a document value, with everything that could be left out. -/
def toValue (s : Settings) : Value :=
  .object [("repositories", .texts s.repositories), ("excluded_repositories", .texts s.excluded),
    ("extra_repositories", .texts s.extra), ("generation_type", .text s.type.name),
    ("skip", .bool s.skip), ("add_external_api", .bool s.addExternal),
    ("external_api_package", .text s.externalPackage), ("generate_metadata", .bool s.metadata),
    ("use_single_dir", .bool s.singleDirectory), ("generate_sources", .bool s.sources),
    ("generate_test", .bool s.test), ("prevent_compilation", .bool s.preventCompilation),
    ("classes_directory", .text s.classes.text), ("target_directory", .text s.target.text),
    ("cache_path", .textOrNull (s.cache.map Path.text))]

end Settings

end ModelForge
