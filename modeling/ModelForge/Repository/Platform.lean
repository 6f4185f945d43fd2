import ModelForge.Files.Disk
import ModelForge.Repository.Basic

/-!
# The bundled repository

The repository that comes with the library declares the elements that every model builds on.
-/

namespace ModelForge

namespace Platform

/-- The definition of the bundled repository. -/
def definition : String :=
  "name: platform\ndependencies: []\n"

/-- The source file that declares the root classes. -/
def metamodel : String :=
  "package: meta::pure::metamodel::type\n" ++
  "elements:\n" ++
  "  - kind: class\n" ++
  "    name: Any\n" ++
  "  - kind: class\n" ++
  "    name: ElementWithStereotypes\n" ++
  "    extends: [meta::pure::metamodel::type::Any]\n" ++
  "    properties:\n" ++
  "      - name: stereotypes\n" ++
  "        type: String\n" ++
  "        multiplicity: \"*\"\n"

/-- The source file that declares the enumerations that functions use. -/
def functions : String :=
  "package: meta::pure::functions::date\n" ++
  "elements:\n" ++
  "  - kind: enumeration\n" ++
  "    name: DurationUnit\n" ++
  "    values: [YEARS, MONTHS, WEEKS, DAYS, HOURS, MINUTES, SECONDS, MILLISECONDS]\n"

/-- The files of the bundled repository, by their names below its directory. -/
def files : List (List String × String) :=
  [(["definition.yaml"], definition),
   (["meta", "pure", "metamodel.pure.yaml"], metamodel),
   (["meta", "pure", "functions.pure.yaml"], functions)]

/-- The directories of the bundled repository, below its directory. -/
def directories : List (List String) := [[], ["meta"], ["meta", "pure"]]

/-- Puts the bundled repository into a directory of a disk. -/
def install (d : Disk) (bundle : Files.Location) : Disk :=
  let base := bundle ++ [Repository.coreName]
  let d := d.withDirectory bundle
  let d := directories.foldl (fun d names => d.put (base ++ names) .directory) d
  files.foldl (fun d (names, text) => d.put (base ++ names) (.file (Utf8.encode text))) d

end Platform

end ModelForge
