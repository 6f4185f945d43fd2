import ModelForge.Code.Compiler
import ModelForge.Code.Generation

/-!
# Compilation of generated code

All modules are compiled before anything is reported, so that every broken module is named. Each
module has a full name under the package of its group, and no two may share one. Packages that lie
above a module and are no modules themselves are added. A file whose name holds a null character
ends everything at once.
-/

namespace ModelForge

/-- A compiled module: its full name, the group it belongs to unless it is an added package, and its
bytecode. -/
structure CompiledModule where
  name : String
  group : Option String
  bytecode : Octets
  deriving DecidableEq, Repr

/-- A compiled module; its name must not be empty. -/
def CompiledModule.make (name : String) (group : Option String) (bytecode : Octets) :
    Except Failure CompiledModule :=
  if name.isEmpty then
    .error (.violations "CompiledModule" [⟨["name"], .textTooShort 1⟩])
  else .ok ⟨name, group, bytecode⟩

namespace Code

/-- The package of modules that are not part of the external interface. -/
def generatedPackage : String := "pure_generated"

/-- The package that the modules of a group compile into. -/
def groupRoot (code : Generation) (group : String) : String :=
  match code.externalPackage with
  | some package =>
    if code.isExternalizable group && !package.isEmpty then package ++ "." ++ groupPackage group
    else generatedPackage ++ "." ++ groupPackage group
  | none => generatedPackage ++ "." ++ groupPackage group

/-- A module to be compiled: its group, its file below all groups, its full name and its text. -/
structure Job where
  group : String
  file : String
  name : String
  text : String
  deriving DecidableEq, Repr

/-- The file of a module of a group. -/
def jobFile (group name : String) : String := group ++ "/" ++ (modulePath name).text

/-- The modules to be compiled, group by group. -/
def jobs (code : Generation) : List Job :=
  code.groups.flatMap fun (group, modules) =>
    modules.map fun (name, text) =>
      ⟨group, jobFile group name, groupRoot code group ++ "." ++ name, text⟩

/-- The diagnostic of a module whose name another group has taken. -/
def collision (job : Job) (other : String) : Diagnostic :=
  ⟨job.group, job.name, none, none, "module also generated by group '" ++ other ++ "'"⟩

/-- The diagnostic of a module whose text is complained of. -/
def brokenText (job : Job) (c : Complaint) : Diagnostic :=
  ⟨job.group, job.name, c.line, c.column, c.message⟩

/-- Names the file of a text that is about to be compiled; no file has a null character in its
name. -/
def nameFile (file : String) : Except Failure Unit :=
  if file.toList.contains '\x00' then .error (.outside .value "embedded null character" none)
  else .ok ()

variable [Compiler]

/-- Compiles modules one after the other: those that compiled, in order, and the diagnostics. -/
def compileJobs (compiled : List Job) : List Job → Except Failure (List Job × List Diagnostic)
  | [] => .ok (compiled, [])
  | job :: rest =>
    match compiled.find? fun c => c.name == job.name with
    | some other => do
      let (out, ds) ← compileJobs compiled rest
      return (out, collision job other.group :: ds)
    | none => do
      nameFile job.file
      match ← Compiler.check job.file job.text with
      | some c =>
        let (out, ds) ← compileJobs compiled rest
        return (out, brokenText job c :: ds)
      | none => compileJobs (compiled ++ [job]) rest

/-- The dotted names above a dotted name. -/
def ancestors (name : String) : List String :=
  let parts := nameParts name
  (List.range parts.length).filterMap fun k =>
    if k = 0 then none else some (String.intercalate "." (parts.take k))

/-- The packages above modules that are no modules themselves, ascending. -/
def addedPackages (names : List String) : List String :=
  Names.ofList ((names.flatMap ancestors).filter fun a => !names.contains a)

/-- The file of an added package. -/
def packageFile (name : String) : String := name ++ "/__init__.py"

/-- Compiles an added package. It is empty, and nothing is wrong with an empty text. -/
def compilePackage (name : String) : Except Failure CompiledModule := do
  nameFile (packageFile name)
  CompiledModule.make name none (Compiler.bytecode (packageFile name) "")

/-- The compiled module of a job. -/
def Job.compiled (job : Job) : CompiledModule :=
  ⟨job.name, some job.group, Compiler.bytecode job.file job.text⟩

/-- The modules of compiled code, ascending by name, with the packages above them. -/
def withPackages (compiled : List Job) : Except Failure (List CompiledModule) := do
  let packages ← (addedPackages (compiled.map Job.name)).mapM compilePackage
  return (compiled.map Job.compiled ++ packages).mergeSort fun a b => decide (a.name ≤ b.name)

/-- Compiles generated code. -/
def compile (code : Generation) : Except Failure (List CompiledModule) := do
  match ← compileJobs [] (jobs code) with
  | (compiled, []) => withPackages compiled
  | (_, diagnostics) => .error (.compilation diagnostics)

/-- The mark that the file of a compiled module starts with. -/
def magic : Octets := [0xa7, 0x0d, 0x0d, 0x0a]

/-- The file of a compiled module: the mark, flags and two unused words, and the code. -/
def artifact (code : Octets) : Octets := magic ++ List.replicate 12 0 ++ code

/-- The content of the file of a module. -/
def CompiledModule.artifact (m : CompiledModule) : Octets := Code.artifact m.bytecode

/-- Writes the file of a module below a directory, all of it or nothing. -/
def writeModule (directory : Path) (m : CompiledModule) : Run Path := do
  let target := directory.append (artifactPath m.name)
  Run.files (Files.Action.replaceFile target (CompiledModule.artifact m))
  return target

/-- Writes the files of modules below a directory. -/
def writeModules (directory : Path) (modules : List CompiledModule) : Run (List Path) :=
  modules.mapM (writeModule directory)

/-- The name of the compiling step. -/
def compileStepName : String := "code compilation"

/-- The name of the writing step. -/
def writeStepName : String := "writing compiled classes"

/-- Compiles generated code and writes it below a directory, as two steps of a run. -/
def compileStep (code : Generation) (directory : Path) : Run (List Path) := do
  let start ← Run.log (Log.beginStep compileStepName)
  let modules ← Run.orThrow (compile code)
  let _ ← Run.log (Log.completeStep compileStepName start)
  let start ← Run.log (Log.beginStep writeStepName)
  let written ← writeModules directory modules
  Run.log (Log.info s!"    Wrote {written.length} compiled modules to {directory}" none)
  let _ ← Run.log (Log.completeStep writeStepName start)
  return written

end Code

end ModelForge
