import ModelForge.Files.Disk

/-!
# Actions on a disk

An action changes a disk step by step; what was done before a failure stays. `replaceFile` puts new
content under a name without ever leaving part of it there: the content is written beside the target
and moved over it, and what was written is removed if that fails.
-/

namespace ModelForge

namespace Files

/-- An action on a disk. -/
abbrev Action := ExceptT Fault (StateM Disk)

namespace Action

/-- An operation as an action. -/
def ofOperation (operation : Disk → Except Fault Disk) : Action Unit := do
  match operation (← get) with
  | .ok d => set d
  | .error f => throw f

/-- Makes a directory and those above it that are missing. -/
def makeDirectories (p : Path) : Action Unit := do
  let (fault, d) := (← get).makeDirectories p.root p.parts
  set d
  match fault with
  | none => return ()
  | some f => throw f

/-- Makes a directory. -/
def makeDirectory (p : Path) : Action Unit := ofOperation fun d => d.makeDirectory p

/-- Makes a new empty file. -/
def createFile (p : Path) : Action Unit := ofOperation fun d => d.createFile p

/-- Writes the content of a file. -/
def write (p : Path) (content : Octets) : Action Unit := ofOperation fun d => d.write p content

/-- Moves a file. -/
def move (source target : Path) : Action Unit := ofOperation fun d => d.move source target

/-- Removes a file, if it is there. -/
def removeFile (p : Path) : Action Unit := modify fun d => d.removeFile p

/-- Removes a directory with everything below it. -/
def removeTree (p : Path) : Action Unit := modify fun d => d.removeTree p

/-- The location of a directory that is there. -/
def locate (p : Path) : Action Location := do
  match (← get).locateFor p with
  | .ok l => return l
  | .error f => throw f

/-- The name of a file beside a target, for its new content. -/
def besideName (target token : String) : String := "." ++ target ++ "." ++ token ++ ".tmp"

/-- Puts new content under a name: all of it or nothing. -/
def replaceFile (target : Path) (content : Octets) : Action Unit := do
  makeDirectories target.parent
  let l ← locate target.parent
  let beside : Path := ⟨.slash, l ++ [(← get).freshName l (besideName target.name)]⟩
  createFile beside
  tryCatch (do write beside content; move beside target) fun f => do
    removeFile beside
    throw f

/-- The name of a directory in which files are written before they are put into place. -/
def stagingName (token : String) : String := ".metadata-staging-" ++ token

/-- Makes a new directory for staging. -/
def makeStaging (root : Path) : Action Path := do
  let l ← locate root
  let staging := root.append (.ofParts [(← get).freshName l stagingName])
  makeDirectory staging
  return staging

/-- Writes files into a directory. -/
def writeAll (directory : Path) (files : List (String × Octets)) : Action Unit :=
  files.forM fun (name, content) => write (directory.append (.ofParts [name])) content

/-- Moves files of one directory into another, in order. -/
def moveAll (source target : Path) (names : List String) : Action Unit :=
  names.forM fun name =>
    move (source.append (.ofParts [name])) (target.append (.ofParts [name]))

/-- Publishes files in a directory: they are all written to a staging directory first and then moved
into place in the given order. The staging directory is removed in any case. -/
def publish (stagingRoot directory : Path) (files : List (String × Octets)) : Action Unit := do
  makeDirectories stagingRoot
  let staging ← makeStaging stagingRoot
  let work : Action Unit := do
    writeAll staging files
    makeDirectories directory
    moveAll staging directory (files.map Prod.fst)
  tryCatch work fun f => do
    removeTree staging
    throw f
  removeTree staging

end Action

end Files

end ModelForge
