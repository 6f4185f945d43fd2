import ModelForge.Command.Outcome
import ModelForge.Command.Table

/-!
# The command line

The files below the working directory and at absolute paths among the arguments are taken into a
disk. A command is carried out on that disk, what it shows is printed, and what it has changed is
written back.
-/

namespace ModelForge

namespace CommandLine

open Files

/-- The location that the text of an absolute path leads to. -/
def location (path : String) : Location := (Path.ofString path).parts

/-- The text of the absolute path of a location. -/
def pathText (l : Location) : String := (Path.mk .slash l).text

/-- Takes what stands at a location into a disk, with everything below it. -/
partial def take (d : Disk) (l : Location) : IO Disk := do
  match ← (IO.FS.realPath (pathText l)).toBaseIO with
  | .error _ => return d
  | .ok path =>
    if ← path.isDir then
      let mut d := d.withDirectory l
      for child in ← path.readDir do
        d ← take d (l ++ [child.fileName])
      return d
    else return (d.withDirectory l.dropLast).put l (.file (← IO.FS.readBinFile path).toList)

/-- The disk before a command: the working directory, absolute paths among the arguments, and the
bundle. -/
def load (here bundle : Location) (arguments : List String) : IO Disk := do
  let mut d : Disk := ⟨here, []⟩
  for l in here :: (arguments.filter fun a => a.startsWith "/").map location do
    d ← take d l
  return Platform.install d bundle

/-- Removes what a command has removed, what lies deepest first. -/
def removeAll (before after : Disk) : IO Unit := do
  let gone := before.entries.filter fun (l, _) => (after.entry? l).isNone
  for (l, e) in gone.mergeSort fun a b => decide (b.1.length ≤ a.1.length) do
    match e with
    | .file _ => IO.FS.removeFile (pathText l)
    | .directory => IO.FS.removeDir (pathText l)

/-- Writes what a command has written, directories first. -/
def writeAll (before after : Disk) : IO Unit := do
  let fresh := after.entries.filter fun (l, e) => before.entry? l ≠ some e
  for (l, e) in fresh.mergeSort fun a b => decide (a.1.length ≤ b.1.length) do
    match e with
    | .file content => IO.FS.writeBinFile (pathText l) (ByteArray.mk content.toArray)
    | .directory => IO.FS.createDirAll (pathText l)

/-- Prints what a command shows. -/
def print : Shown → IO Unit
  | .line text => IO.println text
  | .table title columns rows => (Table.lines title columns rows).forM fun line => IO.println line

/-- What is around a command: nothing but the library itself is installed. -/
def around (bundle : Location) : Surroundings :=
  ⟨⟨.slash, bundle⟩, [], Surroundings.ownPackages ⟨.slash, bundle⟩⟩

attribute [local instance] SetOrder.asWritten Code.Compiler.ofFaults

/-- Carries out a request and gives the exit code. -/
def carryOut (bundle : Location) (disk : Disk) (request : Request) : IO UInt32 := do
  let (outcome, world) := Command.perform (around bundle) request ⟨disk, Log.empty⟩
  removeAll disk world.disk
  writeAll disk world.disk
  match outcome with
  | .ok outcome =>
    outcome.shown.forM print
    IO.print outcome.written
    return outcome.exitCode.toUInt32
  | .error fault =>
    IO.eprintln fault.message
    return 1

end CommandLine

end ModelForge

open ModelForge in
/-- Runs the command that the arguments ask for; the bundle is taken to stand beside the program. -/
def main (arguments : List String) : IO UInt32 := do
  let here := CommandLine.location (← IO.currentDir).toString
  let program := CommandLine.location (← IO.appPath).toString
  let bundle := program.dropLast ++ ["pure_compiled", "repositories"]
  let found ← IO.getEnv Request.cacheVariable
  let environment := found.toList.map fun value => (Request.cacheVariable, value)
  let disk ← CommandLine.load here bundle (arguments ++ environment.map Prod.snd)
  match Request.read ⟨disk, environment⟩ arguments with
  | .ok request => CommandLine.carryOut bundle disk request
  | .error fault =>
    IO.eprintln (Command.programName ++ ": " ++ fault.message)
    return 2
