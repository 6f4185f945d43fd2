import ModelForge.Files.Fault
import ModelForge.Files.Path

/-!
# The file tree

A disk holds files and directories by their location, the list of names from the root, together with
the location that relative paths start from. Each operation either gives the disk after it or says
why it could not be done, in which case nothing has changed.
-/

namespace ModelForge

/-- What stands at a location. -/
inductive Files.Entry where
  | directory
  | file (content : Octets)
  deriving DecidableEq, Repr

/-- Where something stands: the names from the root. -/
abbrev Files.Location := List String

/-- A file tree and the location that relative paths start from. -/
structure Disk where
  here : Files.Location
  entries : List (Files.Location × Files.Entry)

namespace Disk

open Files

/-- The most octets a name may have. -/
def nameLimit : Nat := 255

/-- The octets a path must stay below. -/
def pathLimit : Nat := 4096

/-- What stands at a location. -/
def entry? (d : Disk) (l : Location) : Option Entry :=
  if l = [] then some .directory else d.entries.lookup l

/-- The disk with an entry at a location. -/
def put (d : Disk) (l : Location) (e : Entry) : Disk :=
  { d with entries := (l, e) :: d.entries.filter fun x => x.1 ≠ l }

/-- The disk without the entry at a location. -/
def erase (d : Disk) (l : Location) : Disk :=
  { d with entries := d.entries.filter fun x => x.1 ≠ l }

/-- Whether a location lies below another one. -/
def isBelow (base l : Location) : Bool := base.isPrefixOf l && base ≠ l

/-- The location that names lead to; every name but the last must lead to a directory. -/
def walk (d : Disk) (place : Location) : List String → Except Reason Location
  | [] => .ok place
  | name :: rest =>
    match d.entry? place with
    | none => .error .notFound
    | some (.file _) => .error .notDirectory
    | some .directory =>
      if nameLimit < (Utf8.encode name).length then .error .nameTooLong
      else d.walk (if name = ".." then place.dropLast else place ++ [name]) rest

/-- The location of a path. -/
def locate (d : Disk) (p : Path) : Except Reason Location :=
  if pathLimit ≤ (Utf8.encode p.text).length then .error .nameTooLong
  else d.walk (if p.isAbsolute then [] else d.here) p.parts

/-- Whether a path holds a character that no path can hold. -/
def hasNull (p : Path) : Bool := p.parts.any fun part => part.toList.contains (Char.ofNat 0)

/-- The location of a path for an operation that names it. -/
def locateFor (d : Disk) (p : Path) : Except Fault Location :=
  if hasNull p then .error .nullCharacter
  else
    match d.locate p with
    | .ok l => .ok l
    | .error r => .error (.failed r p.text none)

/-- What stands at a path; nothing if it leads nowhere. -/
def look (d : Disk) (p : Path) : Except Fault (Option Entry) :=
  if hasNull p then .ok none
  else
    match d.locate p with
    | .ok l => .ok (d.entry? l)
    | .error .nameTooLong => .error (.failed .nameTooLong p.text none)
    | .error _ => .ok none

/-- Whether a directory stands at a path. -/
def isDirectory (d : Disk) (p : Path) : Except Fault Bool :=
  (d.look p).map fun e => e = some .directory

/-- Whether a file stands at a path. -/
def isFile (d : Disk) (p : Path) : Except Fault Bool :=
  (d.look p).map fun e =>
    match e with
    | some (.file _) => true
    | _ => false

/-- The content of the file at a path. -/
def read (d : Disk) (p : Path) : Except Fault Octets := do
  match d.entry? (← d.locateFor p) with
  | some (.file content) => return content
  | some .directory => throw (.failed .isDirectory p.text none)
  | none => throw (.failed .notFound p.text none)

/-- The names below a directory that lead to something, as parts of a path. -/
def below (d : Disk) (l : Location) : List (List String × Entry) :=
  d.entries.filterMap fun (place, e) =>
    if isBelow l place then some (place.drop l.length, e) else none

/-- The text of what stands below a path: that of a directory ends in a slash. -/
def belowText (p : Path) (parts : List String) : Entry → String
  | .directory => p.text ++ "/" ++ Path.joined parts ++ "/"
  | .file _ => p.text ++ "/" ++ Path.joined parts

/-- Everything below the directory at a path, ascending by its text. -/
def tree (d : Disk) (p : Path) : List (String × Entry) :=
  match d.isDirectory p, d.locate p with
  | .ok true, .ok l =>
    ((d.below l).map fun (parts, e) => (belowText p parts e, e)).mergeSort fun a b =>
      decide (a.1 ≤ b.1)
  | _, _ => []

/-- The disk with a directory at a location and at every location above it. -/
def withDirectory (d : Disk) (l : Location) : Disk :=
  (List.range l.length).foldl (fun d n => d.put (l.take (n + 1)) .directory) d

/-- Whether a path ends in a name of its own rather than in `..` or nothing. -/
def endsInName (p : Path) : Bool :=
  match p.parts.getLast? with
  | none => false
  | some name => name ≠ ".."

/-- Makes a directory. -/
def makeDirectory (d : Disk) (p : Path) : Except Fault Disk := do
  let l ← d.locateFor p
  if !endsInName p ∨ (d.entry? l).isSome then throw (.failed .exists p.text none)
  else return d.put l .directory

/-- Makes a directory and those above it that are missing; one that is there already will do. The
directories made before a failure stay. -/
def makeDirectories (d : Disk) (root : Path.Root) (parts : List String) :
    Option Fault × Disk :=
  go d parts.reverse
where
  /-- Makes the directory whose names are given from the last to the first. -/
  go (d : Disk) : List String → Option Fault × Disk
    | [] => make d []
    | name :: above =>
      let parts := (name :: above).reverse
      match d.makeDirectory ⟨root, parts⟩ with
      | .ok d => (none, d)
      | .error (.failed .notFound _ _) =>
        match go d above with
        | (some f, d) => (some f, d)
        | (none, d) => make d parts
      | .error f => (accept d parts f, d)
  /-- Makes one directory. -/
  make (d : Disk) (parts : List String) : Option Fault × Disk :=
    match d.makeDirectory ⟨root, parts⟩ with
    | .ok d => (none, d)
    | .error f => (accept d parts f, d)
  /-- Takes a failure for success if the directory is there. -/
  accept (d : Disk) (parts : List String) (f : Fault) : Option Fault :=
    match f, d.isDirectory ⟨root, parts⟩ with
    | .failed .notFound _ _, _ => some f
    | .failed _ _ _, .ok true => none
    | .failed _ _ _, .error g => some g
    | _, _ => some f

/-- Makes a new empty file. -/
def createFile (d : Disk) (p : Path) : Except Fault Disk := do
  let l ← d.locateFor p
  match d.entry? l with
  | some _ => throw (.failed .exists p.text none)
  | none => return d.put l (.file [])

/-- Writes the content of a file, which is made if it is not there. -/
def write (d : Disk) (p : Path) (content : Octets) : Except Fault Disk := do
  let l ← d.locateFor p
  match d.entry? l with
  | some .directory => throw (.failed .isDirectory p.text none)
  | _ => return d.put l (.file content)

/-- Moves a file over whatever file stands at the target. -/
def move (d : Disk) (source target : Path) : Except Fault Disk := do
  let fail {α : Type} (r : Reason) : Except Fault α :=
    .error (.failed r source.text (some target.text))
  if hasNull source ∨ hasNull target then throw .nullCharacter
  let locate (p : Path) : Except Fault Location :=
    match d.locate p with
    | .ok l => .ok l
    | .error r => fail r
  let s ← locate source
  let t ← locate target
  if !endsInName target then fail .busy
  else
    match d.entry? s with
    | none => fail .notFound
    | some e =>
      if d.entry? t = some .directory then fail .isDirectory
      else return (d.erase s).put t e

/-- Removes a file, if it is there. -/
def removeFile (d : Disk) (p : Path) : Disk :=
  match d.locate p with
  | .ok l =>
    match d.entry? l with
    | some (.file _) => d.erase l
    | _ => d
  | .error _ => d

/-- Removes a directory with everything below it, or a file. -/
def removeTree (d : Disk) (p : Path) : Disk :=
  match d.locate p with
  | .ok l =>
    { d with entries := d.entries.filter fun x => x.1 ≠ l && !isBelow l x.1 }
  | .error _ => d

/-- A number written with eight digits. -/
def token (n : Nat) : String :=
  let digits := toString n
  String.ofList (List.replicate (8 - digits.length) '0') ++ digits

/-- The first of the names `make 0`, `make 1`, … that is free in a directory. -/
def freshName (d : Disk) (l : Location) (make : String → String) : String :=
  let taken (k : Nat) : Bool := (d.entry? (l ++ [make (token k)])).isSome
  let k := ((List.range (d.entries.length + 1)).find? fun k => !taken k).getD d.entries.length
  make (token k)

end Disk

end ModelForge
