import ModelForge.Command.Arguments
import ModelForge.Files.Disk
import ModelForge.Settings

/-!
# Requests of a command line

`Request.read` says what a command line asks for. Commands form groups: the options of a group
stand before the name of the command, and what follows the name belongs to the command. A command
line that cannot be used is refused for the first reason found: first the options are told apart,
then their values are looked at, and then arguments that nothing takes are refused.
-/

namespace ModelForge

/-- What a command line asks for. -/
inductive Request where
  | version
  | help
  | generate (settings : Settings)
  | repositories (extra : List String)
  | buildCache (output : Path) (repositories excluded extra : List String)
  deriving DecidableEq, Repr

/-- What requests are read against: the files that paths are checked against, and the variables of
the environment. -/
structure Request.Context where
  disk : Disk
  environment : List (String × String)

namespace Request

/-- The variable that names the file of a snapshot if no option does. -/
def cacheVariable : String := "PURE_COMPILED_CACHE"

namespace Context

/-- The value of a variable; an empty one is none. -/
def valueOf? (c : Context) (name : String) : Option String :=
  (c.environment.lookup name).filter fun value => !value.isEmpty

/-- Whether a text leads to a directory only, by its end. -/
def endsInDirectory (text : String) : Bool :=
  ['/'].isSuffixOf text.toList || ['/', '.'].isSuffixOf text.toList

/-- What stands at a path as written. -/
def entry? (c : Context) (text : String) : Option Files.Entry :=
  if text.isEmpty then none
  else
    match c.disk.look (Path.ofString text) with
    | .ok (some (.file content)) =>
      if endsInDirectory text then none else some (.file content)
    | .ok e => e
    | .error _ => none

/-- Refuses a path at which a file stands. -/
def noFile (c : Context) (text : String) : Except UsageFault Unit :=
  match c.entry? text with
  | some (.file _) => .error .badParameter
  | _ => .ok ()

/-- Refuses a path at which a directory stands. -/
def noDirectory (c : Context) (text : String) : Except UsageFault Unit :=
  match c.entry? text with
  | some .directory => .error .badParameter
  | _ => .ok ()

/-- The value of an option or else of the variable for snapshots. -/
def valueOrVariable (c : Context) (a : Arguments) (long : String) : Option String :=
  (a.value? long).orElse fun _ => c.valueOf? cacheVariable

end Context

/-- The option that asks for help. -/
def helpOption : CommandOption := .switch "--help"

/-- The options that name repositories. -/
def repositoryOptions : List CommandOption :=
  [.lettered "--repository" 'r', .lettered "--exclude" 'x', .lettered "--extra-repository" 'e']

/-- What is wrong with the value of an option, if anything. -/
abbrev Check := Context → Arguments → String → Except UsageFault Unit

/-- Reads the arguments of a command: help comes first, then values are checked, and then nothing
may be left. -/
def command (options : List CommandOption) (check : Check) (request : Context → Arguments → Request)
    (c : Context) (arguments : List String) : Except UsageFault Request := do
  let a ← Arguments.read (options ++ [helpOption]) true arguments
  if a.has helpOption.long then return .help
  (a.order options).forM (check c a)
  if a.others.isEmpty then return request c a else throw .usage

/-- The options of the command that lists repositories. -/
def listOptions : List CommandOption := [.lettered "--extra-repository" 'e']

/-- Reads the arguments of the command that lists repositories. -/
def readList : Context → List String → Except UsageFault Request :=
  command listOptions (fun _ _ _ => .ok ()) fun _ a =>
    .repositories (a.values "--extra-repository")

/-- The options of the command that generates. -/
def generateOptions : List CommandOption :=
  repositoryOptions ++
  [.lettered "--generation-type" 't', .valued "--classes-dir", .valued "--target-dir",
   .valued "--cache", .switch "--skip", .valued "--external-api-package",
   .switch "--no-metadata", .switch "--single-dir", .switch "--generate-sources",
   .switch "--test", .switch "--no-compile"]

/-- Where compiled modules go if nothing is said. -/
def classesFallback : String := "build/classes"

/-- Where metadata and generated code go if nothing is said. -/
def targetFallback : String := "build"

/-- Checks an option of the command that generates; a fallback is checked like a value. -/
def checkGenerate : Check := fun c a long =>
  match long with
  | "--generation-type" =>
    match a.value? long with
    | some name =>
      if (GenerationType.names.lookup name).isSome then .ok () else .error .badParameter
    | none => .ok ()
  | "--classes-dir" => c.noFile ((a.value? long).getD classesFallback)
  | "--target-dir" => c.noFile ((a.value? long).getD targetFallback)
  | "--cache" => ((c.valueOrVariable a long).map c.noDirectory).getD (.ok ())
  | _ => .ok ()

/-- The settings that arguments stand for. -/
def settings (c : Context) (a : Arguments) : Settings where
  repositories := Names.ofList (a.values "--repository")
  excluded := Names.ofList (a.values "--exclude")
  extra := a.values "--extra-repository"
  type :=
    ((a.value? "--generation-type").bind fun name => GenerationType.names.lookup name).getD .modular
  skip := a.has "--skip"
  addExternal := a.has "--external-api-package"
  externalPackage := (a.value? "--external-api-package").getD ""
  metadata := !a.has "--no-metadata"
  singleDirectory := a.has "--single-dir"
  sources := a.has "--generate-sources"
  test := a.has "--test"
  preventCompilation := a.has "--no-compile"
  classes := Path.ofString ((a.value? "--classes-dir").getD classesFallback)
  target := Path.ofString ((a.value? "--target-dir").getD targetFallback)
  cache := (c.valueOrVariable a "--cache").map Path.ofString

/-- Reads the arguments of the command that generates. -/
def readGenerate : Context → List String → Except UsageFault Request :=
  command generateOptions checkGenerate fun c a => .generate (settings c a)

/-- The options of the command that stores a snapshot. -/
def cacheOptions : List CommandOption := .lettered "--output" 'o' :: repositoryOptions

/-- Checks an option of the command that stores a snapshot. -/
def checkCache : Check := fun c a long =>
  if long = "--output" then
    match c.valueOrVariable a long with
    | some text => c.noDirectory text
    | none => .error .missingParameter
  else .ok ()

/-- Reads the arguments of the command that stores a snapshot. -/
def readBuildCache : Context → List String → Except UsageFault Request :=
  command cacheOptions checkCache fun c a =>
    .buildCache (Path.ofString ((c.valueOrVariable a "--output").getD ""))
      (a.values "--repository") (a.values "--exclude") (a.values "--extra-repository")

/-- Commands by name. -/
abbrev Commands := List (String × (Context → List String → Except UsageFault Request))

/-- What the options of a group ask for by themselves; the first one counts. -/
def ofGroupOptions (a : Arguments) : Option Request :=
  a.uses.findSome? fun u =>
    match u.long with
    | "--version" => some .version
    | "--help" => some .help
    | _ => none

/-- Reads the arguments of a group. A name that no command has is looked at as an option once
more. -/
def group (options : List CommandOption) (commands : Commands) (c : Context)
    (arguments : List String) : Except UsageFault Request := do
  if arguments.isEmpty then throw .noArguments
  let a ← Arguments.read options false arguments
  match ofGroupOptions a, a.others with
  | some request, _ => return request
  | none, [] => throw .usage
  | none, name :: rest =>
    match commands.lookup name with
    | some read => read c rest
    | none =>
      match ofGroupOptions (← Arguments.read options false (name :: rest)) with
      | some request => return request
      | none => throw .noSuchCommand

/-- The commands about snapshots. -/
def cacheCommands : Commands := [("build", readBuildCache)]

/-- All commands, ascending by name. -/
def commands : Commands :=
  [("cache", group [helpOption] cacheCommands), ("generate", readGenerate),
   ("repositories", readList)]

/-- The options of the command line itself. -/
def mainOptions : List CommandOption :=
  [.switch "--version", .switch "--no-color", helpOption]

/-- Reads a command line. -/
def read : Context → List String → Except UsageFault Request := group mainOptions commands

end Request

end ModelForge
