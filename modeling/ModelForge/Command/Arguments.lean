/-!
# Arguments of a command line

A command knows some options. An option has a long name and possibly a letter, and either is a mere
switch or takes a value. `Arguments.read` tells the uses of options from the other arguments: a
value is the next argument or is attached, to a long name by `=` and to a letter directly; letters
can be written together; everything after `--` is no option.
-/

namespace ModelForge

/-- Why a command line cannot be used. -/
inductive UsageFault where
  /-- There are arguments that nothing takes, or there is no command. -/
  | usage
  | noSuchOption
  | noSuchCommand
  /-- An option that has to be there is not. -/
  | missingParameter
  /-- The value of an option is not acceptable. -/
  | badParameter
  /-- An option lacks its value, or a switch has one. -/
  | badOptionUsage
  /-- There are no arguments at all where some are needed. -/
  | noArguments
  deriving DecidableEq, Repr

/-- What is wrong with a command line, in words. -/
def UsageFault.message : UsageFault → String
  | usage => "unexpected arguments, or no command"
  | noSuchOption => "no such option"
  | noSuchCommand => "no such command"
  | missingParameter => "missing option"
  | badParameter => "invalid value of an option"
  | badOptionUsage => "an option lacks its value, or a switch has one"
  | noArguments => "no arguments"

/-- An option of a command. -/
structure CommandOption where
  long : String
  letter : Option Char
  takesValue : Bool
  deriving DecidableEq, Repr

namespace CommandOption

/-- An option that is a mere switch. -/
def switch (long : String) : CommandOption := ⟨long, none, false⟩

/-- An option with a value. -/
def valued (long : String) : CommandOption := ⟨long, none, true⟩

/-- An option with a value that can also be written as a letter. -/
def lettered (long : String) (letter : Char) : CommandOption := ⟨long, some letter, true⟩

end CommandOption

/-- One use of an option: its long name and its value; that of a switch is empty. -/
structure OptionUse where
  long : String
  value : String
  deriving DecidableEq, Repr

/-- The uses of options in order, and the other arguments. -/
structure Arguments where
  uses : List OptionUse
  others : List String
  deriving DecidableEq, Repr

namespace Arguments

/-- No arguments. -/
def empty : Arguments := ⟨[], []⟩

/-- Puts uses in front. -/
def withUses (uses : List OptionUse) (a : Arguments) : Arguments :=
  { a with uses := uses ++ a.uses }

/-- Puts an argument that is no option in front. -/
def withOther (argument : String) (a : Arguments) : Arguments :=
  { a with others := argument :: a.others }

/-- The values of an option, in order. -/
def values (a : Arguments) (long : String) : List String :=
  (a.uses.filter fun u => u.long == long).map OptionUse.value

/-- The last value of an option. -/
def value? (a : Arguments) (long : String) : Option String := (a.values long).getLast?

/-- Whether an option is used. -/
def has (a : Arguments) (long : String) : Bool := a.uses.any fun u => u.long == long

/-- What an argument stands for: uses that are complete, and an option whose value is the next
argument. -/
structure Reading where
  uses : List OptionUse
  pending : Option String

/-- Reads letters written together. -/
def readLetters (options : List CommandOption) : List Char → Except UsageFault Reading
  | [] => .ok ⟨[], none⟩
  | c :: rest =>
    match options.find? fun o => o.letter == some c with
    | none => .error .noSuchOption
    | some o =>
      if o.takesValue then
        if rest.isEmpty then .ok ⟨[], some o.long⟩
        else .ok ⟨[⟨o.long, String.ofList rest⟩], none⟩
      else do
        let r ← readLetters options rest
        return { r with uses := ⟨o.long, ""⟩ :: r.uses }

/-- Reads an option under its long name, with or without an attached value. -/
def readLong (o : CommandOption) (attached : Option String) : Except UsageFault Reading :=
  match o.takesValue, attached with
  | true, some value => .ok ⟨[⟨o.long, value⟩], none⟩
  | true, none => .ok ⟨[], some o.long⟩
  | false, some _ => .error .badOptionUsage
  | false, none => .ok ⟨[⟨o.long, ""⟩], none⟩

/-- What follows the first `=`. -/
def attached? (argument : List Char) : Option String :=
  match argument.dropWhile (· ≠ '=') with
  | [] => none
  | _ :: value => some (String.ofList value)

/-- Reads an argument that starts with a hyphen. -/
def readOption (options : List CommandOption) (argument : List Char) :
    Except UsageFault Reading :=
  let name := String.ofList (argument.takeWhile (· ≠ '='))
  match options.find? fun o => o.long == name with
  | some o => readLong o (attached? argument)
  | none =>
    match argument with
    | '-' :: '-' :: _ => .error .noSuchOption
    | _ => readLetters options (argument.drop 1)

/-- Whether an argument is an option rather than a value: a lone hyphen is none. -/
def isOption (argument : List Char) : Bool :=
  match argument with
  | '-' :: _ :: _ => true
  | _ => false

/-- Reads arguments, the first of which may be the value of an option before them. -/
def readAfter (options : List CommandOption) (interspersed : Bool) :
    Option String → List String → Except UsageFault Arguments
  | none, [] => .ok empty
  | some _, [] => .error .badOptionUsage
  | some long, value :: rest => do
    return (← readAfter options interspersed none rest).withUses [⟨long, value⟩]
  | none, argument :: rest =>
    if argument = "--" then .ok ⟨[], rest⟩
    else if isOption argument.toList then do
      let r ← readOption options argument.toList
      return (← readAfter options interspersed r.pending rest).withUses r.uses
    else if interspersed then do
      return (← readAfter options interspersed none rest).withOther argument
    else .ok ⟨[], argument :: rest⟩

/-- Reads arguments. Options may stand behind other arguments if the command allows it. -/
def read (options : List CommandOption) (interspersed : Bool) (arguments : List String) :
    Except UsageFault Arguments :=
  readAfter options interspersed none arguments

/-- The long names of options in the order they are looked at: those used, in the order of their
first use, and then the others. -/
def order (a : Arguments) (options : List CommandOption) : List String :=
  let used := (a.uses.map OptionUse.long).eraseDups
  used ++ (options.map CommandOption.long).filter fun long => !used.contains long

end Arguments

end ModelForge
