import ModelForge.Text.Identifier
import ModelForge.Text.Segments

/-!
# Faults in the text of a module

A generated module can fail to compile in four ways: an element has a reserved word for a name, an
enumeration has no values, two parameters of a constructor have one name, or something is given the
name `__debug__`, which nothing may be. Faults of the form of the text are found before repeated
parameters, and these before forbidden names; of several faults of one kind the first counts.
-/

namespace ModelForge

namespace Code

/-- What is wrong in the text of a module. -/
inductive Fault.Kind where
  | reservedName
  /-- A class has nothing in it; its line is given. -/
  | emptyBlock (line : Nat)
  | repeatedParameter (name : String)
  | forbiddenName
  deriving DecidableEq, Repr

/-- Something wrong at a place, counted from line one and column one. -/
structure Fault where
  line : Nat
  column : Nat
  kind : Fault.Kind
  deriving DecidableEq, Repr

namespace Fault

/-- The name that nothing may be given. -/
def forbidden : String := "__debug__"

/-- The wording of a fault. -/
def Kind.message : Kind → String
  | .reservedName => "invalid syntax"
  | .emptyBlock line => s!"expected an indented block after class definition on line {line}"
  | .repeatedParameter name => s!"duplicate argument '{name}' in function definition"
  | .forbiddenName => "cannot assign to " ++ forbidden

/-- A line with its number, counted from one. -/
structure Numbered where
  number : Nat
  text : List Char

/-- The lines of a text with their numbers. -/
def numbered (number : Nat) : List (List Char) → List Numbered
  | [] => []
  | line :: rest => ⟨number, line⟩ :: numbered (number + 1) rest

/-- What follows a given start of a line. -/
def afterStart (start line : List Char) : Option (List Char) :=
  if start.isPrefixOf line then some (line.drop start.length) else none

/-- What a line defines a class as. -/
def className? (line : List Char) : Option String :=
  (afterStart "class ".toList line).map fun rest =>
    String.ofList (rest.takeWhile Identifier.isPart)

/-- The indentation of a line. -/
def indentation (line : List Char) : Nat := (line.takeWhile (· == ' ')).length

/-- The first line that is not blank. -/
def nextStatement (lines : List Numbered) : Option Numbered :=
  lines.find? fun l => l.text.any (· != ' ')

/-- The first fault of the form of the text. -/
def formFault : List Numbered → Option Fault
  | [] => none
  | l :: rest =>
    match className? l.text with
    | none => formFault rest
    | some name =>
      if Identifier.isReserved name then some ⟨l.number, 7, .reservedName⟩
      else
        match nextStatement rest with
        | none => formFault rest
        | some next =>
          if indentation next.text = 0 then some ⟨next.number, 1, .emptyBlock l.number⟩
          else formFault rest

/-- The start of a line that defines a constructor. -/
def constructorStart : List Char := "    def __init__(".toList

/-- The parameters between parentheses, each with its column. -/
def parametersFrom (column : Nat) (segments : List (List Char)) : List (Nat × String) :=
  match segments with
  | [] => []
  | segment :: rest =>
    let blanks := indentation segment
    let name := (segment.drop blanks).takeWhile Identifier.isPart
    let more := parametersFrom (column + segment.length + 1) rest
    if name.isEmpty then more else (column + blanks, String.ofList name) :: more

/-- The parameters of the constructor that a line defines. -/
def parameters? (line : List Char) : Option (List (Nat × String)) :=
  (afterStart constructorStart line).map fun rest =>
    parametersFrom (constructorStart.length + 1)
      (Segments.splitOn ',' (rest.takeWhile (· ≠ ')')))

/-- The first parameter with a name used before. -/
def repeated (seen : List String) : List (Nat × String) → Option (Nat × String)
  | [] => none
  | (column, name) :: rest =>
    if seen.contains name then some (column, name) else repeated (name :: seen) rest

/-- The first repeated parameter of a text. -/
def parameterFault : List Numbered → Option Fault
  | [] => none
  | l :: rest =>
    match (parameters? l.text).bind (repeated []) with
    | some (column, name) => some ⟨l.number, column, .repeatedParameter name⟩
    | none => parameterFault rest

/-- Whether a line inside a class uses the forbidden name as a parameter or as a value. -/
def usesForbidden (line : List Char) : Bool :=
  match parameters? line with
  | some parameters => parameters.any fun (_, name) => name == forbidden
  | none => (afterStart ("    " ++ forbidden ++ " = ").toList line).isSome

/-- The first forbidden name of a text. The name of a class counts after its
body. -/
def nameFault (pending : Option Fault) : List Numbered → Option Fault
  | [] => pending
  | l :: rest =>
    if indentation l.text = 0 ∧ !l.text.isEmpty then
      match pending with
      | some f => some f
      | none =>
        if className? l.text = some forbidden then
          nameFault (some ⟨l.number, 1, .forbiddenName⟩) rest
        else nameFault none rest
    else if usesForbidden l.text then some ⟨l.number, 5, .forbiddenName⟩
    else nameFault pending rest

/-- What is wrong in the text of a module, if anything. -/
def find? (text : String) : Option Fault :=
  let lines := numbered 1 (Segments.splitOn '\n' text.toList)
  match formFault lines with
  | some f => some f
  | none =>
    match parameterFault lines with
    | some f => some f
    | none => nameFault none lines

end Fault

end Code

end ModelForge
