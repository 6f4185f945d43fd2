import ModelForge.Document.Value

/-!
# Failures from outside

A failure that is not the library's own has a kind and is given some values. What it says is
written from these: those of the system are given a number and a text, and perhaps the path they are
about and, behind another value, the target of a move.
-/

namespace ModelForge

/-- Kinds of failures that are not the library's own. -/
inductive OutsideKind where
  | value
  | key
  | runtime
  | system
  | notFound
  | isDirectory
  | notDirectory
  | exists
  | permission
  | blocked
  | brokenPipe
  | noChild
  | noProcess
  | interrupted
  | timedOut
  | aborted
  | refused
  | reset
  deriving DecidableEq, Repr

namespace OutsideKind

/-- The kind of a failure of the system by its number. -/
def ofNumber : Int → OutsideKind
  | 1 | 13 => permission
  | 2 => notFound
  | 3 => noProcess
  | 4 => interrupted
  | 10 => noChild
  | 11 | 114 | 115 => blocked
  | 17 => .exists
  | 20 => notDirectory
  | 21 => isDirectory
  | 32 | 108 => brokenPipe
  | 103 => aborted
  | 104 => reset
  | 110 => timedOut
  | 111 => refused
  | _ => system

/-- Whether failures of a kind come from the system. -/
def isOfSystem : OutsideKind → Bool
  | value | key | runtime => false
  | _ => true

end OutsideKind

namespace Outside

/-- The text of some values: one is written as it is, and more in parentheses. -/
def valuesText : List Value → String
  | [] => ""
  | [v] => v.display
  | vs => "(" ++ String.intercalate ", " (vs.map Value.literal) ++ ")"

/-- A value that is there and not null. -/
def given? (v : Option Value) : Option Value :=
  match v with
  | none | some .null => none
  | some v => some v

/-- Whether some values are a number, a text and at most three more. -/
def isReport (values : List Value) : Bool := 2 ≤ values.length && values.length ≤ 5

/-- The path among the values of a failure of the system. -/
def path? (values : List Value) : Option Value :=
  if isReport values then given? values[2]? else none

/-- What a failure of the system says. -/
def systemText (values : List Value) : String :=
  match values with
  | code :: text :: _ =>
    if isReport values then
      let path := (path? values).map fun path =>
        let target := (given? values[4]?).map fun target => " -> " ++ target.literal
        ": " ++ path.literal ++ target.getD ""
      s!"[Errno {code.display}] {text.display}" ++ path.getD ""
    else valuesText values
  | _ => valuesText values

/-- The kind that a failure of the system is of, given values. -/
def systemKind (values : List Value) : OutsideKind :=
  if isReport values then
    match values.head? with
    | some (.int code) => .ofNumber code
    | some (.bool true) => .ofNumber 1
    | _ => .system
  else .system

/-- What a failure of a kind says, given values. -/
def text (kind : OutsideKind) (values : List Value) : String :=
  match kind, values with
  | .key, [key] => key.literal
  | _, _ => if kind.isOfSystem then systemText values else valuesText values

end Outside

end ModelForge
