import ModelForge.Schema.Rule

/-!
# Diagnostics of generated modules

What is wrong with a generated module: which group it belongs to, its full name, where the fault
stands if that is known, and what it is.
-/

namespace ModelForge

/-- One fault of a generated module. -/
structure Diagnostic where
  group : String
  module : String
  /-- Line of the fault, counted from one. -/
  line : Option Int
  /-- Column of the fault, counted from one. -/
  column : Option Int
  message : String
  deriving DecidableEq, Repr

namespace Diagnostic

/-- A diagnostic in one line: the module, the place as far as it is known, and the message. -/
def text (d : Diagnostic) : String :=
  let place :=
    match d.line, d.column with
    | some line, some column => s!":{line}:{column}"
    | some line, none => s!":{line}"
    | none, _ => ""
  d.module ++ place ++ ": " ++ d.message

/-- Reads a diagnostic. -/
def check : Value → Checked Diagnostic :=
  Schema.object "CompileDiagnostic" fun entries =>
    Schema.closed ["group", "module", "line", "column", "message"] entries
      (Diagnostic.mk
        <$> Schema.required entries "group" Schema.text
        <*> Schema.required entries "module" Schema.text
        <*> Schema.member entries "line" (Schema.optional Schema.anyInteger) (some none)
        <*> Schema.member entries "column" (Schema.optional Schema.anyInteger) (some none)
        <*> Schema.required entries "message" Schema.text)

/-- A diagnostic as a document value. -/
def toValue (d : Diagnostic) : Value :=
  .object [("group", .text d.group), ("module", .text d.module), ("line", .intOrNull d.line),
    ("column", .intOrNull d.column), ("message", .text d.message)]

end Diagnostic

end ModelForge
