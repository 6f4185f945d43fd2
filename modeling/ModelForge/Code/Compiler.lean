import ModelForge.Code.Fault
import ModelForge.Failure

/-!
# The compiler of the interpreter

Modules are compiled by the interpreter that runs the program. What it makes of a text is up to it,
and depends on nothing but the text and the name of its file.
-/

namespace ModelForge

namespace Code

/-- What a compiler finds wrong with a text, and where, as far as that is known. -/
structure Complaint where
  line : Option Int
  column : Option Int
  message : String
  deriving DecidableEq, Repr

/-- A fault in the text of a generated module, as a compiler complains of it. -/
def Fault.complaint (f : Fault) : Complaint := ⟨some f.line, some f.column, f.kind.message⟩

/-- A compiler. It looks at the text of a file of a given name and finds nothing wrong with it, or
complains of it, or fails in another way. A text with nothing wrong has a bytecode. -/
class Compiler where
  check (file text : String) : Except Failure (Option Complaint)
  bytecode (file text : String) : Octets

/-- A compiler that finds the faults of generated modules and no others. A text stands for its
bytecode. -/
@[reducible]
def Compiler.ofFaults : Compiler where
  check _ text := .ok ((Fault.find? text).map Fault.complaint)
  bytecode _ text := Utf8.encode text

end Code

end ModelForge
