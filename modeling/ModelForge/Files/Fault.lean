import ModelForge.Text.Quoted

/-!
# Faults of file operations

A file operation that cannot be done says why, by the number and wording of the reason, and which
paths it was given.
-/

namespace ModelForge

namespace Files

/-- Why a file operation could not be done. -/
inductive Reason where
  | notFound
  | exists
  | notDirectory
  | isDirectory
  | busy
  | nameTooLong
  deriving DecidableEq, Repr

/-- The number of a reason. -/
def Reason.number : Reason → Nat
  | .notFound => 2
  | .exists => 17
  | .notDirectory => 20
  | .isDirectory => 21
  | .busy => 16
  | .nameTooLong => 36

/-- The wording of a reason. -/
def Reason.text : Reason → String
  | .notFound => "No such file or directory"
  | .exists => "File exists"
  | .notDirectory => "Not a directory"
  | .isDirectory => "Is a directory"
  | .busy => "Device or resource busy"
  | .nameTooLong => "File name too long"

/-- A file operation that could not be done. -/
inductive Fault where
  /-- The operation failed at a path; a move has a target too. -/
  | failed (reason : Reason) (path : String) (target : Option String)
  /-- The path holds a character that no path can hold. -/
  | nullCharacter
  deriving DecidableEq, Repr

/-- The wording of a fault. -/
def Fault.message : Fault → String
  | .failed reason path none =>
    s!"[Errno {reason.number}] {reason.text}: {Quoted.quote path}"
  | .failed reason path (some target) =>
    s!"[Errno {reason.number}] {reason.text}: {Quoted.quote path} -> {Quoted.quote target}"
  | .nullCharacter => "embedded null byte"

end Files

end ModelForge
