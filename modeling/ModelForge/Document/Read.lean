import ModelForge.Document.Yaml.Content

/-!
# Reading a document

A document is a YAML text in UTF-8 with any line ends. A document that is nothing (null, false,
zero or empty) reads as an empty map.
-/

namespace ModelForge

namespace Document

/-- Why a document cannot be read. -/
inductive Fault where
  | undecodable (f : Utf8.Fault)
  | yaml (f : Yaml.Fault)
  deriving DecidableEq, Repr

/-- Reads a document from its octets. -/
def read [SetOrder] (bs : Octets) : Except Fault Value := do
  let text ←
    match Utf8.decodeBlocks bs with
    | .ok s => pure s
    | .error f => throw (.undecodable f)
  match Yaml.parse (Yaml.unifyLineEnds text) with
  | .ok v => return if v.isNothing then .map [] else v
  | .error f => throw (.yaml f)

end Document

end ModelForge
