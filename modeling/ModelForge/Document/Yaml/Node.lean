import ModelForge.Document.Yaml.Lexer
import ModelForge.Document.Yaml.Plain

/-!
# The node tree of a YAML document

`Node.ofTokens` reads the tree off the row of tokens, with the tag of every node resolved. A node
with an anchor is read once and stands as `named` wherever it is used, so that a tree in which much
is shared, or in which a node lies inside itself, stays as small as its text.
-/

namespace ModelForge

namespace Yaml

/-- A node of a document, with its tag and a number of its own. -/
inductive Node where
  | scalar (number : Nat) (tag : String) (codes : List Nat)
  | sequence (number : Nat) (tag : String) (items : List Node)
  | mapping (number : Nat) (tag : String) (entries : List (Node × Node))
  /-- The node that has an anchor. -/
  | named (anchor : String)

namespace Node

/-- What reading has come to. -/
structure Progress where
  rest : List Token
  /-- What the handles of tags stand for. -/
  handles : List (String × String)
  /-- The nodes with an anchor, the one read last first; none for one that is being read. -/
  anchors : List (String × Option Node)
  /-- How many nodes have been read. -/
  count : Nat
  /-- Whether a node lies inside itself. -/
  loops : Bool

/-- A step of reading. -/
abbrev Read := StateT Progress (Except Fault)

/-- The next token; none at the end. -/
def peek : Read (Option Token) := do
  match (← get).rest with
  | [] => return none
  | .fault f :: _ => throw f
  | t :: _ => return some t

/-- Goes over a token. -/
def advance : Read Unit := modify fun p => { p with rest := p.rest.drop 1 }

/-- Goes over a token if it comes next. -/
def accept (t : Token) : Read Bool := do
  if (← peek) == some t then advance; return true else return false

/-- Goes over a token that has to come next. -/
def expect (t : Token) : Read Unit := do
  if !(← accept t) then throw .malformed

/-- Whether one of some tokens comes next. -/
def nextIn (ts : List Token) : Read Bool := do
  match ← peek with
  | none => return false
  | some t => return ts.contains t

/-- The number of the next node. -/
def nextNumber : Read Nat := modifyGet fun p => (p.count, { p with count := p.count + 1 })

/-- The node that stands where nothing is written. -/
def empty : Read Node := do return .scalar (← nextNumber) (Tag.standard "null") []

/-- Reads an anchor, if one stands here. -/
def anchor? : Read (Option String) := do
  match ← peek with
  | some (.anchor name) => advance; return some name
  | _ => return none

/-- Reads a tag, if one stands here, and spells it out. -/
def tag? : Read (Option TagName) := do
  match ← peek with
  | some (.tag name) => advance; return some name
  | _ => return none

/-- A tag with its handle replaced by what it stands for. -/
def expandTag (name : TagName) : Read String := do
  match name.handle with
  | none => return name.suffix
  | some handle =>
    match (← get).handles.lookup handle with
    | some start => return start ++ name.suffix
    | none => throw .malformed

/-- The anchor and the tag in front of a node, in either order. -/
def properties : Read (Option String × Option String) := do
  let first ← anchor?
  let name ← tag?
  let anchor ←
    match first, name with
    | none, some _ => anchor?
    | _, _ => pure first
  match name with
  | none => return (anchor, none)
  | some name => return (anchor, some (← expandTag name))

/-- Notes an anchor whose node starts here; an anchor must be new. -/
def openAnchor (anchor : Option String) : Read Unit := do
  match anchor with
  | none => return
  | some name =>
    if ((← get).anchors.lookup name).isSome then throw .malformed
    else modify fun p => { p with anchors := (name, none) :: p.anchors }

/-- Notes the node of an anchor. -/
def closeAnchor (anchor : Option String) (node : Node) : Read Node := do
  match anchor with
  | none => return node
  | some name =>
    modify fun p => { p with anchors := (name, some node) :: p.anchors.filter (·.1 ≠ name) }
    return .named name

/-- The node an alias stands for. -/
def resolveAlias (name : String) : Read Node := do
  match (← get).anchors.lookup name with
  | some (some _) => return .named name
  | some none =>
    modify fun p => { p with loops := true }
    return .named name
  | none => throw .malformed

/-- The tag of a collection: the standard one unless another is given. -/
def collectionTag (given : Option String) (standard : String) : String :=
  match given with
  | none | some "!" => Tag.standard standard
  | some t => t

/-- The tag of a scalar: by its look if it is plain or has the tag `!`, a text if it is quoted. -/
def scalarTag (given : Option String) (s : Scalar) : String :=
  match given with
  | some "!" => Tag.ofLook s.codes
  | some t => t
  | none => if s.plain then Tag.ofLook s.codes else Tag.standard "str"

/-- Where a node stands, which settles the collections it may be. -/
inductive Place where
  | flow
  | block
  /-- A block node whose items may stand at the indentation of the key. -/
  | indentless
  deriving DecidableEq

mutual

/-- Reads a node. -/
def node (fuel : Nat) (place : Place) : Read Node := do
  match fuel with
  | 0 => throw .malformed
  | fuel + 1 =>
    match ← peek with
    | some (.alias name) => advance; resolveAlias name
    | _ =>
      let (anchor, tag) ← properties
      let next ← peek
      openAnchor anchor
      let number ← nextNumber
      let sequence (items : Read (List Node)) : Read Node := do
        closeAnchor anchor (.sequence number (collectionTag tag "seq") (← items))
      let mapping (entries : Read (List (Node × Node))) : Read Node := do
        closeAnchor anchor (.mapping number (collectionTag tag "map") (← entries))
      match next with
      | some (.scalar s) =>
        advance
        closeAnchor anchor (.scalar number (scalarTag tag s) s.codes)
      | some .flowSequence => advance; sequence (flowItems fuel true)
      | some .flowMapping => advance; mapping (flowEntries fuel true)
      | _ =>
        if place = .indentless ∧ next = some .entry then sequence (indentlessItems fuel)
        else if place ≠ .flow ∧ next = some .blockSequence then
          advance
          sequence (blockItems fuel)
        else if place ≠ .flow ∧ next = some .blockMapping then
          advance
          mapping (blockEntries fuel)
        else if anchor.isSome ∨ tag.isSome then
          closeAnchor anchor (.scalar number (scalarTag tag ⟨true, []⟩) [])
        else throw .malformed

/-- Reads a node unless one of the given tokens comes next. -/
def nodeUnless (fuel : Nat) (place : Place) (stops : List Token) : Read Node := do
  match fuel with
  | 0 => throw .malformed
  | fuel + 1 => if ← nextIn stops then empty else node fuel place

/-- Reads the items of a block sequence up to its end. -/
def blockItems (fuel : Nat) : Read (List Node) := do
  match fuel with
  | 0 => throw .malformed
  | fuel + 1 =>
    if ← accept .entry then
      let item ← nodeUnless fuel .block [.entry, .blockEnd]
      return item :: (← blockItems fuel)
    else
      expect .blockEnd
      return []

/-- Reads the items of a sequence without indentation of its own. -/
def indentlessItems (fuel : Nat) : Read (List Node) := do
  match fuel with
  | 0 => throw .malformed
  | fuel + 1 =>
    if ← accept .entry then
      let item ← nodeUnless fuel .block [.entry, .key, .value, .blockEnd]
      return item :: (← indentlessItems fuel)
    else return []

/-- Reads the entries of a block map up to its end. -/
def blockEntries (fuel : Nat) : Read (List (Node × Node)) := do
  match fuel with
  | 0 => throw .malformed
  | fuel + 1 =>
    if ← accept .key then
      let key ← nodeUnless fuel .indentless [.key, .value, .blockEnd]
      let value ←
        if ← accept .value then nodeUnless fuel .indentless [.key, .value, .blockEnd]
        else empty
      return (key, value) :: (← blockEntries fuel)
    else
      expect .blockEnd
      return []

/-- Reads the items of a sequence in brackets; an item with a colon is a map of one entry. -/
def flowItems (fuel : Nat) (first : Bool) : Read (List Node) := do
  match fuel with
  | 0 => throw .malformed
  | fuel + 1 =>
    if ← accept .flowSequenceEnd then return []
    else
      if !first then expect .flowEntry
      if ← accept .flowSequenceEnd then return []
      else if ← accept .key then
        let key ← nodeUnless fuel .flow [.value, .flowEntry, .flowSequenceEnd]
        let value ←
          if ← accept .value then nodeUnless fuel .flow [.flowEntry, .flowSequenceEnd]
          else empty
        let item := .mapping (← nextNumber) (Tag.standard "map") [(key, value)]
        return item :: (← flowItems fuel false)
      else
        let item ← node fuel .flow
        return item :: (← flowItems fuel false)

/-- Reads the entries of a map in braces; an entry without colon has an empty value. -/
def flowEntries (fuel : Nat) (first : Bool) : Read (List (Node × Node)) := do
  match fuel with
  | 0 => throw .malformed
  | fuel + 1 =>
    if ← accept .flowMappingEnd then return []
    else
      if !first then expect .flowEntry
      if ← accept .flowMappingEnd then return []
      else if ← accept .key then
        let key ← nodeUnless fuel .flow [.value, .flowEntry, .flowMappingEnd]
        let value ←
          if ← accept .value then nodeUnless fuel .flow [.flowEntry, .flowMappingEnd]
          else empty
        return (key, value) :: (← flowEntries fuel false)
      else
        let key ← node fuel .flow
        let value ← empty
        return (key, value) :: (← flowEntries fuel false)

end

/-- The handles that every document has. -/
def standardHandles : List (String × String) := [("!", "!"), ("!!", Tag.standard "")]

/-- Reads the directives of a document; each may stand once. -/
def directives (fuel : Nat) (hasVersion : Bool) (handles : List (String × String)) :
    Read (List (String × String)) := do
  match fuel with
  | 0 => throw .malformed
  | fuel + 1 =>
    match ← peek with
    | some (.version major) =>
      if hasVersion ∨ major ≠ 1 then throw .malformed
      advance
      directives fuel true handles
    | some (.tagHandle handle start) =>
      if (handles.lookup handle).isSome then throw .malformed
      advance
      directives fuel hasVersion ((handle, start) :: handles)
    | some .otherDirective =>
      advance
      directives fuel hasVersion handles
    | _ => return handles

/-- Goes over the end marks that come next. -/
def skipEnds (fuel : Nat) : Read Unit := do
  match fuel with
  | 0 => return
  | fuel + 1 => if ← accept .documentEnd then skipEnds fuel

/-- Whether a directive comes next. -/
def atDirective : Read Bool := do
  match ← peek with
  | some (.version _) | some (.tagHandle _ _) | some .otherDirective => return true
  | _ => return false

/-- Reads the only document of a text; none if the text holds no document. -/
def document (fuel : Nat) : Read (Option Node) := do
  if (← peek).isNone then return none
  else
    let explicit := (← atDirective) || (← peek) == some .documentStart
    if explicit then
      let given ← directives fuel false []
      modify fun p => { p with handles := given ++ standardHandles }
      expect .documentStart
    let bare ←
      if explicit then do
        let next ← peek
        pure (next.isNone || next == some .documentStart || next == some .documentEnd ||
          (← atDirective))
      else pure false
    let root ← if bare then empty else node fuel .block
    skipEnds fuel
    if (← peek).isSome then
      -- the directives of a second document are read before it is refused
      let _ ← directives fuel false []
      expect .documentStart
      throw .malformed
    else return some root

/-- A node tree: its root, the nodes that have anchors, inner ones first, and whether a node lies
inside itself. -/
structure Tree where
  root : Node
  anchors : List (String × Node)
  loops : Bool

/-- The node tree of a row of tokens; none if it holds no document. -/
def ofTokens (ts : List Token) : Except Fault (Option Tree) := do
  let (root, progress) ← (document (8 * ts.length + 16)).run ⟨ts, standardHandles, [], 0, false⟩
  let anchors := progress.anchors.filterMap fun (name, n) => n.map fun n => (name, n)
  return root.map fun root => ⟨root, anchors.reverse, progress.loops⟩

end Node

end Yaml

end ModelForge
