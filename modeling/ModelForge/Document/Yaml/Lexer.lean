import ModelForge.Document.Yaml.Scan

/-!
# The tokens of a YAML text

Besides the marks that are written, the row of tokens holds those that indentation implies. That a
node is the key of a map shows only at the colon behind it, so a slot is left in front of every node
that may turn out to be one; `Lexer.finish` fills the slots of those that did.
-/

namespace ModelForge

namespace Yaml

/-- A place in the row: a token, or a slot for the marks of a key. -/
inductive Mark where
  | token (t : Token)
  | slot (number : Nat)

/-- A node that may be the key of a map. -/
structure PendingKey where
  slot : Nat
  /-- Whether no other reading is possible. -/
  required : Bool
  index : Nat
  line : Nat
  column : Nat

/-- The state of the lexer. -/
structure Lexer where
  cursor : Cursor
  /-- Depth of brackets and braces. -/
  flow : Nat
  /-- Columns of the open block collections, innermost first. -/
  indents : List Nat
  /-- Whether a key may start here. -/
  keyAllowed : Bool
  /-- The pending key of every flow level, innermost first. -/
  pending : List (Option PendingKey)
  /-- The row so far, last mark first. -/
  row : List Mark
  slots : Nat
  /-- The slots that hold a key, and whether a map starts there too. -/
  keys : List (Nat × Bool)

namespace Lexer

/-- The state before a text. -/
def start (s : List Char) : Lexer := ⟨Cursor.start s, 0, [], true, [none], [], 0, []⟩

/-- Adds a token. -/
def put (t : Token) (l : Lexer) : Lexer := { l with row := .token t :: l.row }

/-- Whether the innermost block collection starts left of a column. -/
def isLeftOf (l : Lexer) (column : Nat) : Bool :=
  match l.indents with
  | [] => true
  | indent :: _ => indent < column

/-- The column behind the indentation of the innermost block collection. -/
def inner (l : Lexer) : Nat :=
  match l.indents with
  | [] => 0
  | indent :: _ => indent + 1

/-- Closes the block collections among `indents` that start right of a column; all of them if there
is no column. -/
def closeBlocks (column : Option Nat) : List Nat → List Mark → List Nat × List Mark
  | [], row => ([], row)
  | indent :: rest, row =>
    if (match column with | none => true | some c => c < indent) then
      closeBlocks column rest (.token .blockEnd :: row)
    else (indent :: rest, row)

/-- Closes the block collections that a line at a column is no part of. -/
def unwind (column : Option Nat) (l : Lexer) : Lexer :=
  if l.flow ≠ 0 then l
  else
    let (indents, row) := closeBlocks column l.indents l.row
    { l with indents := indents, row := row }

/-- Opens a block collection at a column, unless one is open there. -/
def openBlock (t : Token) (column : Nat) (l : Lexer) : Lexer :=
  if l.isLeftOf column then { l.put t with indents := column :: l.indents } else l

/-- Forgets the pending key of the current level. -/
def dropKey (l : Lexer) : Except Fault Lexer :=
  match l.pending with
  | some key :: rest =>
    if key.required then fail else .ok { l with pending := none :: rest }
  | _ => .ok l

/-- Notes that the node at the cursor may be a key. -/
def noteKey (l : Lexer) : Except Fault Lexer := do
  if l.keyAllowed then
    let required := l.flow == 0 && l.indents.head? == some l.cursor.column
    let l ← l.dropKey
    let key : PendingKey :=
      ⟨l.slots, required, l.cursor.index, l.cursor.line, l.cursor.column⟩
    return { l with
      pending := some key :: l.pending.drop 1
      row := .slot l.slots :: l.row
      slots := l.slots + 1 }
  else return l

/-- The most characters a key may take. -/
def keyLimit : Nat := 1024

/-- Forgets the pending keys that can no longer be keys. -/
def dropStale (c : Cursor) : List (Option PendingKey) → Except Fault (List (Option PendingKey))
  | [] => .ok []
  | none :: rest => do return none :: (← dropStale c rest)
  | some key :: rest => do
    if key.line ≠ c.line ∨ keyLimit < c.index - key.index then
      if key.required then fail else return none :: (← dropStale c rest)
    else return some key :: (← dropStale c rest)

/-- Goes to the next token: over blanks, comments and line ends. -/
def skipToToken (fuel : Nat) (l : Lexer) : Lexer :=
  match fuel with
  | 0 => l
  | fuel + 1 =>
    let c := l.cursor.skipSpaces
    let c := if c.isAt '#' then c.skipLine else c
    match c.lineBreak with
    | (some _, c) =>
      skipToToken fuel { l with cursor := c, keyAllowed := l.keyAllowed || l.flow == 0 }
    | (none, _) => { l with cursor := c }

/-- Ends the open blocks and pending keys, as a document mark does. -/
def endBlocks (l : Lexer) : Except Fault Lexer := do
  return { ← (l.unwind none).dropKey with keyAllowed := false }

/-- A mark of a document. -/
def documentMark (t : Token) (l : Lexer) : Except Fault Lexer := do
  let l ← l.endBlocks
  return { l.put t with cursor := l.cursor.skip 3 }

/-- An opening bracket or brace. -/
def openFlow (t : Token) (l : Lexer) : Except Fault Lexer := do
  let l ← l.noteKey
  return { l.put t with
    flow := l.flow + 1
    pending := none :: l.pending
    keyAllowed := true
    cursor := l.cursor.next }

/-- A closing bracket or brace. -/
def closeFlow (t : Token) (l : Lexer) : Except Fault Lexer := do
  let l ← l.dropKey
  if l.flow = 0 then fail
  else
    return { l.put t with
      flow := l.flow - 1
      pending := l.pending.drop 1
      keyAllowed := false
      cursor := l.cursor.next }

/-- A comma between items. -/
def flowEntry (l : Lexer) : Except Fault Lexer := do
  let l ← l.dropKey
  return { l.put .flowEntry with keyAllowed := true, cursor := l.cursor.next }

/-- A hyphen in front of an item. -/
def blockEntry (l : Lexer) : Except Fault Lexer := do
  if l.flow = 0 ∧ !l.keyAllowed then fail
  else
    let l := if l.flow = 0 then l.openBlock .blockSequence l.cursor.column else l
    let l ← { l with keyAllowed := true }.dropKey
    return { l.put .entry with cursor := l.cursor.next }

/-- A question mark in front of a key. -/
def explicitKey (l : Lexer) : Except Fault Lexer := do
  if l.flow = 0 ∧ !l.keyAllowed then fail
  else
    let l := if l.flow = 0 then l.openBlock .blockMapping l.cursor.column else l
    let l ← { l with keyAllowed := l.flow == 0 }.dropKey
    return { l.put .key with cursor := l.cursor.next }

/-- A colon: it makes the pending node a key, or stands for an empty one. -/
def mapValue (l : Lexer) : Except Fault Lexer := do
  match l.pending with
  | some key :: rest =>
    let opens := l.flow == 0 && l.isLeftOf key.column
    let l := { l with
      pending := none :: rest
      keys := (key.slot, opens) :: l.keys
      indents := if opens then key.column :: l.indents else l.indents
      keyAllowed := false }
    return { l.put .value with cursor := l.cursor.next }
  | _ =>
    if l.flow = 0 ∧ !l.keyAllowed then fail
    else
      let l := if l.flow = 0 then l.openBlock .blockMapping l.cursor.column else l
      let l ← { l with keyAllowed := l.flow == 0 }.dropKey
      return { l.put .value with cursor := l.cursor.next }

/-- A node that may be a key and ends within its line. -/
def node {α : Type} (token : α → Token) (read : Cursor → Except Fault (α × Cursor)) (l : Lexer) :
    Except Fault Lexer := do
  let l ← l.noteKey
  let (a, c) ← read l.cursor
  return { l.put (token a) with cursor := c, keyAllowed := false }

/-- A block scalar. -/
def block (folded : Bool) (l : Lexer) : Except Fault Lexer := do
  let l ← { l with keyAllowed := true }.dropKey
  let (s, c) ← blockScalar folded l.inner l.cursor
  return { l.put (.scalar s) with cursor := c }

/-- A plain scalar. -/
def plain (l : Lexer) : Except Fault Lexer := do
  let l ← l.noteKey
  let (text, lineEnded, c) :=
    plainWords (l.cursor.rest.length + 1) (l.flow != 0) l.inner l.cursor
  return { l.put (.scalar ⟨true, codesOf text⟩) with cursor := c, keyAllowed := lineEnded }

/-- Whether a plain scalar can start with this text. -/
def startsPlain (inFlow : Bool) (ch : Char) (after : List Char) : Bool :=
  !(isBreak ch || " \t-?:,[]\x7b\x7d#&*!|>'\"%@`".toList.contains ch) ||
    (!atGap after && (ch == '-' || (!inFlow && (ch == '?' || ch == ':'))))

/-- Reads the token at the cursor; there is none at the end of the text. -/
def step (l : Lexer) : Except Fault (Option Lexer) := do
  let l := l.skipToToken (l.cursor.rest.length + 1)
  let l := { l with pending := ← dropStale l.cursor l.pending }
  let l := l.unwind (some l.cursor.column)
  let c := l.cursor
  match c.rest with
  | [] => do
    let _ ← l.endBlocks
    return none
  | ch :: after =>
    if ch = '%' ∧ c.column = 0 then do
      let l ← l.endBlocks
      let (t, c) ← directive c
      return some { l.put t with cursor := c }
    else if c.column = 0 ∧ c.atMarker '-' then some <$> l.documentMark .documentStart
    else if c.column = 0 ∧ c.atMarker '.' then some <$> l.documentMark .documentEnd
    else if ch = '[' then some <$> l.openFlow .flowSequence
    else if ch = '\x7b' then some <$> l.openFlow .flowMapping
    else if ch = ']' then some <$> l.closeFlow .flowSequenceEnd
    else if ch = '\x7d' then some <$> l.closeFlow .flowMappingEnd
    else if ch = ',' then some <$> l.flowEntry
    else if ch = '-' ∧ atGap after then some <$> l.blockEntry
    else if ch = '?' ∧ (l.flow ≠ 0 ∨ atGap after) then some <$> l.explicitKey
    else if ch = ':' ∧ (l.flow ≠ 0 ∨ atGap after) then some <$> l.mapValue
    else if ch = '*' then some <$> l.node .alias anchorName
    else if ch = '&' then some <$> l.node .anchor anchorName
    else if ch = '!' then some <$> l.node .tag Yaml.tag
    else if ch = '|' ∧ l.flow = 0 then some <$> l.block false
    else if ch = '>' ∧ l.flow = 0 then some <$> l.block true
    else if ch = '\'' then some <$> l.node .scalar (quotedScalar false)
    else if ch = '"' then some <$> l.node .scalar (quotedScalar true)
    else if startsPlain (l.flow != 0) ch after then some <$> l.plain
    else fail

/-- Fills the slots of a row, given last mark first. -/
def fill (keys : List (Nat × Bool)) : List Mark → List Token → List Token
  | [], acc => acc
  | .token t :: row, acc => fill keys row (t :: acc)
  | .slot n :: row, acc =>
    match keys.lookup n with
    | none => fill keys row acc
    | some true => fill keys row (.blockMapping :: .key :: acc)
    | some false => fill keys row (.key :: acc)

/-- The tokens of a finished lexer. -/
def finish (l : Lexer) (last : List Token) : List Token := fill l.keys l.row last

/-- The marks of a row, given last mark first, that stand in front of a slot. -/
def inFrontOf (slot : Nat) : List Mark → List Mark
  | [] => []
  | .slot n :: row => if n = slot then row else inFrontOf slot row
  | .token _ :: row => inFrontOf slot row

/-- The tokens in front of a fault. Whether a node is a key has to be settled before anything can
be made of the node, so the fault shows in place of the first node for which that is still open. -/
def failed (l : Lexer) (f : Fault) : List Token :=
  let pending := ((dropStale l.cursor l.pending).toOption.getD []).reverse
  match pending.findSome? id with
  | some key => fill l.keys (inFrontOf key.slot l.row) [.fault f]
  | none => l.finish [.fault f]

/-- The tokens from a state on. -/
def run (fuel : Nat) (l : Lexer) : List Token :=
  match fuel with
  | 0 => l.finish []
  | fuel + 1 =>
    match l.step with
    | .error f => l.failed f
    | .ok (some l) => run fuel l
    | .ok none => (l.unwind none).finish []

end Lexer

/-- The tokens of a text. -/
def tokens (s : List Char) : List Token :=
  if s.all isAllowed then
    let s := match s with
      | c :: rest => if c.toNat = 0xFEFF then rest else s
      | [] => s
    Lexer.run (s.length + 2) (Lexer.start s)
  else [.fault .malformed]

end Yaml

end ModelForge
