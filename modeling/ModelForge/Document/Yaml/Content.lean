import ModelForge.Document.Yaml.Node
import ModelForge.Document.Yaml.Scalar

/-!
# The value of a YAML node

A node becomes a document value by its tag. Entries of a map may be merged from other maps; a key
must be a scalar. The members of a set come in the order of the run. A node with an anchor has one
value for all its uses; a node that lies inside itself is unrolled a number of times, deeper than
any schema looks. Of several faults the one nearest the root is reported, and among equals the first
(`Tree.faultOf`).
-/

namespace ModelForge

namespace Yaml

namespace Node

/-- The node itself, or the one that has the anchor. -/
def resolve (anchors : List (String × Node)) : Node → Node
  | .named a => (anchors.lookup a).getD (.scalar 0 (Tag.standard "null") [])
  | n => n

/-- The tag of a node. -/
def tag (anchors : List (String × Node)) (n : Node) : String :=
  match n.resolve anchors with
  | .scalar _ t _ | .sequence _ t _ | .mapping _ t _ => t
  | .named _ => ""

/-- The number of a node. -/
def number (anchors : List (String × Node)) (n : Node) : Nat :=
  match n.resolve anchors with
  | .scalar k _ _ | .sequence k _ _ | .mapping k _ _ => k
  | .named _ => 0

/-- Whether a key brings in the entries of other maps. -/
def isMerge (anchors : List (String × Node)) (k : Node) : Bool :=
  k.tag anchors == Tag.standard "merge"

/-- The key of an entry: the mark `=` is a text as a key. -/
def asKey (anchors : List (String × Node)) (k : Node) : Node :=
  match k.resolve anchors with
  | .scalar n t codes =>
    if t = Tag.standard "value" then .scalar n (Tag.standard "str") codes else k
  | _ => k

/-- The entries that a map has without those it merges. -/
def ownEntries (anchors : List (String × Node)) (entries : List (Node × Node)) :
    List (Node × Node) :=
  (entries.filter fun (k, _) => !k.isMerge anchors).map fun (k, v) => (k.asKey anchors, v)

/-- The entries of a map with merged ones in front, those of the last of several maps first. A map
that is being merged into itself brings in its own entries only. -/
def entriesOf (anchors : List (String × Node)) : Nat → List String → Node →
    Except Fault (List (Node × Node))
  | 0, _, _ => fail
  | fuel + 1, busy, n =>
    match n with
    | .named a =>
      match n.resolve anchors with
      | .mapping k t entries =>
        if busy.contains a then .ok (ownEntries anchors entries)
        else entriesOf anchors fuel (a :: busy) (.mapping k t entries)
      | _ => fail
    | .mapping _ _ entries => do
      let merged ← (entries.filter fun (k, _) => k.isMerge anchors).mapM fun (_, v) =>
        match v.resolve anchors with
        | .mapping _ _ _ => entriesOf anchors fuel busy v
        | .sequence _ _ items => do
          return (← items.mapM (entriesOf anchors fuel busy)).reverse.flatten
        | _ => fail
      return merged.flatten ++ ownEntries anchors entries
    | _ => fail

/-- The scalar text of a node; a map may hold it under the key `=`. -/
def scalarCodes (anchors : List (String × Node)) : Nat → Node → Except Fault (List Nat)
  | 0, _ => fail
  | fuel + 1, n =>
    match n.resolve anchors with
    | .scalar _ _ codes => .ok codes
    | .mapping _ _ entries =>
      match entries.find? fun (k, _) => k.tag anchors == Tag.standard "value" with
      | some (_, v) => scalarCodes anchors fuel v
      | none => fail
    | _ => fail

/-- The types of scalars. -/
def scalarTypes : List (String × (List Char → Except Fault Value)) :=
  [(Tag.standard "null", fun _ => .ok .null), (Tag.standard "bool", Scalar.bool),
   (Tag.standard "int", Scalar.int), (Tag.standard "float", Scalar.float),
   (Tag.standard "timestamp", Scalar.moment), (Tag.standard "binary", Scalar.binary)]

/-- The types of collections. -/
def collectionTypes : List String :=
  ["omap", "pairs", "set", "seq", "map"].map Tag.standard

/-- The value of a node with the tag of a scalar; none if the tag is that of a collection. -/
def scalarValue? (anchors : List (String × Node)) (fuel : Nat) (n : Node) :
    Except Fault (Option Value) := do
  let t := n.tag anchors
  if t = Tag.standard "str" then return some (textOf (← scalarCodes anchors fuel n))
  else
    match scalarTypes.lookup t with
    | some read =>
      match charsOf? (← scalarCodes anchors fuel n) with
      | some s => return some (← read s)
      | none => fail
    | none => if collectionTypes.contains t then return none else fail

/-- Which of the values that are no number a key is: the one with a word, or that of its node. -/
def noNumberMark (anchors : List (String × Node)) (k : Node) : Option Nat :=
  match k.resolve anchors with
  | .scalar _ _ codes =>
    if ((charsOf? codes).map Scalar.isNoNumber) == some true then none else some (k.number anchors)
  | _ => some (k.number anchors)

/-- An entry of a map: which value that is no number its key is, the key and the value. -/
abbrev Entry := Option Nat × Value × Value

/-- Whether two entries have the same key. -/
def sameKey (a b : Entry) : Bool :=
  match a.2.1, b.2.1 with
  | .float .nan, .float .nan => a.1 == b.1
  | k, l => k.sameKey l

/-- Puts an entry behind others: a key already there keeps its place and its spelling. -/
def putEntry (e : Entry) : List Entry → List Entry
  | [] => [e]
  | d :: rest => if sameKey d e then (d.1, d.2.1, e.2.2) :: rest else d :: putEntry e rest

/-- The entries that stay of entries written one after the other: later ones win. -/
def unifyEntries (entries : List Entry) : List (Value × Value) :=
  (entries.foldl (fun acc e => putEntry e acc) []).map Prod.snd

variable [SetOrder]

/-- The value of a node, given those of the nodes with an anchor; one that is not known yet counts
as null. -/
def value (anchors : List (String × Node)) (known : List (String × Except Fault Value)) :
    Nat → Node → Except Fault Value
  | 0, _ => fail
  | fuel + 1, n =>
    match n with
    | .named a => (known.lookup a).getD (.ok .null)
    | _ => do
      match ← scalarValue? anchors fuel n with
      | some v => return v
      | none =>
        match n with
        | .sequence _ t items =>
          if t = Tag.standard "seq" then
            return .list (← items.mapM (value anchors known fuel))
          else if t = Tag.standard "omap" ∨ t = Tag.standard "pairs" then
            return .list (← items.mapM fun item =>
              match item.resolve anchors with
              | .mapping _ _ [(k, v)] => do
                return .pair (← value anchors known fuel k) (← value anchors known fuel v)
              | _ => fail)
          else fail
        | .mapping _ t _ => do
          let entries ← (← entriesOf anchors fuel [] n).mapM fun (k, v) => do
            let key ← value anchors known fuel k
            if key.isKey then
              return (k.noNumberMark anchors, key, ← value anchors known fuel v)
            else fail
          if t = Tag.standard "map" then return .map (unifyEntries entries)
          else if t = Tag.standard "set" then
            return .set (SetOrder.arrange ((unifyEntries entries).map Prod.fst))
          else fail
        | _ => fail

/-- What is looked at when a collection is opened. -/
inductive Part where
  | key (n : Node)
  | item (n : Node)
  /-- An item of an ordered map that is no map of one entry. -/
  | misshapen

/-- The parts of a collection in their order, once its shape has been checked. -/
def parts (anchors : List (String × Node)) (fuel : Nat) (n : Node) : Except Fault (List Part) := do
  let t := n.tag anchors
  if t = Tag.standard "map" ∨ t = Tag.standard "set" then
    return (← entriesOf anchors fuel [] n).flatMap fun (k, v) => [.key k, .item v]
  else
    match n.resolve anchors with
    | .sequence _ _ items =>
      if t = Tag.standard "seq" then return items.map .item
      else
        return items.flatMap fun item =>
          match item.resolve anchors with
          | .mapping _ _ [(k, v)] => [.item k, .item v]
          | _ => [.misshapen]
    | _ => fail

/-- The first fault among the parts of a collection, or the collections among them that have not
been seen, and what has been seen then. -/
def inspect (anchors : List (String × Node)) (fuel : Nat) (seen : List Nat) :
    List Part → Except Fault (List Node × List Nat)
  | [] => .ok ([], seen)
  | .misshapen :: _ => fail
  | .key k :: rest => do
    match ← scalarValue? anchors fuel k with
    | some _ => inspect anchors fuel seen rest
    | none => fail
  | .item n :: rest => do
    if seen.contains (n.number anchors) then inspect anchors fuel seen rest
    else
      match ← scalarValue? anchors fuel n with
      | some _ => inspect anchors fuel seen rest
      | none =>
        let (inner, seen) ← inspect anchors fuel (n.number anchors :: seen) rest
        return (n :: inner, seen)

/-- The fault found first when the collections of a queue are opened one after the other. -/
def faultOf (anchors : List (String × Node)) (fuel : Nat) (seen : List Nat) (queue : List Node) :
    Option Fault :=
  match fuel with
  | 0 => none
  | fuel + 1 =>
    match queue with
    | [] => none
    | n :: rest =>
      match parts anchors fuel n >>= inspect anchors fuel seen with
      | .error f => some f
      | .ok (inner, seen) => faultOf anchors fuel seen (rest ++ inner)

namespace Tree

/-- How often a node that lies inside itself is unrolled. -/
def loopLimit : Nat := 8

/-- The values of the nodes with an anchor, given those known before. -/
def knownValues (t : Tree) (fuel : Nat) (known : List (String × Except Fault Value)) :
    List (String × Except Fault Value) :=
  t.anchors.foldl (fun known (a, n) => (a, value t.anchors known fuel n) :: known) known

/-- The values of the nodes with an anchor after some rounds. -/
def knownAfter (t : Tree) (fuel : Nat) : Nat → List (String × Except Fault Value)
  | 0 => []
  | rounds + 1 => t.knownValues fuel (t.knownAfter fuel rounds)

/-- The value of a document's root, with the fault nearest the root if it has none. -/
def content (t : Tree) (fuel : Nat) : Except Fault Value := do
  match ← scalarValue? t.anchors fuel t.root with
  | some v => return v
  | none =>
    let rounds := if t.loops then loopLimit else 1
    match value t.anchors (t.knownAfter fuel rounds) fuel t.root with
    | .ok v => return v
    | .error f =>
      throw ((faultOf t.anchors fuel [t.root.number t.anchors] [t.root]).getD f)

end Tree

end Node

end Yaml

/-- Reads the only document of a YAML text; an empty text holds null. -/
def Yaml.parse [SetOrder] (s : List Char) : Except Yaml.Fault Value := do
  let ts := Yaml.tokens s
  match ← Yaml.Node.ofTokens ts with
  | none => return .null
  | some tree => tree.content (1000 + 8 * ts.length)

end ModelForge
