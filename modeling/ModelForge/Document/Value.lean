import ModelForge.Number.Binary64
import ModelForge.Number.Integer
import ModelForge.Text.Quoted

/-!
# Document values

What a document can hold before a schema has looked at it: scalars of several types, lists, maps
that remember the order of their keys, sets, and the pairs of an ordered map. Keys of a map are
values too; numbers that are equal are the same key whatever their type (`sameKey`). A set comes in
an order of its own (`SetOrder`).
-/

namespace ModelForge

/-- A value of a document. -/
inductive Value where
  | null
  | bool (b : Bool)
  | int (i : Int)
  | float (x : Binary64)
  | text (s : String)
  /-- A text with unpaired surrogates, by its code points. -/
  | brokenText (codes : List Nat)
  | octets (bs : Octets)
  /-- A calendar date or time, by its literal, and its instant if it has a zone. -/
  | moment (literal : String) (instant : Option Int)
  | list (items : List Value)
  | pair (first second : Value)
  | set (items : List Value)
  | map (entries : List (Value × Value))

/-- The order in which the members of a set come, given the order in which they were put in. It is
settled when an interpreter starts and may be another one the next time; all that is known of it is
that within a run sets that were built alike come alike. -/
class SetOrder where
  arrange : List Value → List Value
  perm (members : List Value) : (arrange members).Perm members

/-- The order in which the members were put in. -/
@[reducible]
def SetOrder.asWritten : SetOrder := ⟨id, fun _ => .refl _⟩

namespace Value

/-- A map from texts. -/
def object (members : List (String × Value)) : Value :=
  .map (members.map fun (name, v) => (.text name, v))

/-- A list of texts. -/
def texts (ss : List String) : Value := .list (ss.map .text)

/-- A text, or null if there is none. -/
def textOrNull : Option String → Value
  | some s => .text s
  | none => .null

/-- An integer, or null if there is none. -/
def intOrNull : Option Int → Value
  | some i => .int i
  | none => .null

/-- The number that a boolean, integer or float stands for, as a fraction with sign. -/
private def fraction? : Value → Option (Int × Nat)
  | .bool b => some (if b then 1 else 0, 1)
  | .int i => some (i, 1)
  | .float (.finite s m e) =>
    let (n, d) := Binary64.ratio m e
    some (if s then -(n : Int) else n, d)
  | _ => none

/-- Whether two scalars are the same key of a map. -/
def sameKey (a b : Value) : Bool :=
  match fraction? a, fraction? b with
  | some (n, d), some (m, e) => n * e == m * d
  | _, _ =>
    match a, b with
    | .null, .null => true
    | .text s, .text t => s == t
    | .brokenText s, .brokenText t => s == t
    | .octets s, .octets t => s == t
    | .moment s i, .moment t j => s == t || (i.isSome && i == j)
    | .float (.infinite s), .float (.infinite t) => s == t
    | _, _ => false

/-- Whether a value can be a key of a map. -/
def isKey : Value → Bool
  | .list _ | .set _ | .map _ => false
  | _ => true

/-- Whether a value is nothing: null, false, a zero, or empty. -/
def isNothing : Value → Bool
  | .null => true
  | .bool b => !b
  | .int i => i == 0
  | .float x => x.isZero
  | .text s => s.isEmpty
  | .octets bs => bs.isEmpty
  | .list items => items.isEmpty
  | .set items => items.isEmpty
  | .map entries => entries.isEmpty
  | _ => false

/-- Puts an entry into a map: a key already there keeps its place and its spelling. -/
def putEntry (key value : Value) : List (Value × Value) → List (Value × Value)
  | [] => [(key, value)]
  | (k, v) :: rest =>
    if k.sameKey key then (k, value) :: rest else (k, v) :: putEntry key value rest

/-- The map that entries written one after the other make: later ones win. -/
def mapOf (entries : List (Value × Value)) : Value :=
  .map (entries.foldl (fun acc (k, v) => putEntry k v acc) [])

mutual

/-- A value in which every map has each key once: later entries win. -/
def unify : Value → Value
  | .list items => .list (unifyAll items)
  | .map entries => mapOf (unifyEntries entries)
  | v => v

/-- Values in which every map has each key once. -/
def unifyAll : List Value → List Value
  | [] => []
  | v :: rest => unify v :: unifyAll rest

/-- Entries in whose values every map has each key once. -/
def unifyEntries : List (Value × Value) → List (Value × Value)
  | [] => []
  | (k, v) :: rest => (k, unify v) :: unifyEntries rest

end

/-- The value under a text key, the last one if the key comes more than once. -/
def lookup (name : String) : List (Value × Value) → Option Value
  | [] => none
  | (.text s, v) :: rest =>
    (lookup name rest).orElse fun _ => if s = name then some v else none
  | _ :: rest => lookup name rest

/-- The text of a value that is one. -/
def text? : Value → Option String
  | .text s => some s
  | _ => none

/-- The items of a value that is a list. -/
def items : Value → List Value
  | .list vs => vs
  | _ => []

/-- The texts in a value that is a list. -/
def textItems (v : Value) : List String := v.items.filterMap text?

/-- The members of a value that is a map from texts. -/
def members : Value → List (String × Value)
  | .map entries => entries.filterMap fun (k, v) => k.text?.map fun name => (name, v)
  | _ => []

/-- The member with a name of a value that is a map. -/
def member? (v : Value) (name : String) : Option Value :=
  match v with
  | .map entries => lookup name entries
  | _ => none

/-- A code point, which may be a surrogate, as it stands between the quotes `q`. -/
private def codeLiteral (q : Char) (n : Nat) : List Char :=
  if 0xD800 ≤ n ∧ n ≤ 0xDFFF then '\\' :: 'u' :: Quoted.hexDigits 4 n
  else Quoted.escapeChar q (Char.ofNat n)

/-- The literal of a text given by its code points. -/
private def codesLiteral (codes : List Nat) : String :=
  let q := Quoted.delimiter (codes.map Char.ofNat)
  String.ofList (q :: codes.flatMap (codeLiteral q) ++ [q])

mutual

/-- The literal form of a value. -/
def literal : Value → String
  | .null => "None"
  | .bool b => if b then "True" else "False"
  | .int i => toString i
  | .float x => x.text
  | .text s => Quoted.quote s
  | .brokenText codes => codesLiteral codes
  | .octets bs => Quoted.quoteOctets bs
  | .moment s _ => s
  | .list items => "[" ++ String.intercalate ", " (literals items) ++ "]"
  | .pair a b => "(" ++ literal a ++ ", " ++ literal b ++ ")"
  | .set [] => "set()"
  | .set items => "\x7b" ++ String.intercalate ", " (literals items) ++ "\x7d"
  | .map entries => "\x7b" ++ String.intercalate ", " (entryLiterals entries) ++ "\x7d"

/-- The literal forms of values. -/
def literals : List Value → List String
  | [] => []
  | v :: rest => literal v :: literals rest

/-- The literal forms of map entries. -/
def entryLiterals : List (Value × Value) → List String
  | [] => []
  | (k, v) :: rest => (literal k ++ ": " ++ literal v) :: entryLiterals rest

end

/-- The text of a value: a text is itself and anything else is its literal form. -/
def display : Value → String
  | .text s => s
  | v => v.literal

/-- How a key is named in the location of a violation; an integer must not have too many digits. -/
def label : Value → String
  | .text s => s
  | .bool b => if b then "1" else "0"
  | .int i =>
    let digits := toString i.natAbs
    if Integer.digitLimit < digits.length then "<unprintable int object>"
    else if i < 0 then "-" ++ digits else digits
  | v => v.literal

end Value

end ModelForge
