import ModelForge.Document.Value
import ModelForge.Files.Path
import ModelForge.Number.Decimal
import ModelForge.Schema.Violation
import ModelForge.Text.Named

/-!
# Rules of a schema

The rules that read scalars, lists, maps and the members of objects. Scalars are read leniently
where no meaning is lost: octets that are UTF-8 count as text, `1` and `yes` as booleans, `1.0` as
an integer. The members of an object are read in the order of its schema, then members that no rule
knows are refused in the order they stand in.
-/

namespace ModelForge

namespace Schema

/-- A text. -/
def text : Value → Checked String
  | .text s => .valid s
  | .octets bs =>
    match Utf8.decode bs with
    | .ok s => .valid s
    | .error _ => .violation .brokenText
  | .brokenText _ => .violation .brokenText
  | _ => .violation .notText

/-- A text of a form, as one that is known to have it. -/
def formed (pattern : String) (form : String → Bool) (v : Value) :
    Checked { s : String // form s = true } :=
  (text v).andThen fun s =>
    if has : form s = true then .valid ⟨s, has⟩ else .violation (.badForm pattern)

/-- A text of a form. -/
def textLike (pattern : String) (form : String → Bool) (v : Value) : Checked String :=
  (formed pattern form v).map Subtype.val

/-- A text that is not empty. -/
def someText (v : Value) : Checked String :=
  (text v).andThen fun s => if s.isEmpty then .violation (.textTooShort 1) else .valid s

/-- One of some texts, each with what it stands for. -/
def listed {α : Type} (options : List (String × α)) (v : Value) : Checked α :=
  let found := match v with
    | .text s => options.lookup s
    | _ => none
  match found with
  | some a => .valid a
  | none => .violation (.notListed (options.map Prod.fst))

/-- A member of an enumeration by its name. -/
def named {α : Type} (options : List (String × α)) (v : Value) : Checked α :=
  let found := match v with
    | .text s => options.lookup s
    | _ => none
  match found with
  | some a => .valid a
  | none => .violation (.notNamed (options.map Prod.fst))

/-- The boolean that a word stands for. -/
def booleanWord (s : String) : Option Bool :=
  let word := String.ofList (s.toList.map Char.toLower)
  if ["1", "true", "t", "yes", "y", "on"].contains word then some true
  else if ["0", "false", "f", "no", "n", "off"].contains word then some false
  else none

/-- The size at which a number is no integer for a field any more: `2 ^ 63`. -/
def integerBound : Int := 9223372036854775808

/-- The boolean that a number stands for; only small enough numbers count as numbers here. -/
def booleanNumber (i : Int) : Checked Bool :=
  if i = 1 then .valid true
  else if i = 0 then .valid false
  else if -integerBound ≤ i ∧ i < integerBound then .violation .unreadableBoolean
  else .violation .notBoolean

/-- A boolean. -/
def boolean : Value → Checked Bool
  | .bool b => .valid b
  | .int i => booleanNumber i
  | .float x =>
    match x.toInt? with
    | some i => if i = -integerBound then .violation .notBoolean else booleanNumber i
    | none => .violation .notBoolean
  | .text s =>
    match booleanWord s with
    | some b => .valid b
    | none => .violation .unreadableBoolean
  | .octets bs =>
    match (Utf8.decode bs).toOption.bind booleanWord with
    | some b => .valid b
    | none => .violation .unreadableBoolean
  | .brokenText _ => .violation .unreadableBoolean
  | _ => .violation .notBoolean

/-- An integer; one written with a point or an exponent must be smaller than `integerBound`. -/
def anyInteger : Value → Checked Int
  | .int i => .valid i
  | .bool b => .valid (if b then 1 else 0)
  | .float x =>
    match x with
    | .nan | .infinite _ => .violation .infinite
    | _ =>
      match x.toInt? with
      | some i =>
        if -integerBound < i ∧ i < integerBound then .valid i else .violation .oversized
      | none => .violation .fractional
  | .text s =>
    match Integer.Lenient.parse s with
    | .ok i => .valid i
    | .error .tooLong => .violation .oversized
    | .error .malformed => .violation .unreadableInteger
  | _ => .violation .notInteger

/-- An integer not below a bound. -/
def integer (least : Int) (v : Value) : Checked Int :=
  (anyInteger v).andThen fun i => if least ≤ i then .valid i else .violation (.tooSmall least)

/-- The number nearest to a text with ASCII digits only. A text with underscores, each between two
other characters, counts without them, and then it has no blanks around it either. -/
def numberWord (s : List Char) : Option Binary64 :=
  if s.any fun c => (digit? c).isSome && !c.isDigit then none
  else if !s.contains '_' then Binary64.parse? s
  else
    let bare := Integer.Lenient.dropBars s
    if bare.contains '_' ∨ trimBlanks bare ≠ bare then none else Binary64.parse? bare

/-- A number that may have a fraction. -/
def number : Value → Checked Binary64
  | .float x => .valid x
  | .int i => .valid (Binary64.ofInt i)
  | .bool b => .valid (Binary64.ofInt (if b then 1 else 0))
  | .text s =>
    match numberWord s.toList with
    | some x => .valid x
    | none => .violation .unreadableNumber
  | _ => .violation .notNumber

/-- A number that is zero or more; what is no number is neither. -/
def size (v : Value) : Checked Binary64 :=
  (number v).andThen fun x =>
    match x with
    | .nan | .infinite true => .violation (.tooSmall 0)
    | .finite true m _ => if m = 0 then .valid x else .violation (.tooSmall 0)
    | _ => .valid x

/-- A path. -/
def path : Value → Checked Path
  | .text s => .valid (Path.ofString s)
  | _ => .violation .notPath

/-- What a rule reads, or null. -/
def optional {α : Type} (rule : Value → Checked α) : Value → Checked (Option α)
  | .null => .valid none
  | v => (rule v).map some

/-- The items of a list or set. -/
def itemsOf : Value → Option (List Value)
  | .list items => some items
  | .set items => some items
  | .pair a b => some [a, b]
  | _ => none

/-- Reads items, each at its index. -/
def eachFrom {α : Type} (rule : Value → Checked α) (index : Nat) :
    List Value → Checked (List α)
  | [] => .valid []
  | v :: rest =>
    (((rule v).below (toString index)).map List.cons).seq (eachFrom rule (index + 1) rest)

/-- The number of items that a rule accepts. -/
def countValid {α : Type} (rule : Value → Checked α) (items : List Value) : Nat :=
  (items.filter fun v => (rule v).toOption.isSome).length

/-- A list. -/
def list {α : Type} (rule : Value → Checked α) (v : Value) : Checked (List α) :=
  match itemsOf v with
  | some items => eachFrom rule 0 items
  | none => .violation .notList

/-- A list with a least number of valid items. -/
def listOf {α : Type} (least : Nat) (rule : Value → Checked α) (v : Value) : Checked (List α) :=
  match itemsOf v with
  | some items =>
    let found := countValid rule items
    if least ≤ found then eachFrom rule 0 items
    else
      .invalid ((eachFrom rule 0 items).violations ++ [⟨[], .tooFew least found⟩])
  | none => .violation .notList

/-- A set, by its items in the order they stand in. -/
def set {α : Type} (rule : Value → Checked α) (v : Value) : Checked (List α) :=
  match itemsOf v with
  | some items => eachFrom rule 0 items
  | none => .violation .notSet

/-- Reads the values of a map, each under its key; keys must be texts. -/
def eachEntry {α : Type} (rule : Value → Checked α) :
    List (Value × Value) → Checked (List (String × α))
  | [] => .valid []
  | (k, v) :: rest =>
    let key : Checked String :=
      match text k with
      | .valid s => .valid s
      | .invalid _ => ((Checked.violation .notText).below "[key]").below k.label
    let entry := (key.map Prod.mk).seq ((rule v).below k.label)
    (entry.map List.cons).seq (eachEntry rule rest)

/-- A map from texts. Every entry is read, and of entries with one key the last counts, at the place
of the first. -/
def map {α : Type} (rule : Value → Checked α) : Value → Checked (List (String × α))
  | .map entries => (eachEntry rule entries).map Named.ofList
  | _ => .violation .notMap

/-- A member of an object; a missing one has its fallback, if there is one. -/
def member {α : Type} (entries : List (Value × Value)) (name : String) (rule : Value → Checked α)
    (fallback : Option α) : Checked α :=
  match Value.lookup name entries, fallback with
  | some v, _ => (rule v).below name
  | none, some a => .valid a
  | none, none => (Checked.violation .missing).below name

/-- A member that must be there. -/
def required {α : Type} (entries : List (Value × Value)) (name : String)
    (rule : Value → Checked α) : Checked α :=
  member entries name rule none

/-- The text that a key stands for. -/
def keyText? : Value → Option String
  | .text s => some s
  | .octets bs => (Utf8.decode bs).toOption
  | _ => none

/-- The members other than those used, in their order. -/
def strangers (used : List String) : List (Value × Value) → List Violation
  | [] => []
  | (k, _) :: rest =>
    match keyText? k with
    | some s =>
      if used.contains s then strangers used rest
      else ⟨[k.label], .unexpected⟩ :: strangers used rest
    | none => ⟨[k.label], .badKey⟩ :: strangers used rest

/-- An object: what its members make, provided that no other members are there. Octets that spell
the name of a member count as that member only if it is there as well. Of an object with a broken
text for a key nothing else is said. -/
def closed {α : Type} (known : List String) (entries : List (Value × Value)) (a : Checked α) :
    Checked α :=
  if entries.any fun (k, _) => k matches .brokenText _ then .violation .brokenText
  else
    match strangers (known.filter fun name => (Value.lookup name entries).isSome) entries with
    | [] => a
    | vs => .invalid (a.violations ++ vs)

/-- An object read by its entries. -/
def object {α : Type} (model : String) (rule : List (Value × Value) → Checked α) :
    Value → Checked α
  | .map entries => rule entries
  | _ => .violation (.notObject model)

/-- One of several kinds of object, chosen by a member; the kind is part of the place of whatever is
wrong. -/
def variant {α : Type} (discriminator : String)
    (options : List (String × (List (Value × Value) → Checked α))) : Value → Checked α
  | .map entries =>
    match Value.lookup discriminator entries with
    | none => .violation (.noTag discriminator)
    | some v =>
      let found := match v with
        | .text s => (options.lookup s).map fun rule => (s, rule)
        | _ => none
      match found with
      | some (tag, rule) => (rule entries).below tag
      | none => .violation (.unknownTag v.display discriminator (options.map Prod.fst))
  | _ => .violation .notVariant

end Schema

end ModelForge
