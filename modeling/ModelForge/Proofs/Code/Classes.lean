import ModelForge.Code.Fault
import ModelForge.Proofs.Code.Lines

/-! # Classes are read back

`ModelForge.Code.classes` reads from the text of a module which classes it declares, which of them
are enumerations, and for each constructor the names of its parameters and whether it copies values
into a list. Line by line, this comes to what the elements of the module say of themselves
(`ModelForge.Code.classes_code`).
-/

namespace ModelForge

namespace Code

open Fault (afterStart className? parameters? parametersFrom constructorStart indentation)

/-! ## The classes of a text -/

/-- A class in the text of a module. -/
structure ClassText where
  name : String
  /-- Whether it is built on `enum.Enum`. -/
  isEnumeration : Bool
  /-- The parameters of its constructor. -/
  parameters : List String
  /-- Whether its constructor sets something to a `list` of values. -/
  copies : Bool
  deriving DecidableEq, Repr

/-- Whether a line begins an enumeration. -/
def isEnumerationLine (line : List Char) : Bool := "(enum.Enum):".toList.isSuffixOf line

/-- Whether a line sets something to a `list` of values. -/
def isCopyLine (line : List Char) : Bool := "= list(".toList.isPrefixOf (line.dropWhile (· ≠ '='))

/-- The classes of some lines, and before the first one the parameters of a constructor and whether
values are copied. -/
def readClasses : List (List Char) → (List String × Bool) × List ClassText
  | [] => (([], false), [])
  | line :: rest =>
    let read := readClasses rest
    match className? line with
    | some name =>
      (([], false), ⟨name, isEnumerationLine line, read.1.1, read.1.2⟩ :: read.2)
    | none =>
      match parameters? line with
      | some parameters => ((parameters.map Prod.snd, read.1.2), read.2)
      | none => ((read.1.1, isCopyLine line || read.1.2), read.2)

/-- The classes of a text. -/
def classes (text : String) : List ClassText :=
  (readClasses (Segments.splitOn '\n' text.toList)).2

variable {e : Element} {es : List Element} {p : Property} {ps : List Property} {name : String}
  {line : List Char} {rest : List (List Char)}

/-! ## Kinds of lines -/

/-- A line that begins neither a class nor a constructor may say that values are copied. -/
theorem readClasses_of_other (noClass : className? line = none)
    (noConstructor : parameters? line = none) (rest : List (List Char)) :
    readClasses (line :: rest) =
      (((readClasses rest).1.1, isCopyLine line || (readClasses rest).1.2),
        (readClasses rest).2) := by
  rw [readClasses, noClass, noConstructor]

/-- A line that begins a class closes what is read behind it. -/
theorem readClasses_of_class (begins : className? line = some name) (rest : List (List Char)) :
    readClasses (line :: rest) = (([], false), ⟨name, isEnumerationLine line,
      (readClasses rest).1.1, (readClasses rest).1.2⟩ :: (readClasses rest).2) := by
  rw [readClasses, begins]

/-- A constructor gives the names of its parameters. -/
theorem readClasses_of_constructor {names : List String} (noClass : className? line = none)
    (begins : (parameters? line).map (List.map Prod.snd) = some names) (rest : List (List Char)) :
    readClasses (line :: rest) = ((names, (readClasses rest).1.2), (readClasses rest).2) := by
  obtain ⟨parameters, read, rfl⟩ := Option.map_eq_some_iff.mp begins
  rw [readClasses, noClass, read]

/-- What stands behind a start. -/
theorem afterStart_append (start rest : List Char) :
    afterStart start (start ++ rest) = some rest := by
  unfold afterStart
  rw [if_pos (List.isPrefixOf_iff_prefix.mpr (List.prefix_append start rest)), List.drop_left]

theorem afterStart_of_other {start : List Char} (other : ¬ start <+: line) :
    afterStart start line = none := by
  unfold afterStart
  rw [if_neg fun starts => other (List.isPrefixOf_iff_prefix.mp starts)]

/-- The name of a class is read from its first line. -/
theorem className?_class (named : isIdentifier name = true) {c : Char}
    (other : Identifier.isPart c = false) (rest : List Char) :
    className? ("class ".toList ++ name.toList ++ c :: rest) = some name := by
  unfold className?
  rw [List.append_assoc, afterStart_append, Option.map_some,
    Identifier.takeWhile_append named other, String.ofList_toList]

/-- Whether a line copies a list is seen behind its sign of equality. -/
theorem isCopyLine_of_free {before after : List Char} (free : '=' ∉ before) :
    isCopyLine (before ++ '=' :: after) = "= list(".toList.isPrefixOf ('=' :: after) := by
  have skipped : ∀ c ∈ before, decide (c ≠ '=') = true := fun c member =>
    decide_eq_true fun same => free (same ▸ member)
  unfold isCopyLine
  rw [List.dropWhile_append_of_pos skipped, List.dropWhile_cons_of_neg (by decide)]

/-- A line that neither begins a class or a constructor nor copies values. -/
structure PlainLine (line : List Char) : Prop where
  noClass : className? line = none
  noConstructor : parameters? line = none
  noCopy : isCopyLine line = false

/-- Plain lines say nothing of classes. -/
theorem readClasses_of_plain (plain : PlainLine line) (rest : List (List Char)) :
    readClasses (line :: rest) = readClasses rest := by
  rw [readClasses_of_other plain.noClass plain.noConstructor, plain.noCopy, Bool.false_or]

theorem plain_blank : PlainLine "".toList := ⟨rfl, rfl, rfl⟩

/-- Lines that set something to a literal or to a tuple copy no values. -/
theorem noCopy_of_assignment {before : List Char} {c : Char} {after : List Char}
    (free : '=' ∉ before) (other : c ≠ 'l') :
    isCopyLine (before ++ '=' :: ' ' :: c :: after) = false := by
  rw [isCopyLine_of_free free, Bool.eq_false_iff]
  intro starts
  obtain ⟨rest, same⟩ := List.isPrefixOf_iff_prefix.mp starts
  exact other (List.cons.inj (List.cons.inj (List.cons.inj same).2).2).1.symm

/-- A literal or a tuple. -/
def OpensLiteral (text : String) : Prop := ∃ c rest, text.toList = c :: rest ∧ c ≠ 'l'

/-- Quoted texts open a literal. -/
theorem opens_quote (s : String) : OpensLiteral (Quoted.quote s) := by
  refine ⟨_, _, Quoted.toList_quote s, ?_⟩
  rcases Quoted.delimiter_cases s.toList with single | double
  · rw [single]
    decide
  · rw [double]
    decide

theorem opens_parenthesized (inside after : String) : OpensLiteral ("(" ++ inside ++ after) := by
  refine ⟨'(', inside.toList ++ after.toList, ?_, by decide⟩
  rw [String.toList_append, String.toList_append, List.append_assoc]
  rfl

/-- Tuples of quoted texts open a literal. -/
theorem opens_tuple (items : List String) : OpensLiteral (Quoted.tuple items) := by
  unfold Quoted.tuple
  split
  · exact opens_parenthesized "" ")"
  · exact opens_parenthesized _ _
  · exact opens_parenthesized _ _

/-- What the lines that give a class its fields start with. -/
def fields : List String :=
  ["__pure_path__ = ", "__pure_supertypes__ = ", "__pure_stereotypes__ = ", "__slots__ = "]

theorem exists_of_mem_fields {field : String} (known : field ∈ fields) :
    ∃ letters, field.toList = '_' :: letters ++ '=' :: [' '] ∧ '=' ∉ '_' :: letters := by
  simp only [fields, List.mem_cons, List.not_mem_nil, or_false] at known
  rcases known with rfl | rfl | rfl | rfl
  · exact ⟨"_pure_path__ ".toList, by decide, by decide⟩
  · exact ⟨"_pure_supertypes__ ".toList, by decide, by decide⟩
  · exact ⟨"_pure_stereotypes__ ".toList, by decide, by decide⟩
  · exact ⟨"_slots__ ".toList, by decide, by decide⟩

/-- The line of a field in a class. -/
theorem plain_field {value : String} (field : String) (known : field ∈ fields)
    (opens : OpensLiteral value) :
    PlainLine (indented 1 (field ++ value)).toList := by
  obtain ⟨c, after, shape, other⟩ := opens
  obtain ⟨letters, text, free⟩ := exists_of_mem_fields known
  have line : (indented 1 (field ++ value)).toList =
      ("    ".toList ++ '_' :: letters) ++ '=' :: ' ' :: c :: after := by
    unfold indented
    rw [String.toList_append, String.toList_append, text, shape]
    simp
  have free' : '=' ∉ "    ".toList ++ '_' :: letters := by simpa using free
  rw [line]
  exact ⟨rfl, rfl, noCopy_of_assignment free' other⟩

/-- The line of a value in an enumeration. -/
theorem plain_value (named : isIdentifier name = true) :
    PlainLine (valueLine name).toList := by
  obtain ⟨c, after, shape, other⟩ := opens_quote name
  have line : (valueLine name).toList =
      ("    ".toList ++ name.toList ++ [' ']) ++ '=' :: ' ' :: c :: after := by
    unfold valueLine indented
    simp only [String.toList_append, List.append_assoc, shape]
    rfl
  have free : '=' ∉ "    ".toList ++ name.toList ++ [' '] := by
    have inside := Identifier.not_mem_of_isPart (c := '=') named (by decide)
    simpa using inside
  rw [line]
  refine ⟨rfl, ?_, noCopy_of_assignment free other⟩
  unfold parameters?
  rw [afterStart_of_other, Option.map_none]
  -- were the name `def`, no equals sign could follow
  rintro ⟨rest, same⟩
  have blanks : "    ".toList ++ ("def".toList ++ ' ' :: ("__init__(".toList ++ rest)) =
      "    ".toList ++ (name.toList ++ ' ' :: '=' :: ' ' :: c :: after) := same.trans (by simp)
  have behind := List.append_cancel_left blanks
  have ends := Identifier.append_cons_inj (by decide) named (by decide) (by decide) behind
  cases (List.cons.inj ends.2.2).1

/-- The line of a field of an enumeration. -/
theorem plain_member {value : String} (named : isIdentifier name = true) (field : String)
    (known : field ∈ fields) (opens : OpensLiteral value) :
    PlainLine (name ++ ("." ++ field) ++ value).toList := by
  obtain ⟨c, after, shape, other⟩ := opens
  obtain ⟨letters, text, free⟩ := exists_of_mem_fields known
  have line : (name ++ ("." ++ field) ++ value).toList =
      (name.toList ++ '.' :: '_' :: letters) ++ '=' :: ' ' :: c :: after := by
    simp only [String.toList_append, text, shape]
    simp
  have free' : '=' ∉ name.toList ++ '.' :: '_' :: letters := by
    have inside := Identifier.not_mem_of_isPart (c := '=') named (by decide)
    simpa [inside] using free
  rw [line]
  refine ⟨?_, ?_, noCopy_of_assignment free' other⟩
  · unfold className?
    rw [afterStart_of_other, Option.map_none]
    rintro ⟨rest, same⟩
    have behind : "class".toList ++ ' ' :: rest = name.toList ++ '.' ::
        ('_' :: letters ++ '=' :: ' ' :: c :: after) := same.trans (by simp)
    have ends := Identifier.append_cons_inj (by decide) named (by decide) (by decide) behind
    cases ends.2.1
  · unfold parameters?
    rw [afterStart_of_other, Option.map_none]
    rintro ⟨rest, same⟩
    have blank := Identifier.not_mem_of_isPart (c := ' ') named (by decide)
    cases shape' : name.toList with
    | nil =>
      rw [shape'] at same
      cases (List.cons.inj same).1
    | cons d letters =>
      rw [shape'] at same blank
      exact blank ((List.cons.inj same).1 ▸ List.mem_cons_self)

/-! ## Constructors -/

/-- The name of a parameter, with its default and its type behind it. -/
def parameterName? (segment : List Char) : Option String :=
  let name := (segment.drop (indentation segment)).takeWhile Identifier.isPart
  if name.isEmpty then none else some (String.ofList name)

/-- The parameters of a constructor are named in its segments. -/
theorem names_parametersFrom (column : Nat) (segments : List (List Char)) :
    (parametersFrom column segments).map Prod.snd = segments.filterMap parameterName? := by
  induction segments generalizing column with
  | nil => rfl
  | cons segment segments ih =>
    rw [parametersFrom, List.filterMap_cons]
    unfold parameterName?
    dsimp only
    split
    · exact ih _
    · rw [List.map_cons, ih]
      rfl

/-- The name of a parameter is read from its text. -/
theorem parameterName?_parameter (named : isIdentifier p.name = true) :
    parameterName? (' ' :: (parameter p).toList) = some p.name := by
  obtain ⟨c, letters, shape⟩ : ∃ c letters, p.name.toList = c :: letters :=
    List.exists_cons_of_ne_nil fun none => by
      unfold isIdentifier at named
      rw [none] at named
      cases named
  have blank : ' ' ∉ p.name.toList := Identifier.not_mem_of_isPart named (by decide)
  rw [shape] at blank
  have text : (parameter p).toList =
      p.name.toList ++ ':' :: ' ' :: ( annotation p ++ " = None").toList := by
    unfold parameter
    simp only [String.toList_append, List.append_assoc]
    rfl
  have indented : indentation (' ' :: (parameter p).toList) = 1 := by
    have first : (c == ' ') = false := beq_false_of_ne fun same => blank (same ▸ List.mem_cons_self)
    rw [text, shape]
    unfold indentation
    rw [List.takeWhile_cons_of_pos (by decide), List.cons_append,
      List.takeWhile_cons_of_neg (by rw [first]; decide)]
    rfl
  unfold parameterName?
  dsimp only
  rw [indented, List.drop_one, List.tail_cons, text, Identifier.takeWhile_append named (by decide),
    String.ofList_toList, shape]
  rfl

theorem paren_not_mem_parameterText (named : ∀ p ∈ ps, isIdentifier p.name = true) :
    ')' ∉ (parameterText ps).toList := by
  unfold parameterText
  split
  · decide
  · rw [String.toList_append, Segments.toList_intercalate, List.mem_append]
    rintro (inside | inside)
    · exact absurd inside (by decide)
    · rcases Segments.mem_joinWith inside with comma | ⟨seg, member, within⟩
      · exact absurd comma (by decide)
      · obtain ⟨p, known, rfl⟩ := by simpa using member
        exact not_mem_parameter (named p known) (by decide) (by decide) within

/-- The names of the parameters of a constructor are read from its first line. -/
theorem parameters?_constructor (named : ∀ p ∈ ps, isIdentifier p.name = true) :
    (parameters? (indented 1 ("def __init__(" ++ parameterText ps ++ ") -> None:")).toList).map
      (List.map Prod.snd) = some ("self" :: ps.map Property.name) := by
  have shape : (indented 1 ("def __init__(" ++ parameterText ps ++ ") -> None:")).toList =
      constructorStart ++ ((parameterText ps).toList ++ ')' :: " -> None:".toList) := by
    unfold indented
    simp only [String.toList_append, List.append_assoc]
    rfl
  have inside : ∀ c ∈ (parameterText ps).toList, decide (c ≠ ')') = true := fun c member =>
    decide_eq_true fun same => paren_not_mem_parameterText named (same ▸ member)
  unfold parameters?
  rw [shape, afterStart_append, Option.map_some, Option.map_some, names_parametersFrom,
    List.takeWhile_append_of_pos inside, List.takeWhile_cons_of_neg (by decide), List.append_nil]
  by_cases empty : ps = []
  · rw [empty]
    rfl
  · have names : (ps.map fun p => ' ' :: (parameter p).toList).filterMap parameterName? =
        ps.map Property.name := by
      rw [List.filterMap_map, ← List.filterMap_eq_map]
      exact List.filterMap_congr fun p member => parameterName?_parameter (named p member)
    rw [splitOn_parameterText empty named, List.filterMap_cons, List.filterMap_cons, names]
    rfl

/-- A property is copied exactly if it holds many values. -/
theorem isCopyLine_setter (named : isIdentifier p.name = true) :
    isCopyLine (setter p).toList = p.multiplicity.isMany := by
  have free : '=' ∉ ("        self." ++ p.name ++ " ").toList :=
    not_mem_between (by decide) (Identifier.not_mem_of_isPart named (by decide)) (by decide)
  cases many : p.multiplicity.isMany with
  | true =>
    have shape : (setter p).toList = ("        self." ++ p.name ++ " ").toList ++
        '=' :: (" list(" ++ p.name ++ ") if " ++ p.name ++ " is not None else []").toList := by
      unfold setter indented
      simp only [many, ↓reduceIte, String.toList_append, List.append_assoc]
      rfl
    rw [shape, isCopyLine_of_free free]
    simp only [String.toList_append, List.append_assoc]
    rfl
  | false =>
    have shape : (setter p).toList =
        ("        self." ++ p.name ++ " ").toList ++ '=' :: ' ' :: p.name.toList := by
      unfold setter indented
      simp only [many, Bool.false_eq_true, ↓reduceIte, String.toList_append, List.append_assoc]
      rfl
    rw [shape, isCopyLine_of_free free]
    -- a name has no parenthesis
    refine Bool.eq_false_iff.mpr fun starts => ?_
    have paren := (List.isPrefixOf_iff_prefix.mp starts).subset
      (show '(' ∈ "= list(".toList by decide)
    rw [List.mem_cons, List.mem_cons] at paren
    rcases paren with no | no | inside
    · exact absurd no (by decide)
    · exact absurd no (by decide)
    · exact Identifier.not_mem_of_isPart named (by decide) inside

theorem toList_indented_two (line : String) :
    (indented 2 line).toList = "        ".toList ++ line.toList := by
  unfold indented
  rw [String.toList_append]
  rfl

/-- Setters copy values if some property has many. -/
theorem readClasses_setters (named : ∀ p ∈ ps, isIdentifier p.name = true)
    (rest : List (List Char)) :
    readClasses ((ps.map setter).map String.toList ++ rest) =
      (((readClasses rest).1.1, (ps.any fun p => p.multiplicity.isMany) || (readClasses rest).1.2),
        (readClasses rest).2) := by
  induction ps with
  | nil => rfl
  | cons p ps ih =>
    obtain ⟨first, others⟩ := List.forall_mem_cons.mp named
    obtain ⟨noClass, noConstructor⟩ :
        className? (setter p).toList = none ∧ parameters? (setter p).toList = none := by
      unfold setter
      rw [toList_indented_two]
      exact ⟨rfl, rfl⟩
    rw [List.map_cons, List.map_cons, List.cons_append, readClasses_of_other noClass noConstructor,
      ih others, isCopyLine_setter first, List.any_cons, Bool.or_assoc]

/-- Setters say whether something is copied, and nothing else. -/
theorem readClasses_setterLines (named : ∀ p ∈ ps, isIdentifier p.name = true)
    (rest : List (List Char)) :
    readClasses ((setterLines ps).map String.toList ++ rest) =
      (((readClasses rest).1.1, (ps.any fun p => p.multiplicity.isMany) || (readClasses rest).1.2),
        (readClasses rest).2) := by
  cases ps with
  | nil => exact readClasses_of_other rfl rfl rest
  | cons p ps => exact readClasses_setters named rest

/-! ## Elements -/

/-- The class that an element is in the text of a module. -/
def classText (e : Element) : ClassText where
  name := e.name
  isEnumeration := !e.isClass
  parameters := if e.isClass then "self" :: e.properties.map Property.name else []
  copies := e.properties.any fun p => p.multiplicity.isMany

/-- The constructor of a class is read: its parameters and whether it copies. -/
theorem readClasses_constructorLines (named : ∀ p ∈ ps, isIdentifier p.name = true)
    (outer : (readClasses rest).1 = ([], false)) :
    readClasses ((constructorLines ps).map String.toList ++ rest) =
      (("self" :: ps.map Property.name, ps.any fun p => p.multiplicity.isMany),
        (readClasses rest).2) := by
  have noClass : className?
      (indented 1 ("def __init__(" ++ parameterText ps ++ ") -> None:")).toList = none := by
    unfold indented
    rw [String.toList_append]
    rfl
  rw [constructorLines_eq, List.map_cons, List.cons_append,
    readClasses_of_constructor noClass (parameters?_constructor named),
    readClasses_setterLines named, outer, Bool.or_false]

/-- A class is read. -/
theorem readClasses_classLines (named : isIdentifier e.name = true)
    (named' : ∀ p ∈ ps, isIdentifier p.name = true) {supertypes : List String}
    (outer : (readClasses rest).1 = ([], false)) :
    readClasses ((classLines e supertypes ps).map String.toList ++ rest) =
      (([], false), ⟨e.name, false, "self" :: ps.map Property.name,
        ps.any fun p => p.multiplicity.isMany⟩ :: (readClasses rest).2) := by
  have begins : className? ("class " ++ e.name ++ ":").toList = some e.name := by
    rw [String.toList_append, String.toList_append]
    exact className?_class named (by decide) []
  have noEnumeration : isEnumerationLine ("class " ++ e.name ++ ":").toList = false := by
    rw [Bool.eq_false_iff]
    intro ends
    have paren := (List.isSuffixOf_iff_suffix.mp ends).subset
      (show '(' ∈ "(enum.Enum):".toList by decide)
    exact paren_not_mem_classLine named paren
  have path := plain_field "__pure_path__ = " (by decide) (opens_quote e.path)
  have supers := plain_field "__pure_supertypes__ = " (by decide)
    (opens_tuple supertypes)
  have stereotypes := plain_field "__pure_stereotypes__ = " (by decide)
    (opens_tuple e.stereotypes)
  have slots := plain_field "__slots__ = " (by decide)
    (opens_tuple (ps.map Property.name))
  unfold classLines
  simp only [List.cons_append, List.nil_append, List.map_cons]
  rw [readClasses_of_class begins, readClasses_of_plain path, readClasses_of_plain supers,
    readClasses_of_plain stereotypes, readClasses_of_plain slots, readClasses_of_plain plain_blank,
    readClasses_constructorLines named' outer, noEnumeration]

/-- Values say nothing of classes. -/
theorem readClasses_values {values : List String}
    (named : ∀ value ∈ values, isIdentifier value = true) (rest : List (List Char)) :
    readClasses ((values.map valueLine).map String.toList ++ rest) = readClasses rest := by
  induction values with
  | nil => rfl
  | cons v values ih =>
    obtain ⟨first, others⟩ := List.forall_mem_cons.mp named
    rw [List.map_cons, List.map_cons, List.cons_append, readClasses_of_plain (plain_value first),
      ih others]

/-- An enumeration is read. -/
theorem readClasses_enumerationLines (named : isIdentifier e.name = true) {values : List String}
    (named' : ∀ value ∈ values, isIdentifier value = true)
    (outer : (readClasses rest).1 = ([], false)) :
    readClasses ((enumerationLines e values).map String.toList ++ rest) =
      (([], false), ⟨e.name, true, [], false⟩ :: (readClasses rest).2) := by
  have begins : className? ("class " ++ e.name ++ "(enum.Enum):").toList = some e.name := by
    rw [String.toList_append, String.toList_append]
    exact className?_class named (by decide) _
  have enumeration : isEnumerationLine ("class " ++ e.name ++ "(enum.Enum):").toList = true := by
    unfold isEnumerationLine
    rw [String.toList_append]
    exact List.isSuffixOf_iff_suffix.mpr (List.suffix_append _ _)
  have path : PlainLine (e.name ++ ".__pure_path__ = " ++ Quoted.quote e.path).toList :=
    plain_member named "__pure_path__ = " (by decide) (opens_quote e.path)
  have stereotypes :
      PlainLine (e.name ++ ".__pure_stereotypes__ = " ++ Quoted.tuple e.stereotypes).toList :=
    plain_member named "__pure_stereotypes__ = " (by decide) (opens_tuple e.stereotypes)
  rw [enumerationLines_eq]
  simp only [List.cons_append, List.map_cons, List.map_append, List.append_assoc, List.map_nil,
    List.nil_append]
  rw [readClasses_of_class begins, readClasses_values named', readClasses_of_plain plain_blank,
    readClasses_of_plain path, readClasses_of_plain stereotypes, outer, enumeration]

/-- An element is read as its class text. -/
theorem readClasses_elementLines (named : e.NamesUsable)
    (outer : (readClasses rest).1 = ([], false)) :
    readClasses ((elementLines e).map String.toList ++ rest) =
      (([], false), classText e :: (readClasses rest).2) := by
  have name := named.name.identifier
  have body := named.body
  unfold elementLines classText Element.isClass Element.properties
  cases kind : e.body with
  | classBody supertypes ps =>
    rw [kind] at body
    exact readClasses_classLines name (fun p member => (body.1 p member).identifier) outer
  | enumerationBody values =>
    rw [kind] at body
    exact readClasses_enumerationLines name (fun v member => (body.2.1 v member).identifier) outer

/-- The elements of a module are read as their class texts. -/
theorem readClasses_elements (named : ∀ e ∈ es, e.NamesUsable) :
    readClasses ((es.flatMap fun e => "" :: "" :: elementLines e).map String.toList ++ [[]]) =
      (([], false), es.map classText) := by
  induction es with
  | nil => rfl
  | cons e es ih =>
    obtain ⟨first, others⟩ := List.forall_mem_cons.mp named
    have behind := ih others
    rw [List.flatMap_cons, List.map_append, List.append_assoc, List.map_cons, List.map_cons,
      List.cons_append, List.cons_append, readClasses_of_plain plain_blank,
      readClasses_of_plain plain_blank, readClasses_elementLines first (by rw [behind]), behind]
    rfl

/-- The classes of a module are its elements. -/
theorem classes_code (named : ∀ e ∈ es, e.NamesUsable) : classes (code es) = es.map classText := by
  have other {line : List Char} (noClass : className? line = none) (rest : List (List Char)) :
      (readClasses (line :: rest)).2 = (readClasses rest).2 := by
    rw [readClasses, noClass]
    cases parameters? line <;> rfl
  have listing : className? (listingStart ++ Quoted.tuple (es.map Element.path)).toList = none := by
    rw [String.toList_append]
    rfl
  unfold classes
  rw [splitOn_code named]
  unfold codeLines
  simp only [List.map_cons, List.cons_append, List.nil_append]
  rw [other rfl, other rfl, other rfl, other rfl, other rfl, other listing,
    readClasses_elements named]

end Code

end ModelForge
