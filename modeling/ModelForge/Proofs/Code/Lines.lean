import ModelForge.Proofs.Code.Listing
import ModelForge.Proofs.Graph.Accepted
import ModelForge.Proofs.Graph.Compile

/-! # The lines of a module

A module is a docstring, which names its origin, and the lines of code behind it. Whatever texts an
accepted element holds, each of its lines stays one line of the module
(`ModelForge.Code.oneLine_codeLines`). So the lines of code can be told from the text
(`ModelForge.Code.codeLines_eq_of_renderModule`).
-/

namespace ModelForge

/-- A text without a line end. -/
def OneLine (s : String) : Prop := '\n' ∉ s.toList

instance : DecidablePred OneLine := fun s => inferInstanceAs (Decidable ('\n' ∉ s.toList))

namespace OneLine

variable {a b : String} {texts : List String}

/-- A joined text is one line exactly if its parts are. -/
@[simp]
theorem append_iff : OneLine (a ++ b) ↔ OneLine a ∧ OneLine b := by
  unfold OneLine
  rw [String.toList_append, List.mem_append, not_or]

/-- Lines joined by a text without line ends are one line. -/
theorem intercalate (between : OneLine a) (each : ∀ text ∈ texts, OneLine text) :
    OneLine (String.intercalate a texts) := by
  unfold OneLine
  rw [Segments.toList_intercalate]
  intro inside
  rcases Segments.mem_joinWith inside with separator | ⟨seg, member, within⟩
  · exact between separator
  · obtain ⟨text, known, rfl⟩ := List.mem_map.mp member
    exact each text known within

/-- A quoted text is one line. -/
@[simp]
theorem quote (s : String) : OneLine (Quoted.quote s) := Quoted.line_not_mem_quote s

/-- A tuple of quoted texts is one line. -/
@[simp]
theorem tuple (items : List String) : OneLine (Quoted.tuple items) :=
  Quoted.line_not_mem_tuple items

end OneLine

namespace Identifier

variable {c d : Char} {name other : String} {s t : List Char}

theorem not_mem_of_isPart (named : isIdentifier name = true) (ends : isPart c = false) :
    c ∉ name.toList := fun member => by
  rw [isPart_of_mem named member] at ends
  cases ends

/-- An identifier ends where a character is no part of one. -/
theorem takeWhile_append (named : isIdentifier name = true) (ends : isPart c = false)
    (s : List Char) : (name.toList ++ c :: s).takeWhile isPart = name.toList := by
  have parts : ∀ c ∈ name.toList, isPart c = true := fun c => isPart_of_mem named
  rw [List.takeWhile_append_of_pos parts, List.takeWhile_cons_of_neg (by rw [ends]; decide),
    List.append_nil]

/-- An identifier ends at the first character that is no part of it. -/
theorem append_cons_inj (named : isIdentifier name = true) (named' : isIdentifier other = true)
    (ends : isPart c = false) (ends' : isPart d = false)
    (same : name.toList ++ c :: s = other.toList ++ d :: t) : name = other ∧ c = d ∧ s = t := by
  have names : name.toList = other.toList := by
    rw [← takeWhile_append named ends s, same, takeWhile_append named' ends' t]
  rw [names, List.append_cancel_left_eq, List.cons.injEq] at same
  exact ⟨String.toList_inj.mp names, same⟩

end Identifier

namespace Code

variable {c : Char} {e : Element} {es es' : List Element} {p : Property} {origin : String}

/-! ## Properties -/

/-- The types that properties have in generated code. -/
def valueTypes : List String :=
  ["bool", "datetime.date", "datetime.datetime", "decimal.Decimal", "float", "int", "str", "object"]

theorem valueType_mem (type : String) : valueType type ∈ valueTypes := by
  unfold valueType
  split <;> simp [valueTypes]

/-- The annotations that properties have in generated code. -/
def annotations : List String :=
  valueTypes.flatMap fun type => ["list[" ++ type ++ "]", type ++ " | None"]

theorem annotation_mem (p : Property) : annotation p ∈ annotations := by
  refine List.mem_flatMap.mpr ⟨valueType p.type, valueType_mem p.type, ?_⟩
  unfold annotation
  split
  · exact List.mem_cons_self
  · exact List.mem_cons_of_mem _ List.mem_cons_self

theorem oneLine_annotation (p : Property) : OneLine ( annotation p) :=
  (show ∀ text ∈ annotations, OneLine text by decide) _ (annotation_mem p)

/-- Indenting a line leaves it one line. -/
@[simp]
theorem oneLine_indented {level : Nat} {line : String} :
    OneLine (indented level line) ↔ OneLine line := by
  have blanks : OneLine (String.ofList (List.replicate (4 * level) ' ')) := by
    unfold OneLine
    rw [String.toList_ofList, List.mem_replicate]
    exact fun inside => absurd inside.2 (by decide)
  unfold indented
  rw [OneLine.append_iff]
  exact and_iff_right blanks

/-- A parameter is one line. -/
theorem oneLine_parameter (named : OneLine p.name) : OneLine (parameter p) := by
  simp +decide [parameter, named, oneLine_annotation]

theorem oneLine_setter (named : OneLine p.name) : OneLine (setter p) := by
  unfold setter
  split <;> simp +decide [named]

/-- A constructor is a list of single lines. -/
theorem oneLine_constructorLines {ps : List Property} (named : ∀ p ∈ ps, OneLine p.name) :
    ∀ line ∈ constructorLines ps, OneLine line := by
  unfold constructorLines
  split
  · decide
  · rw [List.forall_mem_cons, List.forall_mem_map]
    have joined : OneLine (String.intercalate ", " (ps.map parameter)) := by
      refine OneLine.intercalate (by decide) fun text member => ?_
      obtain ⟨p, inside, rfl⟩ := List.mem_map.mp member
      exact oneLine_parameter (named p inside)
    exact ⟨by simp +decide [joined], fun p member => oneLine_setter (named p member)⟩

/-- The line of a value in an enumeration. -/
def valueLine (value : String) : String := indented 1 (value ++ " = " ++ Quoted.quote value)

/-- The lines of an enumeration. -/
theorem enumerationLines_eq (e : Element) (values : List String) : enumerationLines e values =
    ("class " ++ e.name ++ "(enum.Enum):") :: values.map valueLine ++
      ["", e.name ++ ".__pure_path__ = " ++ Quoted.quote e.path,
       e.name ++ ".__pure_stereotypes__ = " ++ Quoted.tuple e.stereotypes] := rfl

/-- The first line of a class has no base behind the name. -/
theorem paren_not_mem_classLine {name : String} (named : isIdentifier name = true) :
    '(' ∉ ("class " ++ name ++ ":").toList :=
  not_mem_between (by decide) (Identifier.not_mem_of_isPart named (by decide)) (by decide)

/-- An element is a list of single lines. -/
theorem oneLine_elementLines (named : e.NamesUsable) : ∀ line ∈ elementLines e, OneLine line := by
  have name : OneLine e.name := Identifier.not_mem_of_isPart named.name.identifier (by decide)
  have usable {text : String} (usable : Source.Usable text) : OneLine text :=
    Identifier.not_mem_of_isPart usable.identifier (by decide)
  have body := named.body
  unfold elementLines
  cases kind : e.body with
  | classBody supertypes ps =>
    rw [kind] at body
    have properties := oneLine_constructorLines fun p member => usable (body.1 p member)
    unfold classLines
    simpa +decide [name] using properties
  | enumerationBody values =>
    rw [kind] at body
    dsimp only
    rw [enumerationLines_eq, List.forall_mem_append, List.forall_mem_cons, List.forall_mem_map]
    refine ⟨⟨by simp +decide [name], fun value member => ?_⟩, by simp +decide [name]⟩
    simp +decide [valueLine, usable (body.2.1 value member)]

/-! ## Constructors -/

/-- What stands between the parentheses of a constructor. -/
def parameterText (ps : List Property) : String :=
  if ps.isEmpty then "self" else "self, *, " ++ String.intercalate ", " (ps.map parameter)

/-- The lines of a constructor behind the first one. -/
def setterLines (ps : List Property) : List String :=
  if ps.isEmpty then [indented 2 "pass"] else ps.map setter

/-- The lines of a constructor. -/
theorem constructorLines_eq (ps : List Property) : constructorLines ps =
    indented 1 ("def __init__(" ++ parameterText ps ++ ") -> None:") :: setterLines ps := by
  unfold constructorLines parameterText setterLines
  cases ps with
  | nil => rfl
  | cons p ps =>
    simp only [List.isEmpty_cons, Bool.false_eq_true, ↓reduceIte, ← String.append_assoc]
    rfl

/-- A parameter holds no characters but those of its name and of fixed texts. -/
theorem not_mem_parameter (named : isIdentifier p.name = true) (other : Identifier.isPart c = false)
    (fixed : ∀ text ∈ ": " :: " = None" :: annotations, c ∉ text.toList) :
    c ∉ (parameter p).toList := by
  obtain ⟨colon, default, annotated⟩ := by simpa only [List.forall_mem_cons] using fixed
  have type := annotated _ (annotation_mem p)
  have name := Identifier.not_mem_of_isPart named other
  unfold parameter
  simp only [String.toList_append, List.mem_append, not_or]
  exact ⟨⟨⟨name, colon⟩, type⟩, default⟩

theorem joinWith_blank {segs : List (List Char)} (some_seg : segs ≠ []) :
    Segments.joinWith [','] (segs.map (' ' :: ·)) =
      ' ' :: Segments.joinWith (", " : String).toList segs := by
  induction segs with
  | nil => exact absurd rfl some_seg
  | cons first rest ih =>
    cases rest with
    | nil => rfl
    | cons next rest =>
      have behind := ih (List.cons_ne_nil next rest)
      rw [List.map_cons] at behind
      rw [List.map_cons, List.map_cons, Segments.joinWith, behind, Segments.joinWith]
      simp

/-- The parameters of a constructor can be told from the text between its parentheses. -/
theorem splitOn_parameterText {ps : List Property} (some_property : ps ≠ [])
    (named : ∀ p ∈ ps, isIdentifier p.name = true) :
    Segments.splitOn ',' (parameterText ps).toList =
      ("self" : String).toList :: (" *" : String).toList ::
        ps.map fun p => ' ' :: (parameter p).toList := by
  have shape : (parameterText ps).toList = ("self" : String).toList ++ ',' ::
      ((" *" : String).toList ++
        ',' :: Segments.joinWith [','] (ps.map fun p => ' ' :: (parameter p).toList)) := by
    have segs : ps.map (fun p => ' ' :: (parameter p).toList) =
        ((ps.map parameter).map String.toList).map (' ' :: ·) := by simp
    rw [segs, joinWith_blank (by simpa using some_property)]
    unfold parameterText
    rw [if_neg (by simpa using some_property), String.toList_append, Segments.toList_intercalate]
    rfl
  have free : ∀ seg ∈ ps.map fun p => ' ' :: (parameter p).toList, ',' ∉ seg := by
    intro seg member
    obtain ⟨p, inside, rfl⟩ := List.mem_map.mp member
    have parameter := not_mem_parameter (c := ',') (named p inside) (by decide) (by decide)
    simpa using parameter
  rw [shape, Segments.splitOn_append, Segments.splitOn_append,
    Segments.splitOn_joinWith_of_free (by simpa using some_property) free]
  rfl

/-! ## The module -/

/-- The docstring of a module. -/
def docstring (origin : String) : String :=
  "\"\"\"Generated from " ++ origin ++ ". Do not edit.\"\"\""

/-- The lines of a module behind its docstring. -/
def codeLines (es : List Element) : List String :=
  ["", "from __future__ import annotations", "", "import enum", "",
   listingStart ++ Quoted.tuple (es.map Element.path)] ++
    es.flatMap fun e => "" :: "" :: elementLines e

/-- The text of a module behind its docstring. -/
def code (es : List Element) : String := String.intercalate "\n" (codeLines es) ++ "\n"

/-- A module is its docstring and the code behind it. -/
theorem renderModule_eq (origin : String) (es : List Element) :
    renderModule origin es = docstring origin ++ "\n" ++ code es := by
  unfold renderModule code
  rw [← String.append_assoc]
  refine congrArg (· ++ "\n") (String.toList_inj.mp ?_)
  rw [String.toList_append, String.toList_append, Segments.toList_intercalate,
    Segments.toList_intercalate]
  rfl

/-- The code of a module is a list of single lines. -/
theorem oneLine_codeLines (named : ∀ e ∈ es, e.NamesUsable) :
    ∀ line ∈ codeLines es, OneLine line := by
  unfold codeLines
  rw [List.forall_mem_append]
  refine ⟨by simp +decide [listingStart], fun line member => ?_⟩
  obtain ⟨e, inside, behind⟩ := List.mem_flatMap.mp member
  rw [List.mem_cons, List.mem_cons] at behind
  rcases behind with rfl | rfl | behind
  · decide
  · decide
  · exact oneLine_elementLines (named e inside) line behind

/-- The lines of a module's code are found in its text. -/
theorem splitOn_code (named : ∀ e ∈ es, e.NamesUsable) :
    Segments.splitOn '\n' (code es).toList = (codeLines es).map String.toList ++ [[]] := by
  have some_line : (codeLines es).map String.toList ≠ [] := List.cons_ne_nil _ _
  have free : ∀ seg ∈ (codeLines es).map String.toList, '\n' ∉ seg := by
    intro seg member
    obtain ⟨line, inside, rfl⟩ := List.mem_map.mp member
    exact oneLine_codeLines named line inside
  have newline : ("\n" : String).toList = ['\n'] := rfl
  unfold code
  rw [String.toList_append, Segments.toList_intercalate, newline, Segments.splitOn_append,
    Segments.splitOn_joinWith_of_free some_line free]
  rfl

/-- The lines of code can be told from the text of a module. -/
theorem codeLines_eq_of_renderModule (named : ∀ e ∈ es, e.NamesUsable)
    (named' : ∀ e ∈ es', e.NamesUsable) (same : renderModule origin es = renderModule origin es') :
    codeLines es = codeLines es' := by
  rw [renderModule_eq, renderModule_eq, String.append_right_inj] at same
  have lines := congrArg (fun text => Segments.splitOn '\n' text.toList) same
  rw [splitOn_code named, splitOn_code named', List.append_cancel_right_eq] at lines
  exact List.map_injective_iff.mpr (fun a b => String.toList_inj.mp) lines

end Code

end ModelForge
