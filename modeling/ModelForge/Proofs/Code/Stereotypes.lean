import ModelForge.Proofs.Code.Determined

/-! # Stereotypes in generated code

Stereotypes are free texts: they may hold quotes, backslashes, line ends and characters that cannot
be printed. In generated code they stand as a tuple of literals on a line of their own
(`ModelForge.Code.stereotypesRow` counts the lines in front of it). Whatever the texts are, the
tuple is read back from that line up to its end (`ModelForge.Code.ShowsStereotypes`), and no other
line depends on them (`ModelForge.Code.Aligned`). Both hold of any two lists of accepted elements
that differ in their stereotypes alone (`ModelForge.Code.aligned_renderModule`).
-/

namespace ModelForge

/-- Elements that differ in their stereotypes alone. -/
def Element.SameButStereotypes (e e' : Element) : Prop :=
  { e with stereotypes := e'.stereotypes } = e'

namespace Code

open Element (SameButStereotypes)

variable {e e' : Element} {es es' : List Element} {origin text : String} {k n : Nat}

/-! ## The lines of an element -/

/-- The lines of a text. -/
def lines (text : String) : List String := (Segments.splitOn '\n' text.toList).map String.ofList

/-- A text without line ends is its only line. -/
theorem lines_of_oneLine (whole : OneLine text) : lines text = [text] := by
  unfold lines
  rw [Segments.splitOn_of_not_mem whole, List.map_singleton, String.ofList_toList]

/-- What the line of the stereotypes starts with. -/
def stereotypesStart (e : Element) : String :=
  if e.isClass then indented 1 "__pure_stereotypes__ = " else e.name ++ ".__pure_stereotypes__ = "

/-- The line of an element's stereotypes, whole. -/
def stereotypesLine (e : Element) : String := stereotypesStart e ++ Quoted.tuple e.stereotypes

/-- The lines of an element in front of its stereotypes, with the blank lines above it. -/
def linesAbove (e : Element) : List String :=
  "" :: "" :: match e.body with
  | .classBody supertypes _ =>
    ["class " ++ e.name ++ ":", indented 1 ("__pure_path__ = " ++ Quoted.quote e.path),
     indented 1 ("__pure_supertypes__ = " ++ Quoted.tuple supertypes)]
  | .enumerationBody values =>
    ("class " ++ e.name ++ "(enum.Enum):") :: values.map valueLine ++
      ["", e.name ++ ".__pure_path__ = " ++ Quoted.quote e.path]

/-- The lines of an element behind its stereotypes. -/
def linesBelow (e : Element) : List String :=
  match e.body with
  | .classBody _ ps =>
    indented 1 ("__slots__ = " ++ Quoted.tuple (ps.map Property.name)) :: "" :: constructorLines ps
  | .enumerationBody _ => []

/-- The lines of an element, with the blank lines above it. -/
def block (e : Element) : List String := "" :: "" :: elementLines e

/-- An element is what stands above its stereotypes, their line, and what stands below it. -/
theorem block_eq (e : Element) : block e = linesAbove e ++ stereotypesLine e :: linesBelow e := by
  unfold block elementLines linesAbove stereotypesLine stereotypesStart Element.isClass linesBelow
  cases e.body with
  | classBody supertypes ps =>
    dsimp only
    rw [if_pos rfl, indented, String.append_assoc]
    rfl
  | enumerationBody values =>
    dsimp only
    rw [enumerationLines_eq, if_neg Bool.false_ne_true]
    simp only [List.cons_append, List.append_assoc, List.nil_append]

/-- The lines above the stereotypes do not depend on them. -/
theorem linesAbove_eq (alike : SameButStereotypes e e') : linesAbove e = linesAbove e' := by
  rw [← alike]
  rfl

/-- The lines below the stereotypes do not depend on them. -/
theorem linesBelow_eq (alike : SameButStereotypes e e') : linesBelow e = linesBelow e' := by
  rw [← alike]
  rfl

/-- Lines of elements that differ in nothing but stereotypes are the same if these are the same. -/
theorem stereotypesLine_eq (alike : SameButStereotypes e e')
    (same : e.stereotypes = e'.stereotypes) : stereotypesLine e = stereotypesLine e' := by
  rw [← alike, ← same]

/-- Elements that differ in their stereotypes alone have as many lines. -/
theorem length_block (alike : SameButStereotypes e e') :
    (block e).length = (block e').length := by
  rw [block_eq, block_eq, linesAbove_eq alike, linesBelow_eq alike]
  simp

/-- Elements that differ in their stereotypes alone differ in one line at most. -/
theorem row_of_block_ne (alike : SameButStereotypes e e')
    (differs : (block e)[n]? ≠ (block e')[n]?) :
    n = (linesAbove e).length ∧ e.stereotypes ≠ e'.stereotypes := by
  rw [block_eq, block_eq, linesAbove_eq alike, linesBelow_eq alike] at differs
  rw [linesAbove_eq alike]
  rcases getElem?_append_ne rfl differs with above | ⟨m, rfl, behind⟩
  · exact absurd rfl above
  cases m with
  | zero =>
    refine ⟨rfl, fun same => behind ?_⟩
    rw [stereotypesLine_eq alike same]
  | succ m => exact absurd rfl behind

/-! ## The lines of a module -/

/-- The lines of a module: its head, then its elements. -/
theorem lines_renderModule (named : ∀ e ∈ es, e.NamesUsable) :
    lines (renderModule origin es) =
      (headLines origin es).flatMap lines ++ es.flatMap block ++ [""] := by
  have whole {e : Element} (member : e ∈ es) : (block e).flatMap lines = block e := by
    have each : ∀ line ∈ block e, lines line = [line] := by
      unfold block
      rw [List.forall_mem_cons, List.forall_mem_cons]
      refine ⟨by decide, by decide, fun line inside => ?_⟩
      exact lines_of_oneLine (oneLine_elementLines (named e member) line inside)
    rw [List.flatMap_congr each, List.flatMap_singleton']
  unfold lines
  -- an origin may hold line ends, so the first line of a module need not be one line of its text
  rw [splitOn_renderModule, List.map_append, List.map_flatMap]
  change (moduleLines origin es).flatMap lines ++ [""] = _
  unfold moduleLines
  rw [List.flatMap_append, List.flatMap_assoc]
  congr 2
  exact List.flatMap_congr fun e member => whole member

/-- How many lines of some elements stand in front of the stereotypes of one of them. -/
def stereotypesPlace : List Element → Nat → Nat
  | [], _ => 0
  | e :: _, 0 => (linesAbove e).length
  | e :: rest, k + 1 => (block e).length + stereotypesPlace rest k

/-- How many lines of a module stand in front of the stereotypes of an element. -/
def stereotypesRow (origin : String) (es : List Element) (k : Nat) : Nat :=
  ((headLines origin es).flatMap lines).length + stereotypesPlace es k

/-- Where the stereotypes of an element stand. -/
theorem getElem?_stereotypesPlace (found : es[k]? = some e) :
    (es.flatMap block)[stereotypesPlace es k]? = some (stereotypesLine e) := by
  induction es generalizing k with
  | nil => cases found
  | cons first rest ih =>
    rw [List.flatMap_cons]
    cases k with
    | zero =>
      cases found
      rw [block_eq, stereotypesPlace, List.append_assoc, List.getElem?_append_right (Nat.le_refl _),
        Nat.sub_self]
      rfl
    | succ k =>
      rw [stereotypesPlace, List.getElem?_append_right (Nat.le_add_right _ _),
        Nat.add_sub_cancel_left]
      exact ih found

section Paired

variable (paired : List.Forall₂ SameButStereotypes es es')

include paired

theorem headLines_eq (origin : String) : headLines origin es = headLines origin es' := by
  have paths : es.map Element.path = es'.map Element.path := by
    refine List.forall₂_eq_eq_eq ▸ List.forall₂_map_left_iff.mpr (List.forall₂_map_right_iff.mpr ?_)
    refine paired.imp fun e e' alike => ?_
    rw [← alike]
  unfold headLines
  rw [paths]

/-- Paired elements have as many lines together. -/
theorem length_blocks : (es.flatMap block).length = (es'.flatMap block).length := by
  induction paired with
  | nil => rfl
  | cons alike _ ih =>
    rw [List.flatMap_cons, List.flatMap_cons, List.length_append, List.length_append,
      length_block alike, ih]

/-- The stereotypes of paired elements stand in the same place. -/
theorem stereotypesPlace_eq (k : Nat) : stereotypesPlace es k = stereotypesPlace es' k := by
  induction paired generalizing k with
  | nil => rfl
  | cons alike _ ih =>
    cases k with
    | zero => rw [stereotypesPlace, stereotypesPlace, linesAbove_eq alike]
    | succ k => rw [stereotypesPlace, stereotypesPlace, length_block alike, ih]

/-- Lines that differ are those of stereotypes that do. -/
theorem place_of_blocks_ne (differs : (es.flatMap block)[n]? ≠ (es'.flatMap block)[n]?) :
    ∃ k e e', es[k]? = some e ∧ es'[k]? = some e' ∧ e.stereotypes ≠ e'.stereotypes ∧
      n = stereotypesPlace es k := by
  induction paired generalizing n with
  | nil => exact absurd rfl differs
  | cons alike _ ih =>
    rw [List.flatMap_cons, List.flatMap_cons] at differs
    rcases getElem?_append_ne (length_block alike) differs with first | ⟨m, rfl, others⟩
    · obtain ⟨rfl, stereotypes⟩ := row_of_block_ne alike first
      exact ⟨0, _, _, rfl, rfl, stereotypes, rfl⟩
    · obtain ⟨k, e, e', found, found', stereotypes, rfl⟩ := ih others
      exact ⟨k + 1, e, e', found, found', stereotypes, rfl⟩

end Paired

/-- In a module the line of each element's stereotypes goes on with a tuple of literals, which ends
with the line and has the stereotypes as its value. -/
def ShowsStereotypes (origin : String) (es : List Element) : Prop :=
  ∀ k e, es[k]? = some e → ∃ text,
    (lines (renderModule origin es))[stereotypesRow origin es k]? =
      some (stereotypesStart e ++ text) ∧
    Quoted.tuple? text.toList = some e.stereotypes

/-- Two modules with as many lines, which differ at most in lines of stereotypes that differ. -/
structure Aligned (origin : String) (es es' : List Element) : Prop where
  length : (lines (renderModule origin es)).length = (lines (renderModule origin es')).length
  row : ∀ k, stereotypesRow origin es k = stereotypesRow origin es' k
  differs : ∀ n, (lines (renderModule origin es))[n]? ≠ (lines (renderModule origin es'))[n]? →
    ∃ k e e', es[k]? = some e ∧ es'[k]? = some e' ∧ e.stereotypes ≠ e'.stereotypes ∧
      n = stereotypesRow origin es k

/-- All stereotypes are shown in their lines. -/
theorem showsStereotypes (named : ∀ e ∈ es, e.NamesUsable) : ShowsStereotypes origin es := by
  intro k e found
  refine ⟨Quoted.tuple e.stereotypes, ?_, Quoted.tuple?_tuple e.stereotypes⟩
  have placed := getElem?_stereotypesPlace found
  have inside := (List.getElem?_eq_some_iff.mp placed).1
  rw [lines_renderModule named, stereotypesRow, List.append_assoc,
    List.getElem?_append_right (Nat.le_add_right _ _), Nat.add_sub_cancel_left,
    List.getElem?_append_left inside, placed]
  rfl

/-- Modules of paired elements have the same lines but for the stereotypes. -/
theorem aligned (named : ∀ e ∈ es, e.NamesUsable) (named' : ∀ e ∈ es', e.NamesUsable)
    (paired : List.Forall₂ SameButStereotypes es es') : Aligned origin es es' := by
  have head := headLines_eq paired origin
  have blocks := length_blocks paired
  refine ⟨?_, fun k => ?_, fun n differs => ?_⟩
  · rw [lines_renderModule named, lines_renderModule named', head]
    simp only [List.length_append, blocks]
  · rw [stereotypesRow, stereotypesRow, head, stereotypesPlace_eq paired]
  · rw [lines_renderModule named, lines_renderModule named', List.append_assoc, List.append_assoc,
      head] at differs
    rcases getElem?_append_ne rfl differs with front | ⟨m, rfl, behind⟩
    · exact absurd rfl front
    rcases getElem?_append_ne blocks behind with inside | ⟨_, -, last⟩
    · obtain ⟨k, e, e', found, found', stereotypes, rfl⟩ := place_of_blocks_ne paired inside
      refine ⟨k, e, e', found, found', stereotypes, ?_⟩
      rw [stereotypesRow, head]
    · exact absurd rfl last

/-- Stereotypes cannot get out of their lines: the modules of accepted elements that differ in their
stereotypes alone differ in the lines of these stereotypes alone, and each of these lines is read
back as the stereotypes. -/
theorem aligned_renderModule (origin : String) (accepted : ∀ e ∈ es, e.Accepted)
    (accepted' : ∀ e ∈ es', e.Accepted) (paired : List.Forall₂ SameButStereotypes es es') :
    Aligned origin es es' ∧ ShowsStereotypes origin es ∧ ShowsStereotypes origin es' := by
  have named : ∀ e ∈ es, e.NamesUsable := fun e member =>
    Element.named_of_accepted (accepted e member)
  have named' : ∀ e ∈ es', e.NamesUsable := fun e member =>
    Element.named_of_accepted (accepted' e member)
  exact ⟨aligned named named' paired, showsStereotypes named, showsStereotypes named'⟩

end Code

namespace Sample

/-- The elements of `typed` with stereotypes that try to end their literals and lines. -/
def restyled : Source where
  package := "m::data"
  declarations :=
    [⟨"Reading", ["\\", "')\r\nimport os", "\x00\u2028"],
      .classBody ["n::Base"] [⟨"of", "n::Meter", .one⟩]⟩,
     ⟨"Level", ["\"", "'\""], .enumerationBody ["LOW", "HIGH"]⟩]

end Sample

namespace Code

/-- Stereotypes of many kinds stay in their lines. -/
theorem aligned_sample :
    List.Forall₂ Element.SameButStereotypes (Sample.typed.elements "m" "/m/data.pure.yaml")
      (Sample.restyled.elements "m" "/m/data.pure.yaml") ∧
    Aligned "m" (Sample.typed.elements "m" "/m/data.pure.yaml")
      (Sample.restyled.elements "m" "/m/data.pure.yaml") ∧
    ShowsStereotypes "m" (Sample.typed.elements "m" "/m/data.pure.yaml") ∧
    ShowsStereotypes "m" (Sample.restyled.elements "m" "/m/data.pure.yaml") := by
  have reads : Source.check Sample.typed.toValue = .valid Sample.typed := rfl
  have reads' : Source.check Sample.restyled.toValue = .valid Sample.restyled := rfl
  have paired : List.Forall₂ Element.SameButStereotypes
      (Sample.typed.elements "m" "/m/data.pure.yaml")
      (Sample.restyled.elements "m" "/m/data.pure.yaml") := .cons rfl (.cons rfl .nil)
  refine ⟨paired, aligned_renderModule "m" ?_ ?_ paired⟩
  · exact Element.accepted_of_check reads "m" "/m/data.pure.yaml"
  · exact Element.accepted_of_check reads' "m" "/m/data.pure.yaml"

end Code

end ModelForge
