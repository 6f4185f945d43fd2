import ModelForge.Proofs.Code.Lines
import ModelForge.Proofs.Lists

/-! # What the text of a module determines

Of an element generated code shows everything but the repository and the source file, the types of
properties that have no counterpart, and how many values exactly a property may have
(`ModelForge.Code.Shown`). For accepted elements two modules of one origin have the same text
exactly if they show the same (`ModelForge.Code.renderModule_eq_iff`): quoted texts are told apart,
and the ends of elements, properties and values can be found among the lines.
-/

namespace ModelForge

namespace Code

/-- What generated code shows of a property: its name, its type in generated code, and whether it
holds many values. -/
@[ext]
structure ShownProperty where
  name : String
  type : String
  isMany : Bool
  deriving DecidableEq, Repr

/-- What generated code shows of a class or an enumeration. -/
inductive ShownBody where
  | classBody (supertypes : List String) (properties : List ShownProperty)
  | enumerationBody (values : List String)
  deriving DecidableEq, Repr

/-- What generated code shows of an element. -/
@[ext]
structure Shown where
  path : String
  stereotypes : List String
  body : ShownBody
  deriving DecidableEq, Repr

/-- What is shown of a property. -/
def shownProperty (p : Property) : ShownProperty :=
  ⟨p.name, valueType p.type, p.multiplicity.isMany⟩

/-- What is shown of a class or an enumeration. -/
def shownBody : Body → ShownBody
  | .classBody supertypes ps => .classBody supertypes (ps.map shownProperty)
  | .enumerationBody values => .enumerationBody values

/-- What is shown of an element. -/
def shown (e : Element) : Shown := ⟨e.path, e.stereotypes, shownBody e.body⟩

variable {e e' : Element} {es es' : List Element} {p p' : Property} {ps ps' : List Property}
  {origin : String} {rest rest' : List String}

/-! ## Lines of what is shown -/

theorem name_eq_of_path (same : e.path = e'.path) : e.name = e'.name := by
  unfold Element.name
  rw [same]

/-- Properties that show the same have the same parameter. -/
theorem parameter_eq_of_shown (same : shownProperty p = shownProperty p') :
    parameter p = parameter p' := by
  obtain ⟨name, type, isMany⟩ := ShownProperty.mk.inj same
  unfold parameter annotation
  rw [name, type, isMany]

/-- Properties that show the same have the same setter. -/
theorem setter_eq_of_shown (same : shownProperty p = shownProperty p') : setter p = setter p' := by
  obtain ⟨name, type, isMany⟩ := ShownProperty.mk.inj same
  unfold setter
  rw [name, isMany]

/-- Lists of properties that show the same have the same constructor. -/
theorem constructorLines_eq_of_shown (same : ps.map shownProperty = ps'.map shownProperty) :
    constructorLines ps = constructorLines ps' := by
  have parameters : ps.map parameter = ps'.map parameter :=
    map_eq_map_of_imp (fun _ _ _ _ => parameter_eq_of_shown) same
  have setters : ps.map setter = ps'.map setter :=
    map_eq_map_of_imp (fun _ _ _ _ => setter_eq_of_shown) same
  have empty : ps.isEmpty = ps'.isEmpty := by
    rw [← List.isEmpty_map (f := shownProperty), same, List.isEmpty_map]
  unfold constructorLines
  rw [parameters, setters, empty]

/-- The lines of an element depend on what is shown of it alone. -/
theorem elementLines_eq_of_shown (same : shown e = shown e') :
    elementLines e = elementLines e' := by
  obtain ⟨path, stereotypes, body⟩ := Shown.mk.inj same
  have name := name_eq_of_path path
  unfold elementLines
  cases kind : e.body with
  | classBody supertypes ps =>
    cases kind' : e'.body with
    | classBody supertypes' ps' =>
      rw [kind, kind'] at body
      obtain ⟨supers, properties⟩ := ShownBody.classBody.inj body
      have names : ps.map Property.name = ps'.map Property.name :=
        map_eq_map_of_imp (fun _ _ _ _ one => (ShownProperty.mk.inj one).1) properties
      dsimp only
      unfold classLines
      rw [name, path, stereotypes, supers, names, constructorLines_eq_of_shown properties]
    | enumerationBody values =>
      rw [kind, kind'] at body
      cases body
  | enumerationBody values =>
    cases kind' : e'.body with
    | classBody supertypes' ps' =>
      rw [kind, kind'] at body
      cases body
    | enumerationBody values' =>
      rw [kind, kind'] at body
      obtain rfl := ShownBody.enumerationBody.inj body
      dsimp only
      unfold enumerationLines
      rw [name, path, stereotypes]

/-! ## What is shown by lines -/

/-- An annotation shows the type and whether there are many values. -/
theorem annotation_inj (same : annotation p = annotation p') :
    valueType p.type = valueType p'.type ∧ p.multiplicity.isMany = p'.multiplicity.isMany := by
  have apart : ∀ many ∈ valueTypes, ∀ one ∈ valueTypes,
      "list[" ++ many ++ "]" ≠ one ++ " | None" := by decide
  have types := valueType_mem p.type
  have types' := valueType_mem p'.type
  unfold annotation at same
  cases many : p.multiplicity.isMany with
  | true =>
    cases many' : p'.multiplicity.isMany with
    | true =>
      simp only [many, many', ↓reduceIte, String.append_left_inj, String.append_right_inj] at same
      exact ⟨same, rfl⟩
    | false =>
      simp only [many, many', ↓reduceIte, Bool.false_eq_true] at same
      exact absurd same (apart _ types _ types')
  | false =>
    cases many' : p'.multiplicity.isMany with
    | true =>
      simp only [many, many', ↓reduceIte, Bool.false_eq_true] at same
      exact absurd same.symm (apart _ types' _ types)
    | false =>
      simp only [many, many', Bool.false_eq_true, ↓reduceIte, String.append_left_inj] at same
      exact ⟨same, rfl⟩

/-- A parameter shows all that is shown of its property. -/
theorem shown_of_parameter (named : isIdentifier p.name = true)
    (named' : isIdentifier p'.name = true) (same : parameter p = parameter p') :
    shownProperty p = shownProperty p' := by
  unfold parameter at same
  rw [String.append_left_inj] at same
  have chars := congrArg String.toList same
  simp only [String.toList_append, List.append_assoc] at chars
  obtain ⟨name, -, behind⟩ := Identifier.append_cons_inj (c := ':') (d := ':') named named'
    (by decide) (by decide) chars
  obtain ⟨type, isMany⟩ := annotation_inj (String.toList_inj.mp (List.cons.inj behind).2)
  exact ShownProperty.ext name type isMany

/-- A constructor shows all that is shown of its properties, whatever follows it. -/
theorem shown_of_constructorLines (named : ∀ p ∈ ps, isIdentifier p.name = true)
    (named' : ∀ p ∈ ps', isIdentifier p.name = true)
    (same : constructorLines ps ++ rest = constructorLines ps' ++ rest') :
    ps.map shownProperty = ps'.map shownProperty := by
  rw [constructorLines_eq, constructorLines_eq, List.cons_append, List.cons_append] at same
  have head := (List.cons.inj same).1
  unfold indented at head
  rw [String.append_right_inj, String.append_left_inj, String.append_right_inj] at head
  have cut := congrArg (fun text => Segments.splitOn ',' text.toList) head
  have none : Segments.splitOn ',' (parameterText []).toList = [("self" : String).toList] := rfl
  by_cases empty : ps = []
  · by_cases empty' : ps' = []
    · rw [empty, empty']
    · rw [empty, none, splitOn_parameterText empty' named'] at cut
      cases cut
  · by_cases empty' : ps' = []
    · rw [empty', none, splitOn_parameterText empty named] at cut
      cases cut
    · rw [splitOn_parameterText empty named, splitOn_parameterText empty' named'] at cut
      have parameters := (List.cons.inj (List.cons.inj cut).2).2
      refine map_eq_map_of_imp (fun p member p' member' one => ?_) parameters
      exact shown_of_parameter (named p member) (named' p' member')
        (String.toList_inj.mp (List.cons.inj one).2)

/-- The line of a value shows the value. -/
theorem value_of_line {v v' : String} (named : isIdentifier v = true)
    (named' : isIdentifier v' = true) (same : valueLine v = valueLine v') : v = v' := by
  unfold valueLine indented at same
  rw [String.append_right_inj] at same
  have chars := congrArg String.toList same
  simp only [String.toList_append, List.append_assoc] at chars
  exact (Identifier.append_cons_inj (c := ' ') (d := ' ') named named' (by decide) (by decide)
    chars).1

/-- The lines of values show them, up to the blank line behind them. -/
theorem shown_of_values {values values' : List String}
    (named : ∀ value ∈ values, isIdentifier value = true)
    (named' : ∀ value ∈ values', isIdentifier value = true)
    (same : values.map valueLine ++ "" :: rest = values'.map valueLine ++ "" :: rest') :
    values = values' ∧ rest = rest' := by
  -- the values end at the first blank line
  have free (values : List String) : "" ∉ values.map valueLine := by
    intro member
    obtain ⟨v, -, blank⟩ := List.mem_map.mp member
    have chars := congrArg String.toList blank
    unfold valueLine indented at chars
    rw [String.toList_append] at chars
    cases chars
  obtain ⟨lines, behind⟩ := (append_cons_inj (free values) (free values')).mp same
  have back := map_eq_map_of_imp (g := id) (fun v member v' member' one =>
    value_of_line (named v member) (named' v' member') one) lines
  rw [List.map_id, List.map_id] at back
  exact ⟨back, behind⟩

/-- The first line tells classes from enumerations. -/
theorem class_ne_enumeration {name name' : String} (named : isIdentifier name = true) :
    "class " ++ name ++ ":" ≠ "class " ++ name' ++ "(enum.Enum):" := by
  intro same
  refine paren_not_mem_classLine named ?_
  rw [same]
  simp

/-- The lines of an element show what they are made of, whatever lines follow. -/
theorem shown_of_elementLines (named : e.NamesUsable) (named' : e'.NamesUsable)
    (same : elementLines e ++ rest = elementLines e' ++ rest') : shown e = shown e' := by
  have name := named.name.identifier
  have name' := named'.name.identifier
  have body := named.body
  have body' := named'.body
  unfold elementLines at same
  cases kind : e.body with
  | classBody supertypes ps =>
    cases kind' : e'.body with
    | classBody supertypes' ps' =>
      rw [kind] at same body
      rw [kind'] at same body'
      simp only [classLines, List.cons_append, List.nil_append, List.cons.injEq, indented,
        String.append_right_inj, Quoted.quote_injective.eq_iff, Quoted.tuple_injective.eq_iff]
        at same
      obtain ⟨-, path, supers, stereotypes, -, -, constructor⟩ := same
      have properties := shown_of_constructorLines (fun p member => (body.1 p member).identifier)
        (fun p member => (body'.1 p member).identifier) constructor
      refine Shown.ext path stereotypes ?_
      change shownBody e.body = shownBody e'.body
      rw [kind, kind', shownBody, shownBody, supers, properties]
    | enumerationBody values' =>
      rw [kind, kind'] at same
      exact absurd (List.cons.inj same).1 (class_ne_enumeration name)
  | enumerationBody values =>
    cases kind' : e'.body with
    | classBody supertypes' ps' =>
      rw [kind, kind'] at same
      exact absurd (List.cons.inj same).1.symm (class_ne_enumeration name')
    | enumerationBody values' =>
      rw [kind] at same body
      rw [kind'] at same body'
      simp only [enumerationLines_eq, List.cons_append, List.append_assoc, List.nil_append,
        List.cons.injEq, String.append_left_inj, String.append_right_inj] at same
      obtain ⟨named, lines⟩ := same
      obtain ⟨values, behind⟩ := shown_of_values (fun v member => (body.2.1 v member).identifier)
        (fun v member => (body'.2.1 v member).identifier) lines
      simp only [named, List.cons.injEq, String.append_right_inj, Quoted.quote_injective.eq_iff,
        Quoted.tuple_injective.eq_iff] at behind
      refine Shown.ext behind.1 behind.2.1 ?_
      change shownBody e.body = shownBody e'.body
      rw [kind, kind', values]

/-- The lines of elements show all that is shown of them. -/
theorem shown_of_flatMap (named : ∀ e ∈ es, e.NamesUsable) (named' : ∀ e ∈ es', e.NamesUsable)
    (length : es.length = es'.length)
    (same : es.flatMap (fun e => "" :: "" :: elementLines e) =
      es'.flatMap fun e => "" :: "" :: elementLines e) : es.map shown = es'.map shown := by
  induction es generalizing es' with
  | nil =>
    rw [List.length_eq_zero_iff.mp length.symm]
  | cons e es ih =>
    cases es' with
    | nil => cases length
    | cons e' es' =>
      obtain ⟨named, others⟩ := List.forall_mem_cons.mp named
      obtain ⟨named', others'⟩ := List.forall_mem_cons.mp named'
      rw [List.flatMap_cons, List.flatMap_cons] at same
      have lines := (List.cons.inj (List.cons.inj same).2).2
      have first := shown_of_elementLines named named' lines
      rw [elementLines_eq_of_shown first] at lines
      rw [List.map_cons, List.map_cons, first,
        ih others others' (Nat.succ.inj length) (List.append_cancel_left lines)]

/-- Two modules of one origin have the same text exactly if they are made of as many elements, and
the same is shown of them, one after the other. -/
theorem renderModule_eq_iff (origin : String) (accepted : ∀ e ∈ es, e.Accepted)
    (accepted' : ∀ e ∈ es', e.Accepted) :
    renderModule origin es = renderModule origin es' ↔ es.map shown = es'.map shown := by
  have named := fun e member => Element.named_of_accepted (accepted e member)
  have named' := fun e member => Element.named_of_accepted (accepted' e member)
  constructor
  · intro same
    have lines := codeLines_eq_of_renderModule named named' same
    unfold codeLines at lines
    simp only [List.cons_append, List.nil_append, List.cons.injEq, true_and,
      String.append_right_inj, Quoted.tuple_injective.eq_iff] at lines
    obtain ⟨paths, elements⟩ := lines
    have length := congrArg List.length paths
    rw [List.length_map, List.length_map] at length
    exact shown_of_flatMap named named' length elements
  · intro same
    have paths : es.map Element.path = es'.map Element.path :=
      map_eq_map_of_imp (fun _ _ _ _ one => (Shown.mk.inj one).1) same
    have lines : es.map elementLines = es'.map elementLines :=
      map_eq_map_of_imp (fun _ _ _ _ => elementLines_eq_of_shown) same
    have elements := congrArg (List.flatMap fun lines => "" :: "" :: lines) lines
    rw [List.flatMap_map, List.flatMap_map] at elements
    unfold renderModule moduleLines headLines
    rw [paths, elements]

end Code

namespace Sample

/-- A class with a property of another class, and an enumeration. -/
def typed : Source where
  package := "m::data"
  declarations :=
    [⟨"Reading", ["it's", "a \"key\"\n"], .classBody ["n::Base"] [⟨"of", "n::Meter", .one⟩]⟩,
     ⟨"Level", [], .enumerationBody ["LOW", "HIGH"]⟩]

/-- A class with a property of a third class, which may have no value, and the same enumeration. -/
def retyped : Source where
  package := "m::data"
  declarations :=
    [⟨"Reading", ["it's", "a \"key\"\n"], .classBody ["n::Base"] [⟨"of", "n::Place", .optional⟩]⟩,
     ⟨"Level", [], .enumerationBody ["LOW", "HIGH"]⟩]

end Sample

namespace Code

/-- Modules whose properties differ in what is not shown have the same text. -/
theorem shown_of_retyped :
    Sample.typed.elements "m" "/m/data.pure.yaml" ≠
      Sample.retyped.elements "n" "/n/data.pure.yaml" ∧
    (Sample.typed.elements "m" "/m/data.pure.yaml").map shown =
      (Sample.retyped.elements "n" "/n/data.pure.yaml").map shown := by
  have reads : Source.check Sample.typed.toValue = .valid Sample.typed := rfl
  have reads' : Source.check Sample.retyped.toValue = .valid Sample.retyped := rfl
  have same : renderModule "all repositories" (Sample.typed.elements "m" "/m/data.pure.yaml") =
      renderModule "all repositories" (Sample.retyped.elements "n" "/n/data.pure.yaml") := by
    decide +kernel
  refine ⟨by decide, (renderModule_eq_iff "all repositories" ?_ ?_).mp same⟩
  · exact Element.accepted_of_check reads "m" "/m/data.pure.yaml"
  · exact Element.accepted_of_check reads' "n" "/n/data.pure.yaml"

end Code

end ModelForge
