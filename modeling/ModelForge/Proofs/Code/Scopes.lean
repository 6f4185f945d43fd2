import ModelForge.Proofs.Code.Classes

/-! # Names that generated code relies on

Generated code relies on three names: a constructor on `self` for its object and on `list` to copy
many values, and an enumeration on `enum`. A module is hygienic if nothing that it declares takes
one of these names where it is relied on (`ModelForge.Code.Hygienic`); what it declares is read from
its text. The names of accepted elements are no reserved words, but neither are these three. So a
module of accepted elements is hygienic exactly if its elements avoid them
(`ModelForge.Code.hygienic_iff`), and a module with a property `self` cannot be compiled
(`ModelForge.Code.exists_fault_of_self`).
-/

namespace ModelForge

namespace Code

open Fault (parameters?)

variable {e : Element} {es : List Element} {p : Property} {name : String} {line : List Char}

/-- A text in which nothing takes a name where it is relied on. -/
structure Hygienic (text : String) : Prop where
  self : ∀ c ∈ classes text, c.parameters.Nodup
  list : ∀ c ∈ classes text, c.copies = true →
    "list" ∉ c.parameters ∧ "list" ∉ (classes text).map ClassText.name
  enum : ∀ c ∈ classes text, c.isEnumeration = true → "enum" ∉ (classes text).map ClassText.name

/-- Elements that avoid the names that generated code relies on. -/
structure AvoidsReliedNames (es : List Element) : Prop where
  self : ∀ e ∈ es, ∀ p ∈ e.properties, p.name ≠ "self"
  list : ∀ e ∈ es, (∃ p ∈ e.properties, p.multiplicity.isMany = true) →
    (∀ p ∈ e.properties, p.name ≠ "list") ∧ ∀ other ∈ es, other.name ≠ "list"
  enum : (∃ e ∈ es, e.isClass = false) → ∀ other ∈ es, other.name ≠ "enum"

/-- Parameters have distinct names if no property is called like the first one. -/
theorem nodup_parameters (named : e.NamesUsable) :
    (classText e).parameters.Nodup ↔ ∀ p ∈ e.properties, p.name ≠ "self" := by
  have body := named.body
  unfold classText Element.isClass Element.properties
  cases kind : e.body with
  | classBody supertypes ps =>
    rw [kind] at body
    simp [body.2]
  | enumerationBody values => simp

/-- A parameter is called `list` exactly if a property is. -/
theorem not_mem_parameters : "list" ∉ (classText e).parameters ↔
    ∀ p ∈ e.properties, p.name ≠ "list" := by
  unfold classText Element.isClass Element.properties
  cases e.body with
  | classBody supertypes ps => simp
  | enumerationBody values => simp

theorem copies_iff : (classText e).copies = true ↔
    ∃ p ∈ e.properties, p.multiplicity.isMany = true := List.any_eq_true

theorem not_mem_names : name ∉ (es.map classText).map ClassText.name ↔
    ∀ other ∈ es, other.name ≠ name := by
  rw [List.map_map, List.mem_map, not_exists]
  exact forall_congr' fun other => not_and

/-- The code of accepted elements is hygienic exactly if they avoid the names it relies on. -/
theorem hygienic_code (named : ∀ e ∈ es, e.NamesUsable) :
    Hygienic (code es) ↔ AvoidsReliedNames es := by
  have read := classes_code named
  constructor
  · intro hygienic
    obtain ⟨self, list, enum⟩ := hygienic
    rw [read] at self list enum
    have text {e : Element} (member : e ∈ es) : classText e ∈ es.map classText :=
      List.mem_map_of_mem member
    refine ⟨fun e member => ?_, fun e member many => ?_, fun ⟨e, member, enumeration⟩ => ?_⟩
    · exact (nodup_parameters (named e member)).mp (self _ (text member))
    · obtain ⟨parameters, names⟩ := list _ (text member) (copies_iff.mpr many)
      exact ⟨not_mem_parameters.mp parameters, not_mem_names.mp names⟩
    · refine not_mem_names.mp (enum _ (text member) ?_)
      change (!e.isClass) = true
      rw [enumeration]
      rfl
  · intro avoiding
    have element {c : ClassText} (member : c ∈ classes (code es)) : ∃ e ∈ es, classText e = c :=
      List.mem_map.mp (read ▸ member)
    refine ⟨fun c member => ?_, fun c member copies => ?_, fun c member enumeration => ?_⟩
    · obtain ⟨e, inside, rfl⟩ := element member
      exact (nodup_parameters (named e inside)).mpr (avoiding.self e inside)
    · obtain ⟨e, inside, rfl⟩ := element member
      obtain ⟨parameters, names⟩ := avoiding.list e inside (copies_iff.mp copies)
      rw [read]
      exact ⟨not_mem_parameters.mpr parameters, not_mem_names.mpr names⟩
    · obtain ⟨e, inside, rfl⟩ := element member
      have other : e.isClass = false := by simpa [classText] using enumeration
      rw [read]
      exact not_mem_names.mpr (avoiding.enum ⟨e, inside, other⟩)

/-! ## Modules that cannot be compiled -/

/-- No parameter is repeated exactly if the names are distinct and new. -/
theorem repeated_eq_none {seen : List String} {parameters : List (Nat × String)} :
    Fault.repeated seen parameters = none ↔ (parameters.map Prod.snd).Nodup ∧
      ∀ name ∈ parameters.map Prod.snd, name ∉ seen := by
  induction parameters generalizing seen with
  | nil => simp [Fault.repeated]
  | cons first rest ih =>
    obtain ⟨column, name⟩ := first
    rw [Fault.repeated]
    by_cases again : name ∈ seen
    · simp [again]
    · simp only [List.contains_eq_mem, again, decide_false, Bool.false_eq_true, ↓reduceIte, ih,
        List.map_cons, List.nodup_cons, List.mem_cons, not_or]
      grind

/-- A constructor with a parameter twice is found. -/
theorem exists_parameterFault {lines : List (List Char)} (member : line ∈ lines)
    (twice : (parameters? line).bind (Fault.repeated []) ≠ none) (number : Nat) :
    ∃ f, Fault.parameterFault (Fault.numbered number lines) = some f := by
  induction lines generalizing number with
  | nil => cases member
  | cons first rest ih =>
    rw [Fault.numbered, Fault.parameterFault]
    cases found : (parameters? first).bind (Fault.repeated []) with
    | some parameter => exact ⟨_, rfl⟩
    | none =>
      rcases List.mem_cons.mp member with rfl | behind
      · exact absurd found twice
      · exact ih behind (number + 1)

/-- The lines of an element are lines of the text of its module. -/
theorem mem_splitOn_renderModule {line : String} (named : e.NamesUsable) (member : e ∈ es)
    (inside : line ∈ elementLines e) (origin : String) :
    line.toList ∈ Segments.splitOn '\n' (renderModule origin es).toList := by
  have inModule : line ∈ moduleLines origin es :=
    List.mem_append_right _ (List.mem_flatMap.mpr
      ⟨e, member, List.mem_cons_of_mem _ (List.mem_cons_of_mem _ inside)⟩)
  rw [splitOn_renderModule]
  refine List.mem_append_left _ (List.mem_flatMap.mpr ⟨line, inModule, ?_⟩)
  rw [Segments.splitOn_of_not_mem (oneLine_elementLines named line inside)]
  exact List.mem_singleton_self _

/-- A module cannot be compiled if some property is called `self`. -/
theorem exists_fault_of_self (origin : String) (accepted : ∀ e ∈ es, e.Accepted) (member : e ∈ es)
    (property : p ∈ e.properties) (self : p.name = "self") :
    ∃ f, Fault.find? (renderModule origin es) = some f := by
  have named := Element.named_of_accepted (accepted e member)
  have body := named.body
  unfold Element.properties at property
  cases kind : e.body with
  | classBody supertypes ps =>
    rw [kind] at property body
    have inside : indented 1 ("def __init__(" ++ parameterText ps ++ ") -> None:") ∈
        elementLines e := by
      unfold elementLines
      rw [kind]
      exact List.mem_append_right _ (constructorLines_eq ps ▸ List.mem_cons_self)
    obtain ⟨parameters, read, names⟩ := Option.map_eq_some_iff.mp
      (parameters?_constructor fun p member => (body.1 p member).identifier)
    have twice : Fault.repeated [] parameters ≠ none := by
      rw [Ne, repeated_eq_none, names, List.nodup_cons]
      exact fun once => once.1.1 (self ▸ List.mem_map_of_mem property)
    obtain ⟨f, found⟩ := exists_parameterFault
      (mem_splitOn_renderModule named member inside origin) (by rw [read]; exact twice) 1
    unfold Fault.find?
    dsimp only
    cases form : Fault.formFault (Fault.numbered 1
        (Segments.splitOn '\n' (renderModule origin es).toList)) with
    | some f => exact ⟨f, rfl⟩
    | none => exact ⟨f, by rw [found]⟩
  | enumerationBody values =>
    rw [kind] at property
    cases property

/-! ## Accepted elements -/

/-- Behind its docstring, the module of accepted elements is hygienic exactly if the elements avoid
the names that generated code relies on. -/
theorem hygienic_iff (origin : String) (accepted : ∀ e ∈ es, e.Accepted) :
    ∃ text, renderModule origin es = docstring origin ++ "\n" ++ text ∧
      (Hygienic text ↔ AvoidsReliedNames es) :=
  ⟨code es, renderModule_eq origin es,
    hygienic_code fun e member => Element.named_of_accepted (accepted e member)⟩

end Code

namespace Sample

/-- A class with a property that is called like the first parameter of its constructor. -/
def selfNamed : Source := ⟨"m", [⟨"A", [], .classBody [] [⟨"self", "String", .one⟩]⟩]⟩

/-- A class with a property of many values that is called like what copies them. -/
def listNamed : Source := ⟨"m", [⟨"A", [], .classBody [] [⟨"list", "Integer", .many⟩]⟩]⟩

/-- An enumeration behind a class that is called like what enumerations are built on. -/
def enumNamed : Source :=
  ⟨"m", [⟨"enum", [], .classBody [] []⟩, ⟨"Level", [], .enumerationBody ["LOW"]⟩]⟩

end Sample

namespace Code

/-- Accepted elements may take each of the names that generated code relies on. -/
theorem not_hygienic_samples :
    (∃ text, renderModule "repository m" (Sample.selfNamed.elements "m" "/m/a.pure.yaml") =
      docstring "repository m" ++ "\n" ++ text ∧ ¬ Hygienic text) ∧
    (∃ text, renderModule "repository m" (Sample.listNamed.elements "m" "/m/a.pure.yaml") =
      docstring "repository m" ++ "\n" ++ text ∧ ¬ Hygienic text) ∧
    ∃ text, renderModule "repository m" (Sample.enumNamed.elements "m" "/m/a.pure.yaml") =
      docstring "repository m" ++ "\n" ++ text ∧ ¬ Hygienic text := by
  have accepted {s : Source} (reads : Source.check s.toValue = .valid s) :
      ∀ e ∈ s.elements "m" "/m/a.pure.yaml", e.Accepted :=
    Element.accepted_of_check reads "m" "/m/a.pure.yaml"
  obtain ⟨self, selfShape, selfIff⟩ :=
    hygienic_iff "repository m" (accepted (s := Sample.selfNamed) rfl)
  obtain ⟨list, listShape, listIff⟩ :=
    hygienic_iff "repository m" (accepted (s := Sample.listNamed) rfl)
  obtain ⟨enum, enumShape, enumIff⟩ :=
    hygienic_iff "repository m" (accepted (s := Sample.enumNamed) rfl)
  refine ⟨⟨self, selfShape, fun hygienic => ?_⟩, ⟨list, listShape, fun hygienic => ?_⟩,
    ⟨enum, enumShape, fun hygienic => ?_⟩⟩
  · exact (selfIff.mp hygienic).self _ List.mem_cons_self _ List.mem_cons_self rfl
  · have many := (listIff.mp hygienic).list _ List.mem_cons_self ⟨_, List.mem_cons_self, rfl⟩
    exact many.1 _ List.mem_cons_self rfl
  · have level := (enumIff.mp hygienic).enum
      ⟨_, List.mem_cons_of_mem _ List.mem_cons_self, rfl⟩
    exact level _ List.mem_cons_self (by decide)

end Code

end ModelForge
