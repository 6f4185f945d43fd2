import ModelForge.Proofs.Graph.Elements
import ModelForge.Proofs.Text.Packages

/-! # Names of accepted elements

An element is accepted if a source file that can be read declares it. Its names can be used by
generated code (`ModelForge.Element.named_of_accepted`): the segments of its package, its own name,
and the names of its properties or values are identifiers and no reserved words, and within a class
or an enumeration each name stands once. All declared elements are accepted
(`ModelForge.Repository.accepted_of_declares`).
-/

namespace ModelForge

namespace Source

open Schema

variable {entries : List (Value × Value)} {v : Value} {s : String} {names : List String}
  {declared : Declaration}

/-- A name that generated code can use. -/
structure Usable (name : String) : Prop where
  identifier : isIdentifier name = true
  unreserved : Identifier.isReserved name = false

/-- The names of properties or values can be used, and each stands once. -/
def UsableBody : Body → Prop
  | .classBody _ ps => (∀ p ∈ ps, Usable p.name) ∧ (ps.map Property.name).Nodup
  | .enumerationBody values => values ≠ [] ∧ (∀ value ∈ values, Usable value) ∧ values.Nodup

/-- A name that was read can be used in generated code. -/
theorem usable_name (reads : name entries = .valid s) : Usable s :=
  ⟨(valid_name reads).1, (valid_name reads).2⟩

/-- Names that were read are identifiers, and there is at least one. -/
theorem identifiers_of_listOf (reads : listOf 1 identifier v = .valid names) :
    names ≠ [] ∧ ∀ name ∈ names, isIdentifier name = true := by
  unfold listOf at reads
  split at reads
  · next items _ =>
    dsimp only at reads
    split at reads
    · next enough =>
      refine ⟨?_, fun name member => ?_⟩
      · rintro rfl
        cases items with
        | nil => exact absurd enough (by decide)
        | cons first rest =>
          obtain ⟨make, others, readMake, -, none⟩ := Checked.seq_eq_valid.mp reads
          obtain ⟨_, -, rfl⟩ := Checked.map_eq_valid.mp readMake
          cases none
      · obtain ⟨w, read⟩ := exists_of_eachFrom reads name member
        exact form_of_textLike read
    · cases reads
  · cases reads

/-- Values that were read are usable, distinct, and there is at least one. -/
theorem usable_values (reads : values v = .valid names) :
    names ≠ [] ∧ (∀ name ∈ names, Usable name) ∧ names.Nodup := by
  obtain ⟨found, listed, checked⟩ := Checked.andThen_eq_valid.mp reads
  obtain ⟨_, free, once⟩ := Checked.andThen_eq_valid.mp checked
  obtain ⟨nodup, rfl⟩ := nodup_of_distinct once
  obtain ⟨some_name, identified⟩ := identifiers_of_listOf listed
  have unreserved := unreserved_of_unreservedAll free
  exact ⟨some_name, fun name member => ⟨identified name member, unreserved name member⟩, nodup⟩

/-- A declaration that was read has a usable name and a usable body. -/
theorem usable_declaration (reads : declaration v = .valid declared) :
    Usable declared.name ∧ UsableBody declared.body := by
  obtain ⟨entries, option, member, chosen⟩ := exists_of_variant reads
  simp only [List.mem_cons, List.not_mem_nil, or_false] at member
  rcases member with rfl | rfl
  · obtain ⟨d, closed, once⟩ := Checked.andThen_eq_valid.mp chosen
    obtain ⟨make, ps, readMake, readProperties, rfl⟩ :=
      Checked.seq_eq_valid.mp (eq_valid_of_closed closed)
    obtain ⟨make₁, supertypes, readMake₁, -, rfl⟩ := Checked.seq_eq_valid.mp readMake
    obtain ⟨make₂, stereotypes, readMake₂, -, rfl⟩ := Checked.seq_eq_valid.mp readMake₁
    obtain ⟨name, readName, rfl⟩ := Checked.map_eq_valid.mp readMake₂
    obtain ⟨nodup, rfl⟩ := nodup_of_distinct once
    refine ⟨usable_name readName, fun p member => ?_, nodup⟩
    have valid := valid_properties readProperties p member
    exact ⟨valid.name, valid.unreserved⟩
  · obtain ⟨make, names, readMake, readNames, rfl⟩ :=
      Checked.seq_eq_valid.mp (eq_valid_of_closed chosen)
    obtain ⟨make₁, stereotypes, readMake₁, -, rfl⟩ := Checked.seq_eq_valid.mp readMake
    obtain ⟨name, readName, rfl⟩ := Checked.map_eq_valid.mp readMake₁
    obtain ⟨w, read⟩ := required_eq_valid readNames
    exact ⟨usable_name readName, usable_values read⟩

/-- Every declaration of a source that was read has a usable name and a usable body. -/
theorem usable_source {source : Source} (reads : check v = .valid source) :
    ∀ declared ∈ source.declarations, Usable declared.name ∧ UsableBody declared.body := by
  obtain ⟨entries, closed⟩ := object_eq_valid reads
  obtain ⟨make, declarations, readMake, readDeclarations, rfl⟩ :=
    Checked.seq_eq_valid.mp (eq_valid_of_closed closed)
  obtain ⟨package, -, rfl⟩ := Checked.map_eq_valid.mp readMake
  rcases member_eq_valid readDeclarations with ⟨w, listed⟩ | none
  · intro declared member
    obtain ⟨u, read⟩ := exists_of_list listed declared member
    exact usable_declaration read
  · cases none
    exact fun _ none => absurd none List.not_mem_nil

/-- The elements that a source file of a repository declares. -/
def elements (s : Source) (repository file : String) : List Element :=
  s.declarations.map (Element.ofDeclaration s.package repository file)

end Source

namespace Element

variable {e : Element}

/-- An element that a source file declares, where the source file can be read. -/
def Accepted (e : Element) : Prop :=
  ∃ v source repository file, Source.check v = .valid source ∧
    ∃ d ∈ source.declarations, e = ofDeclaration source.package repository file d

/-- What a source file declares is accepted if the source file can be read. -/
theorem accepted_of_check {v : Value} {source : Source} (reads : Source.check v = .valid source)
    (repository file : String) :
    ∀ e ∈ source.elements repository file, e.Accepted := by
  intro e member
  obtain ⟨d, declared, rfl⟩ := List.mem_map.mp member
  exact ⟨v, source, repository, file, reads, d, declared, rfl⟩

/-- An element all of whose names generated code can use. -/
structure NamesUsable (e : Element) : Prop where
  package : Source.ValidPackage e.package
  name : Source.Usable e.name
  path : e.path = qualify e.package e.name
  body : Source.UsableBody e.body

/-- Source files that can be read only declare elements with names that can be used. -/
theorem named_of_accepted (accepted : e.Accepted) : e.NamesUsable := by
  obtain ⟨v, source, repository, file, reads, d, member, rfl⟩ := accepted
  obtain ⟨package, -⟩ := Source.valid_source reads
  obtain ⟨usable, body⟩ := Source.usable_source reads d member
  have placed := placed_ofDeclaration package.formed usable.identifier repository file
  refine ⟨?_, ?_, placed.path, body⟩
  · rwa [package_ofDeclaration package.formed usable.identifier repository file]
  · rwa [name_ofDeclaration package.formed usable.identifier repository file]

/-- An element with usable names stands in a package. -/
theorem NamesUsable.placed (named : e.NamesUsable) : e.Placed :=
  ⟨named.package.formed, named.name.identifier, named.path⟩

end Element

namespace Repository

variable {d : Disk} {r : Repository} {e : Element}

/-- All elements that the source files of a repository declare are accepted. -/
theorem accepted_of_declares [SetOrder] (member : e ∈ r.declares d) : e.Accepted := by
  obtain ⟨files, -, p, -, es, parsed, made⟩ := mem_declares.mp member
  obtain ⟨content, source, -, read, rfl⟩ := source_of_parse parsed
  unfold readSource at read
  split at read
  · cases read
  · cases read
  · split at read
    · next checked =>
      cases read
      exact Element.accepted_of_check checked r.name (r.sourceId p) e made
    · cases read

end Repository

end ModelForge
