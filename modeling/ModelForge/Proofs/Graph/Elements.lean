import Mathlib.Data.List.Nodup
import ModelForge.Proofs.Repository.Declared
import ModelForge.Proofs.Schema.Objects
import ModelForge.Proofs.Schema.Read
import ModelForge.Proofs.Text.Paths

/-! # Declared elements are valid and are read back

Every element that a source file declares has a path of identifiers and properties with names that
generated code can use, each once (`ModelForge.Repository.valid_of_declares`). The value of such an
element is read back as the element (`ModelForge.Element.check_toValue`).
-/

namespace ModelForge

namespace Source

open Schema

variable {entries : List (Value × Value)} {v : Value} {s : String} {p : Property}
  {ps : List Property} {declared : Declaration}

/-- A property as a source file may declare it. -/
structure ValidProperty (p : Property) : Prop where
  name : isIdentifier p.name = true
  unreserved : Identifier.isReserved p.name = false
  type : p.type.isEmpty = false

/-- The properties of a class are valid and have distinct names. -/
def ValidBody : Body → Prop
  | .classBody _ ps => (∀ p ∈ ps, ValidProperty p) ∧ (ps.map Property.name).Nodup
  | .enumerationBody _ => True

theorem unreserved_eq_valid {t : String} (reads : unreserved s = .valid t) :
    s = t ∧ Identifier.isReserved t = false := by
  unfold unreserved at reads
  split at reads
  · cases reads
  · next free =>
    cases reads
    exact ⟨rfl, by simpa using free⟩

/-- A name that was read is an identifier and no reserved word. -/
theorem valid_name (reads : name entries = .valid s) :
    isIdentifier s = true ∧ Identifier.isReserved s = false := by
  obtain ⟨v, named⟩ := required_eq_valid reads
  obtain ⟨t, identified, free⟩ := Checked.andThen_eq_valid.mp named
  obtain ⟨rfl, unreserved⟩ := unreserved_eq_valid free
  exact ⟨form_of_textLike identified, unreserved⟩

/-- A property that was read is valid. -/
theorem valid_property (reads : property v = .valid p) : ValidProperty p := by
  obtain ⟨entries, closed⟩ := object_eq_valid reads
  obtain ⟨make, multiplicity, readMake, -, rfl⟩ :=
    Checked.seq_eq_valid.mp (eq_valid_of_closed closed)
  obtain ⟨make', type, readMake', readType, rfl⟩ := Checked.seq_eq_valid.mp readMake
  obtain ⟨name, readName, rfl⟩ := Checked.map_eq_valid.mp readMake'
  obtain ⟨identified, free⟩ := valid_name readName
  obtain ⟨w, typed⟩ := required_eq_valid readType
  exact ⟨identified, free, isEmpty_of_someText typed⟩

/-- Each of a list of properties that was read is valid. -/
theorem valid_properties (reads : properties entries = .valid ps) : ∀ p ∈ ps, ValidProperty p := by
  rcases member_eq_valid reads with ⟨v, listed⟩ | none
  · intro p member
    obtain ⟨w, read⟩ := exists_of_list listed p member
    exact valid_property read
  · cases none
    intro _ none
    cases none

/-- Names that passed the check of repetitions are distinct. -/
theorem nodup_of_distinct {α : Type} {what : String} {names : List String} {a b : α}
    (reads : distinct what names a = .valid b) : names.Nodup ∧ a = b := by
  unfold distinct at reads
  split at reads
  · next none =>
    cases reads
    refine ⟨List.nodup_iff_count_le_one.mpr fun name => ?_, rfl⟩
    by_cases once : names.count name ≤ 1
    · exact once
    · have again : name ∈ repeated names := by
        unfold repeated
        rw [Names.mem_ofList, List.mem_filter]
        exact ⟨List.count_pos_iff.mp (by omega), by simpa using once⟩
      rw [none] at again
      cases again
  · cases reads

/-- A declaration that was read has an identifier for a name and a valid body. -/
theorem valid_declaration (reads : declaration v = .valid declared) :
    isIdentifier declared.name = true ∧ ValidBody declared.body := by
  obtain ⟨entries, option, member, chosen⟩ := exists_of_variant reads
  simp only [List.mem_cons, List.not_mem_nil, or_false] at member
  rcases member with rfl | rfl
  · obtain ⟨d, closed, once⟩ := Checked.andThen_eq_valid.mp chosen
    obtain ⟨make, ps, readMake, readProperties, rfl⟩ :=
      Checked.seq_eq_valid.mp (eq_valid_of_closed closed)
    obtain ⟨make₁, supertypes, readMake₁, -, rfl⟩ := Checked.seq_eq_valid.mp readMake
    obtain ⟨make₂, stereotypes, readMake₂, -, rfl⟩ := Checked.seq_eq_valid.mp readMake₁
    obtain ⟨name, readName, rfl⟩ := Checked.map_eq_valid.mp readMake₂
    obtain ⟨nodup, rfl⟩ := nodup_of_distinct once
    exact ⟨(valid_name readName).1, valid_properties readProperties, nodup⟩
  · obtain ⟨make, values, readMake, -, rfl⟩ := Checked.seq_eq_valid.mp (eq_valid_of_closed chosen)
    obtain ⟨make₁, stereotypes, readMake₁, -, rfl⟩ := Checked.seq_eq_valid.mp readMake
    obtain ⟨name, readName, rfl⟩ := Checked.map_eq_valid.mp readMake₁
    exact ⟨(valid_name readName).1, trivial⟩

/-- No name that passed the check is a reserved word. -/
theorem unreserved_of_unreservedAll {names : List String}
    (reads : unreservedAll names = .valid ()) : ∀ n ∈ names, Identifier.isReserved n = false := by
  induction names with
  | nil => exact fun n member => absurd member List.not_mem_nil
  | cons first rest ih =>
    obtain ⟨t, free, others⟩ := Checked.andThen_eq_valid.mp reads
    obtain ⟨rfl, unreserved⟩ := unreserved_eq_valid free
    exact List.forall_mem_cons.mpr ⟨unreserved, ih others⟩

/-- A package as a source file may name it: identifiers that generated code can use. -/
structure ValidPackage (package : String) : Prop where
  formed : isElementPath package = true
  unreserved : ∀ segment ∈ pathSegments package, Identifier.isReserved segment = false

/-- The name of a package that was read is valid. -/
theorem valid_packageName {package : String} (reads : packageName v = .valid package) :
    ValidPackage package := by
  obtain ⟨t, formed, free⟩ := Checked.andThen_eq_valid.mp reads
  obtain ⟨_, unreserved, same⟩ := Checked.andThen_eq_valid.mp free
  cases same
  exact ⟨form_of_textLike formed, unreserved_of_unreservedAll unreserved⟩

/-- A source file that was read has a valid package and valid declarations. -/
theorem valid_source {source : Source} (reads : check v = .valid source) :
    ValidPackage source.package ∧
      ∀ declared ∈ source.declarations,
        isIdentifier declared.name = true ∧ ValidBody declared.body := by
  obtain ⟨entries, closed⟩ := object_eq_valid reads
  obtain ⟨make, declarations, readMake, readDeclarations, rfl⟩ :=
    Checked.seq_eq_valid.mp (eq_valid_of_closed closed)
  obtain ⟨package, readPackage, rfl⟩ := Checked.map_eq_valid.mp readMake
  constructor
  · obtain ⟨w, named⟩ := required_eq_valid readPackage
    exact valid_packageName named
  · rcases member_eq_valid readDeclarations with ⟨w, listed⟩ | none
    · intro declared member
      obtain ⟨u, read⟩ := exists_of_list listed declared member
      exact valid_declaration read
    · cases none
      intro _ none
      cases none

end Source

namespace Element

open Schema Source

variable {e : Element} {d : Disk} {r : Repository}

/-- An element as a source file may declare it. -/
structure Valid (e : Element) : Prop where
  path : isElementPath e.path = true
  body : ValidBody e.body

/-! ## Reading back -/

/-- A valid property is read back. -/
theorem property_propertyValue {p : Property} (valid : ValidProperty p) :
    property (propertyValue p) = .valid p := by
  have name : ((identifier (.text p.name)).andThen unreserved) = .valid p.name := by
    unfold identifier unreserved
    rw [textLike_of_form valid.name]
    dsimp only [Checked.andThen]
    rw [if_neg (by rw [valid.unreserved]; exact Bool.false_ne_true)]
  have type : someText (.text p.type) = .valid p.type := by
    unfold someText
    rw [text_valid]
    dsimp only [Checked.andThen]
    rw [if_neg (by rw [valid.type]; exact Bool.false_ne_true)]
  have multiplicity : listed Multiplicity.names (.text p.multiplicity.text) =
      .valid p.multiplicity := by
    cases p.multiplicity <;> rfl
  unfold property propertyValue
  rw [object_eq]
  dsimp only [Schema.object]
  rw [closed_object (by simp)]
  unfold Source.name
  rw [required_of_lookup (by simp) name, required_of_lookup (by simp) type,
    member_of_lookup _ (by simp) multiplicity]
  rfl

theorem texts_of_lookup {entries : List (Value × Value)} {name : String} (ss : List String)
    (found : Value.lookup name entries = some (.texts ss)) : texts entries name = .valid ss :=
  member_of_lookup _ found (texts_valid ss)

/-- A valid element is read back from its value. -/
theorem check_toValue (valid : Valid e) : check e.toValue = .valid e := by
  obtain ⟨path, repository, source, stereotypes, body⟩ := e
  have formed : textLike pathPattern isElementPath (.text path) = .valid path :=
    textLike_of_form valid.path
  cases body with
  | classBody supertypes ps =>
    have properties : list property (.list (ps.map propertyValue)) = .valid ps :=
      list_of_each fun p member => property_propertyValue (valid.body.1 p member)
    unfold check toValue
    dsimp only [List.cons_append, List.nil_append]
    rw [object_eq]
    have tag : kind ⟨path, repository, source, stereotypes, .classBody supertypes ps⟩ = "class" :=
      rfl
    rw [tag]
    refine variant_of_tag (by simp; rfl) rfl ?_
    unfold checkClass shared Source.properties
    rw [closed_object (by simp [sharedNames]), required_of_lookup (by simp) formed,
      required_of_lookup (by simp) (text_valid repository),
      required_of_lookup (by simp) (text_valid source),
      texts_of_lookup stereotypes (by simp), texts_of_lookup supertypes (by simp),
      member_of_lookup _ (by simp) properties]
    rfl
  | enumerationBody values =>
    unfold check toValue
    dsimp only [List.cons_append, List.nil_append]
    rw [object_eq]
    have tag : kind ⟨path, repository, source, stereotypes, .enumerationBody values⟩ =
      "enumeration" := rfl
    rw [tag]
    refine variant_of_tag (by simp; rfl) rfl ?_
    unfold checkEnumeration shared
    rw [closed_object (by simp [sharedNames]), required_of_lookup (by simp) formed,
      required_of_lookup (by simp) (text_valid repository),
      required_of_lookup (by simp) (text_valid source),
      texts_of_lookup stereotypes (by simp),
      required_of_lookup (by simp) (texts_valid values)]
    rfl

end Element

namespace Repository

variable {d : Disk} {r : Repository} {e : Element}

/-- Every declared element comes from a valid declaration in a valid package. -/
theorem exists_declaration [SetOrder] (member : e ∈ r.declares d) :
    ∃ package source declaration, Source.ValidPackage package ∧
      isIdentifier declaration.name = true ∧ Source.ValidBody declaration.body ∧
      e = Element.ofDeclaration package r.name source declaration := by
  obtain ⟨files, -, p, -, es, parsed, made⟩ := mem_declares.mp member
  obtain ⟨content, source, -, read, rfl⟩ := source_of_parse parsed
  obtain ⟨declaration, declared, rfl⟩ := List.mem_map.mp made
  unfold readSource at read
  split at read
  · cases read
  · cases read
  · next v _ =>
    split at read
    · next checked =>
      cases read
      obtain ⟨package, each⟩ := Source.valid_source checked
      obtain ⟨named, body⟩ := each declaration declared
      exact ⟨_, _, declaration, package, named, body, rfl⟩
    · cases read

/-- Every declared element is valid. -/
theorem valid_of_declares [SetOrder] (member : e ∈ r.declares d) : e.Valid := by
  obtain ⟨package, source, declaration, valid, named, body, rfl⟩ := exists_declaration member
  exact ⟨isElementPath_qualify valid.formed named, body⟩

end Repository

end ModelForge
