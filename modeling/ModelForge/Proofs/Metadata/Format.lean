import Mathlib.Data.List.Forall2
import ModelForge.Metadata.Read

/-! # The format of the binary files

Which octets describe what, without a word about how they are read: numbers in fields of a fixed
width, lists behind the number of their items, texts as UTF-8 or as ids of a pool, and from these
the file of the pools (`ModelForge.Metadata.StringsForm`) and the file of the objects
(`ModelForge.Metadata.ObjectsForm`). Every text of an object is one of the pools
(`ModelForge.Metadata.drawn_of_objectsForm`).
-/

namespace ModelForge

/-- The text of a value that has one. -/
def MetadataValue.text? : MetadataValue → Option String
  | string text => some text
  | integer _ => none
  | boolean _ => none
  | reference path => some path

/-- All texts of an object come from the pools: the classifier from the pool of classifiers, and all
others from the general one. -/
structure MetadataObject.DrawnFrom (o : MetadataObject) (table : StringPools) : Prop where
  classifier : o.classifier ∈ table.classifiers
  path : o.path ∈ table.strings
  repository : o.repository ∈ table.strings
  source : o.source ∈ table.strings
  names : ∀ p ∈ o.properties, p.1 ∈ table.strings
  values : ∀ p ∈ o.properties, ∀ v ∈ p.2, ∀ text, v.text? = some text → text ∈ table.strings

namespace Metadata

variable {α : Type} {table : StringPools} {bs : Octets}

/-- A natural number in a field. -/
def NaturalForm (width n : Nat) (bs : Octets) : Prop :=
  bs.length = width ∧ BigEndian.value bs = n

/-- An integer in a field. -/
def IntegerForm (width : Nat) (i : Int) (bs : Octets) : Prop :=
  bs.length = width ∧ BigEndian.signedValue bs = i

/-- Items one after the other. -/
def ItemsForm (Item : α → Octets → Prop) (items : List α) (bs : Octets) : Prop :=
  ∃ pieces, bs = pieces.flatten ∧ List.Forall₂ Item items pieces

/-- Items behind their number. -/
def ListForm (Item : α → Octets → Prop) (items : List α) (bs : Octets) : Prop :=
  ∃ size content, bs = size ++ content ∧ NaturalForm 4 items.length size ∧
    ItemsForm Item items content

/-- A text as UTF-8 behind the number of its octets. -/
def TextForm (text : String) (bs : Octets) : Prop :=
  ∃ size, bs = size ++ Utf8.encode text ∧ NaturalForm 4 (Utf8.encode text).length size

/-- What both files start with. -/
def HeaderForm (magic bs : Octets) : Prop :=
  ∃ current, bs = magic ++ current ∧ NaturalForm 2 version current

/-- The file of the pools. -/
def StringsForm (table : StringPools) (bs : Octets) : Prop :=
  ∃ header classifiers strings, bs = header ++ (classifiers ++ strings) ∧
    HeaderForm stringsMagic header ∧ ListForm TextForm table.classifiers classifiers ∧
    ListForm TextForm table.strings strings

/-- A text of the general pool as its id, which is one more than its index. -/
def StringForm (table : StringPools) (text : String) (bs : Octets) : Prop :=
  ∃ i : Nat, IntegerForm 4 (i + 1) bs ∧ table.strings[i]? = some text

/-- A text of the pool of classifiers as its id: indices are counted down from minus one. -/
def ClassifierForm (table : StringPools) (text : String) (bs : Octets) : Prop :=
  ∃ i : Nat, IntegerForm 4 (-i - 1) bs ∧ table.classifiers[i]? = some text

/-- What stands behind the tag of a value; any octet but zero is a true one. -/
def PayloadForm (table : StringPools) : MetadataValue → Octets → Prop
  | .string text, bs => StringForm table text bs
  | .integer i, bs => IntegerForm 8 i bs
  | .boolean b, bs => ∃ n, NaturalForm 1 n bs ∧ b = decide (n ≠ 0)
  | .reference path, bs => StringForm table path bs

/-- A value behind its tag. -/
def ValueForm (table : StringPools) (v : MetadataValue) (bs : Octets) : Prop :=
  ∃ payload, bs = v.tag :: payload ∧ PayloadForm table v payload

/-- A property: its name and its values. -/
def PropertyForm (table : StringPools) (p : String × List MetadataValue) (bs : Octets) : Prop :=
  ∃ name values, bs = name ++ values ∧ StringForm table p.1 name ∧
    ListForm (ValueForm table) p.2 values

/-- The properties of an object that are listed in a file. Where a name is listed twice, it has the
values that are listed last, in the place where it is listed first. -/
def listed (ps : MetadataProperties) : MetadataProperties :=
  ps.foldl (fun acc p => putProperty p acc) []

/-- An object: four ids, and its properties. -/
structure ObjectParts (table : StringPools) (o : MetadataObject)
    (classifier path repository source properties : Octets) : Prop where
  classifier : ClassifierForm table o.classifier classifier
  path : StringForm table o.path path
  repository : StringForm table o.repository repository
  source : StringForm table o.source source
  properties : ∃ ps, ListForm (PropertyForm table) ps properties ∧ o.properties = listed ps

/-- The octets of an object. -/
def ObjectForm (table : StringPools) (o : MetadataObject) (bs : Octets) : Prop :=
  ∃ classifier path repository source properties,
    bs = (classifier ++ path ++ repository ++ source) ++ properties ∧
      ObjectParts table o classifier path repository source properties

/-- The file of the objects. -/
def ObjectsForm (table : StringPools) (os : List MetadataObject) (bs : Octets) : Prop :=
  ∃ header content, bs = header ++ content ∧ HeaderForm objectsMagic header ∧
    ListForm (ObjectForm table) os content

/-- The three files of a unit describe it. -/
structure Describes (files : UnitFiles) (u : MetadataUnit) : Prop where
  index : UnitIndex.ofOctets files.index = .valid u.index
  version : u.index.version = version
  pools : StringsForm u.pools files.strings
  objects : ObjectsForm u.pools u.objects files.objects
  counted : (u.objects.length : Int) = u.index.objectCount

/-! ## Texts of the pools -/

/-- An id of a text stands for one of the general pool. -/
theorem mem_of_stringForm {text : String} (form : StringForm table text bs) :
    text ∈ table.strings := by
  obtain ⟨i, -, found⟩ := form
  exact List.mem_of_getElem? found

/-- An id of a classifier stands for one of theirs. -/
theorem mem_of_classifierForm {text : String} (form : ClassifierForm table text bs) :
    text ∈ table.classifiers := by
  obtain ⟨i, -, found⟩ := form
  exact List.mem_of_getElem? found

/-- Each item has a piece of the octets of a list. -/
theorem exists_of_itemsForm {Item : α → Octets → Prop} {items : List α}
    (form : ItemsForm Item items bs) {a : α} (member : a ∈ items) : ∃ piece, Item a piece := by
  obtain ⟨pieces, -, each⟩ := form
  induction each with
  | nil => cases member
  | cons first _ ih =>
    rcases List.mem_cons.mp member with rfl | behind
    · exact ⟨_, first⟩
    · exact ih behind

theorem exists_of_listForm {Item : α → Octets → Prop} {items : List α}
    (form : ListForm Item items bs) {a : α} (member : a ∈ items) : ∃ piece, Item a piece := by
  obtain ⟨_, _, -, -, content⟩ := form
  exact exists_of_itemsForm content member

/-- Putting a property adds no other one. -/
theorem mem_putProperty {p q : String × List MetadataValue} {ps : MetadataProperties}
    (member : q ∈ putProperty p ps) : q = p ∨ q ∈ ps := by
  induction ps with
  | nil => exact Or.inl (List.mem_singleton.mp member)
  | cons r rest ih =>
    unfold putProperty at member
    split at member
    · rcases List.mem_cons.mp member with same | behind
      · exact Or.inl same
      · exact Or.inr (List.mem_cons_of_mem r behind)
    · rcases List.mem_cons.mp member with rfl | behind
      · exact Or.inr List.mem_cons_self
      · exact (ih behind).imp_right (List.mem_cons_of_mem r)

/-- Properties that are listed were there. -/
theorem mem_of_mem_listed {q : String × List MetadataValue} {ps : MetadataProperties}
    (member : q ∈ listed ps) : q ∈ ps := by
  have grown : ∀ ps acc : MetadataProperties,
      q ∈ ps.foldl (fun acc p => putProperty p acc) acc → q ∈ acc ∨ q ∈ ps := by
    intro ps
    induction ps with
    | nil => exact fun acc inside => Or.inl inside
    | cons p ps ih =>
      intro acc inside
      rcases ih _ inside with put | behind
      · rcases mem_putProperty put with rfl | before
        · exact Or.inr List.mem_cons_self
        · exact Or.inl before
      · exact Or.inr (List.mem_cons_of_mem p behind)
  exact (grown ps [] member).resolve_left List.not_mem_nil

/-- The text of a value is in the general pool. -/
theorem mem_of_valueForm {v : MetadataValue} (form : ValueForm table v bs) {text : String}
    (has : v.text? = some text) : text ∈ table.strings := by
  obtain ⟨payload, -, payloadForm⟩ := form
  cases v with
  | string s =>
    cases has
    exact mem_of_stringForm payloadForm
  | integer i => cases has
  | boolean b => cases has
  | reference path =>
    cases has
    exact mem_of_stringForm payloadForm

/-- All texts of an object are drawn from the pools. -/
theorem drawn_of_objectForm {o : MetadataObject} (form : ObjectForm table o bs) :
    o.DrawnFrom table := by
  obtain ⟨_, _, _, _, _, -, parts⟩ := form
  obtain ⟨ps, properties, same⟩ := parts.properties
  have each : ∀ p ∈ o.properties, ∃ piece, PropertyForm table p piece := by
    intro p member
    rw [same] at member
    exact exists_of_listForm properties (mem_of_mem_listed member)
  refine ⟨mem_of_classifierForm parts.classifier, mem_of_stringForm parts.path,
    mem_of_stringForm parts.repository, mem_of_stringForm parts.source, ?_, ?_⟩
  · intro p member
    obtain ⟨_, _, _, -, name, -⟩ := each p member
    exact mem_of_stringForm name
  · intro p member v value text has
    obtain ⟨_, _, _, -, -, values⟩ := each p member
    obtain ⟨_, valueForm⟩ := exists_of_listForm values value
    exact mem_of_valueForm valueForm has

/-- Every text of an object in the file of the objects is one of the pools. -/
theorem drawn_of_objectsForm {os : List MetadataObject} (form : ObjectsForm table os bs)
    {o : MetadataObject} (member : o ∈ os) : o.DrawnFrom table := by
  obtain ⟨_, _, -, -, list⟩ := form
  obtain ⟨_, object⟩ := exists_of_listForm list member
  exact drawn_of_objectForm object

/-! ## Numbers of items -/

/-- A list takes at least as many octets as its items need. -/
theorem length_of_itemsForm {Item : α → Octets → Prop} {items : List α} {least : Nat}
    (each : ∀ a piece, Item a piece → least ≤ piece.length) (form : ItemsForm Item items bs) :
    least * items.length ≤ bs.length := by
  obtain ⟨pieces, rfl, pairs⟩ := form
  induction pairs with
  | nil => exact Nat.le_of_eq (Nat.mul_zero least)
  | @cons a piece items pieces first _ ih =>
    have wide := each a piece first
    rw [List.length_cons, List.flatten_cons, List.length_append, Nat.mul_succ]
    omega

/-- A list has at least as many octets as its items need. -/
theorem length_of_listForm {Item : α → Octets → Prop} {items : List α} {least : Nat}
    (each : ∀ a piece, Item a piece → least ≤ piece.length) (form : ListForm Item items bs) :
    4 + least * items.length ≤ bs.length := by
  obtain ⟨size, content, rfl, field, itemsForm⟩ := form
  have wide := length_of_itemsForm each itemsForm
  rw [List.length_append, field.1]
  omega

theorem length_of_textForm {text : String} (form : TextForm text bs) : 4 ≤ bs.length := by
  obtain ⟨size, rfl, field⟩ := form
  rw [List.length_append, field.1]
  omega

/-- The pools hold no more texts than their file has room for. -/
theorem length_of_stringsForm (form : StringsForm table bs) :
    4 * (table.classifiers.length + table.strings.length) ≤ bs.length := by
  obtain ⟨_, classifiers, strings, rfl, -, first, second⟩ := form
  have some := length_of_listForm (fun _ _ => length_of_textForm) first
  have others := length_of_listForm (fun _ _ => length_of_textForm) second
  rw [List.length_append, List.length_append]
  omega

/-- An object has at least its five fields. -/
theorem length_of_objectForm {o : MetadataObject} (form : ObjectForm table o bs) :
    20 ≤ bs.length := by
  obtain ⟨_, _, _, _, _, rfl, ⟨_, first, -⟩, ⟨_, second, -⟩, ⟨_, third, -⟩, ⟨_, fourth, -⟩, _,
    properties, -⟩ := form
  have list := length_of_listForm (fun _ _ _ => Nat.zero_le _) properties
  simp only [List.length_append, first.1, second.1, third.1, fourth.1]
  omega

/-- There are no more objects than their file has room for. -/
theorem length_of_objectsForm {os : List MetadataObject} (form : ObjectsForm table os bs) :
    20 * os.length ≤ bs.length := by
  obtain ⟨_, content, rfl, -, list⟩ := form
  have wide := length_of_listForm (fun _ _ => length_of_objectForm) list
  rw [List.length_append]
  omega

end Metadata

end ModelForge
