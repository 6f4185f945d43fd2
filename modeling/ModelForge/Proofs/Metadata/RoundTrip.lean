import ModelForge.Proofs.Graph.Elements
import ModelForge.Proofs.Graph.Preparation
import ModelForge.Proofs.Metadata.Files
import ModelForge.Proofs.Metadata.Index

/-! # Metadata units are read back

The names of the properties that metadata states of a valid element are distinct
(`ModelForge.Element.nodup_metadata`), so the files of a unit of a rebuilt graph are read back to
one object for each of its elements, in order, and to an index that counts them truly
(`ModelForge.Metadata.readUnit_of_serialized`).
-/

namespace ModelForge

namespace Element

variable {e : Element} {name : String}

theorem map_unlessEmpty (name : String) (values : List MetadataValue) :
    (unlessEmpty name values).map Prod.fst = if values.isEmpty then [] else [name] := by
  unfold unlessEmpty
  split <;> rfl

theorem eq_of_mem_unlessEmpty {values : List MetadataValue} {other : String}
    (member : other ∈ (unlessEmpty name values).map Prod.fst) : other = name := by
  rw [map_unlessEmpty] at member
  split at member
  · cases member
  · exact List.mem_singleton.mp member

/-- A property that is left out if empty stands once. -/
theorem nodup_unlessEmpty (name : String) (values : List MetadataValue) :
    ((unlessEmpty name values).map Prod.fst).Nodup := by
  rw [map_unlessEmpty]
  split
  · exact List.nodup_nil
  · exact List.nodup_singleton name

private theorem propertyName_ne {other : String} (start : other.toList.head? ≠ some 'p')
    (name : String) : "properties." ++ name ≠ other := by
  rintro rfl
  rw [String.toList_append] at start
  exact start rfl

private theorem propertyName_injective :
    Function.Injective fun name => "properties." ++ name := by
  intro a b same
  have lists := congrArg String.toList same
  rw [String.toList_append, String.toList_append] at lists
  exact String.toList_inj.mp (List.append_cancel_left lists)

/-- The names of what metadata states of a valid element are distinct. -/
theorem nodup_metadata (valid : e.Valid) : (e.metadata.map Prod.fst).Nodup := by
  unfold metadata
  rw [List.map_append]
  have body := valid.body
  cases same : e.body with
  | enumerationBody values =>
    refine List.nodup_append.mpr ⟨nodup_unlessEmpty _ _, List.nodup_singleton _, ?_⟩
    intro a first b second
    rw [eq_of_mem_unlessEmpty first, List.mem_singleton.mp second]
    exact show "stereotypes" ≠ "values" by decide
  | classBody supertypes properties =>
    rw [same] at body
    have names : ((properties.map propertyValues).map Prod.fst).Nodup := by
      have mapped := body.2.map propertyName_injective
      rw [List.map_map] at mapped ⊢
      exact mapped
    have named : ∀ a ∈ (properties.map propertyValues).map Prod.fst,
        ∃ name, a = "properties." ++ name := by
      intro a member
      rw [List.map_map] at member
      obtain ⟨p, -, rfl⟩ := List.mem_map.mp member
      exact ⟨p.name, rfl⟩
    dsimp only
    rw [List.map_append]
    refine List.nodup_append.mpr ⟨nodup_unlessEmpty _ _, List.nodup_append.mpr
      ⟨nodup_unlessEmpty _ _, names, ?_⟩, ?_⟩
    · intro a first b second
      obtain ⟨name, rfl⟩ := named b second
      rw [eq_of_mem_unlessEmpty first]
      exact (propertyName_ne (by decide) name).symm
    · intro a first b second
      rw [eq_of_mem_unlessEmpty first]
      rcases List.mem_append.mp second with supertype | property
      · rw [eq_of_mem_unlessEmpty supertype]
        decide
      · obtain ⟨name, rfl⟩ := named b property
        exact (propertyName_ne (by decide) name).symm

end Element

/-- What stands at the location that a path leads to is read. -/
theorem Disk.read_of_entry {d : Disk} {p : Path} {l : Files.Location} {content : Octets}
    (located : d.locateFor p = .ok l) (entry : d.entry? l = some (.file content)) :
    d.read p = .ok content := by
  unfold Disk.read
  rw [located]
  dsimp only [bind, Except.bind]
  rw [entry]
  rfl

namespace Metadata

open UnitIndex (Fits CountsFit)

variable {g : Graph} {u : OutputUnit} {files : UnitFiles} {os : List MetadataObject}
  {table : StringPools} {bs : Octets} {n : Nat}

/-- A count that was written fits into four octets. -/
theorem fits_of_count (written : count 4 n = .ok bs) : Fits n :=
  ⟨Int.natCast_nonneg n,
    Int.ofNat_lt.mpr (BigEndian.unsigned?_eq_some.mp (count_eq_ok.mp written)).1⟩

/-- A pool that was written is not too large for its count. -/
theorem fits_of_encodePool {pool : List String} (written : encodePool pool = .ok bs) :
    Fits pool.length := by
  obtain ⟨size, counted, -⟩ := Result.bind_eq_ok.mp written
  exact fits_of_count counted

/-- Neither pool of a file that was written is too large for its count. -/
theorem fits_of_encodeStrings (written : encodeStrings table = .ok bs) :
    Fits table.classifiers.length ∧ Fits table.strings.length := by
  obtain ⟨classifiers, wroteClassifiers, stringsOn⟩ := Result.bind_eq_ok.mp written
  obtain ⟨strings, wroteStrings, -⟩ := Result.bind_eq_ok.mp stringsOn
  exact ⟨fits_of_encodePool wroteClassifiers, fits_of_encodePool wroteStrings⟩

/-- There are not too many objects in a file that was written. -/
theorem fits_of_encodeObjects {before after : StringPools}
    (written : (encodeObjects os).run.run before = (.ok bs, after)) : Fits os.length := by
  obtain ⟨size, sized, wroteSize, -⟩ := Step.run_bind_eq_ok.mp written
  exact fits_of_count (run_orThrow_eq_ok.mp wroteSize).1

/-- The index of the objects and the pools of a unit. -/
def indexOf (u : OutputUnit) (os : List MetadataObject) (table : StringPools) : UnitIndex :=
  ⟨version, u.name, u.repository, os.length, table.classifiers.length, table.strings.length,
    tally (os.map MetadataObject.classifier)⟩

theorem nodup_tally (names : List String) : ((tally names).map Prod.fst).Nodup := by
  unfold tally
  rw [List.map_map]
  change ((Names.ofList names).map id).Nodup
  rw [List.map_id]
  exact Names.nodup_ofList names

/-- A name is tallied with the number of its occurrences, if it has any. -/
theorem mem_tally {names : List String} {name : String} {i : Int} :
    (name, i) ∈ tally names ↔ name ∈ names ∧ i = names.count name := by
  unfold tally
  rw [List.mem_map]
  constructor
  · rintro ⟨n, member, same⟩
    cases same
    exact ⟨Names.mem_ofList.mp member, rfl⟩
  · rintro ⟨member, rfl⟩
    exact ⟨name, Names.mem_ofList.mpr member, rfl⟩

/-- All counts of the index of a unit that was written fit. -/
theorem countsFit_indexOf {strings : Octets} {before : StringPools}
    (wroteObjects : (encodeObjects os).run.run before = (.ok bs, table))
    (wroteStrings : encodeStrings table = .ok strings) (u : OutputUnit) :
    CountsFit (indexOf u os table) := by
  have objects := fits_of_encodeObjects wroteObjects
  obtain ⟨classifiers, strings⟩ := fits_of_encodeStrings wroteStrings
  refine ⟨rfl, objects, classifiers, strings, ?_, nodup_tally _⟩
  intro c member
  obtain ⟨-, same⟩ := mem_tally.mp member
  have fewer := (os.map MetadataObject.classifier).count_le_length (a := c.1)
  rw [List.length_map] at fewer
  obtain ⟨-, small⟩ := objects
  exact ⟨by omega, by omega⟩

/-- What is written when a unit is serialized. -/
theorem serialize_eq_ok (written : serialize g u = .ok files) :
    ∃ table, (encodeObjects ((g.elementsOf u.repository).map Element.toObject)).run.run .empty =
        (.ok files.objects, table) ∧
      encodeStrings table = .ok files.strings ∧
      files.index = Utf8.encode (Json.print
        (indexOf u ((g.elementsOf u.repository).map Element.toObject) table).toValue) := by
  unfold serialize at written
  split at written
  · cases written
  · dsimp only at written
    split at written
    · cases written
    · next encoded table wrote =>
      obtain ⟨strings, wroteStrings, made⟩ := Result.bind_eq_ok.mp written
      have same := Except.ok.inj made
      subst same
      exact ⟨table, wrote, wroteStrings, by rw [indexOf]⟩

/-- The files of a unit whose elements are valid are decoded to its objects. -/
theorem decode_of_serialized (valid : ∀ e ∈ g.elementsOf u.repository, e.Valid)
    (written : serialize g u = .ok files) (unit : Path) :
    ∃ table, decode unit files = .ok
      ⟨indexOf u ((g.elementsOf u.repository).map Element.toObject) table, table,
        (g.elementsOf u.repository).map Element.toObject⟩ ∧
      UnitIndex.ofOctets files.index = .valid
        (indexOf u ((g.elementsOf u.repository).map Element.toObject) table) := by
  obtain ⟨table, wroteObjects, wroteStrings, index⟩ := serialize_eq_ok written
  have readIndex := UnitIndex.ofOctets_print (countsFit_indexOf wroteObjects wroteStrings u)
  rw [← index] at readIndex
  have distinct : ∀ o ∈ (g.elementsOf u.repository).map Element.toObject,
      (o.properties.map Prod.fst).Nodup := by
    intro o member
    obtain ⟨e, inside, rfl⟩ := List.mem_map.mp member
    exact Element.nodup_metadata (valid e inside)
  refine ⟨table, ?_, readIndex⟩
  have true_count : ¬ (((g.elementsOf u.repository).map Element.toObject).length : Int) ≠
      (indexOf u ((g.elementsOf u.repository).map Element.toObject) table).objectCount :=
    fun differs => differs rfl
  unfold decode
  rw [readIndex, decodeFiles_of_encoded distinct wroteObjects wroteStrings]
  dsimp only
  change (if _ then _ else _) = _
  rw [if_neg true_count]
  rfl

/-- The files of a unit stand in a directory. -/
def Stored (d : Disk) (unit : Path) (files : UnitFiles) : Prop :=
  ∀ f ∈ files.inOrder, d.read (unit.append (.ofParts [f.1])) = .ok f.2

/-- A file of a unit is read from its directory. -/
theorem readFile_of_read {d : Disk} {unit : Path} {name : String} {content : Octets}
    (read : d.read (unit.append (.ofParts [name])) = .ok content) :
    readFile d unit name = .ok content := by
  unfold readFile
  rw [read]

/-- A stored unit is read as its files are decoded. -/
theorem readUnit_of_stored {d : Disk} {unit : Path} {index : UnitIndex}
    (stored : Stored d unit files) (readIndex : UnitIndex.ofOctets files.index = .valid index) :
    readUnit d unit = decode unit files := by
  simp only [Stored, UnitFiles.inOrder, List.mem_cons, List.not_mem_nil, or_false,
    forall_eq_or_imp, forall_eq] at stored
  obtain ⟨strings, objects, index'⟩ := stored
  unfold readUnit
  rw [readFile_of_read strings, readFile_of_read objects, readFile_of_read index']
  dsimp only [bind, Except.bind]
  rw [readIndex]

/-- Files that stand in a directory are a stored unit. -/
theorem stored_of_entries {d : Disk} {unit : Path} (place : Files.Location)
    (located : ∀ name ∈ files.inOrder.map Prod.fst,
      (d.locateFor (unit.append (.ofParts [name]))).toOption = some (place ++ [name]))
    (entries : ∀ f ∈ files.inOrder, d.entry? (place ++ [f.1]) = some (.file f.2)) :
    Stored d unit files := by
  intro f inside
  have led := Result.toOption_eq_some.mp (located f.1 (List.mem_map_of_mem inside))
  exact Disk.read_of_entry led (entries f inside)

theorem mem_elementsOf {e : Element} {repository : Option String}
    (member : e ∈ g.elementsOf repository) : e ∈ g.elements := by
  cases repository with
  | none => exact member
  | some name => exact List.mem_of_mem_filter member

/-- The elements of a unit are sorted by their paths. -/
theorem ascending_elementsOf (g : Graph) (repository : Option String) :
    Keyed.Ascending Element.path (g.elementsOf repository) := by
  cases repository with
  | none => exact g.ascending
  | some name => exact g.ascending.filter _

end Metadata

namespace Sample

/-- The files of the unit of the whole graph. -/
def files : UnitFiles := ((Metadata.serialize graph ⟨"all", none⟩).toOption).getD ⟨[], [], []⟩

/-- A disk that holds these files. -/
def unitDisk : Disk := ⟨[], files.inOrder.map fun f => ([f.1], .file f.2)⟩

/-- The files of the sample's graph. -/
theorem serialize_graph : Metadata.serialize graph ⟨"all", none⟩ = .ok files := by
  have computed : (Metadata.serialize graph ⟨"all", none⟩).toOption.isSome = true := by
    decide +kernel
  obtain ⟨made, written⟩ := Result.exists_of_isSome computed
  unfold files
  rw [written]
  rfl

/-- The files of the sample's graph are stored on its disk. -/
theorem stored_files : Metadata.Stored unitDisk (.ofParts []) files := by
  have located : ∀ name ∈ files.inOrder.map Prod.fst,
      (unitDisk.locateFor (Path.append (.ofParts []) (.ofParts [name]))).toOption =
        some [name] := by
    decide +kernel
  have entries : ∀ f ∈ files.inOrder, unitDisk.entry? [f.1] = some (.file f.2) := by
    intro f inside
    simp only [List.mem_cons, List.not_mem_nil, or_false, UnitFiles.inOrder] at inside
    rcases inside with rfl | rfl | rfl <;> rfl
  exact Metadata.stored_of_entries [] located entries

end Sample

namespace Metadata

variable {g : Graph} {u : OutputUnit} {files : UnitFiles}

/-- A unit of a rebuilt graph is read back from its files: one object for each element, ascending by
path, and an index that states the name of the unit, its repository and the true counts. -/
theorem readUnit_of_serialized [SetOrder] {source : Disk} {all : RepositorySet}
    {selected : List String} {cache : Cache} {l l' : Log} {miss : Option CacheMiss}
    (done : Preparation.run source all selected cache l = (.ok g, miss, l'))
    (rebuilding : GraphState.rebuilding ∈ g.history) (written : serialize g u = .ok files)
    {d : Disk} {unit : Path} (stored : Stored d unit files) :
    ∃ read, readUnit d unit = .ok read ∧
      read.objects = (g.elementsOf u.repository).map Element.toObject ∧
      Keyed.Ascending MetadataObject.path read.objects ∧
      read.index.unit = u.name ∧ read.index.repository = u.repository ∧
      read.index.objectCount = (g.elementsOf u.repository).length ∧
      read.index.classifierCount = read.pools.classifiers.length ∧
      read.index.stringCount = read.pools.strings.length ∧
      (read.index.classifiers.map Prod.fst).Nodup ∧
      ∀ classifier count, (classifier, count) ∈ read.index.classifiers ↔
        (∃ e ∈ g.elementsOf u.repository, e.classifier = classifier) ∧
          count = ((g.elementsOf u.repository).map Element.classifier).count classifier := by
  obtain ⟨s, -, rebuilt⟩ := Graph.rebuilt_of_run done rebuilding
  have valid : ∀ e ∈ g.elementsOf u.repository, e.Valid :=
    fun e member => Graph.valid_of_rebuilt rebuilt (mem_elementsOf member)
  obtain ⟨table, decoded, readIndex⟩ := decode_of_serialized valid written unit
  refine ⟨_, (readUnit_of_stored stored readIndex).trans decoded, rfl, ?_, rfl, rfl, ?_, rfl, rfl,
    nodup_tally _, ?_⟩
  · exact List.pairwise_map.mpr (ascending_elementsOf g u.repository)
  · exact congrArg Int.ofNat (List.length_map _)
  · intro classifier count
    have names : ((g.elementsOf u.repository).map Element.toObject).map MetadataObject.classifier =
        (g.elementsOf u.repository).map Element.classifier := by
      rw [List.map_map]
      rfl
    change _ ∈ tally _ ↔ _
    rw [names, mem_tally, List.mem_map]

attribute [local instance] SetOrder.asWritten in
theorem readUnit_sample : ∃ d read, readUnit d (.ofParts []) = .ok read ∧
    read.objects = Sample.elements.map Element.toObject ∧ read.index.objectCount = 2 := by
  obtain ⟨g, miss, l', done, rebuilding, alike⟩ := Sample.exists_run
  have written : serialize g ⟨"all", none⟩ = .ok Sample.files := by
    rw [alike.eq]
    exact Sample.serialize_graph
  have elements : g.elementsOf none = Sample.elements := alike.elements
  obtain ⟨read, known, objects, -, -, -, count, -⟩ :=
    readUnit_of_serialized done rebuilding written Sample.stored_files
  rw [elements] at objects count
  exact ⟨_, read, known, objects, count⟩

end Metadata

end ModelForge
