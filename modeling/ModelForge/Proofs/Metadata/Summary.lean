import ModelForge.Proofs.Metadata.Decoding

/-! # The sums of a unit that is read

The index of a unit states its sums: how many objects it has, how many texts each of its pools has
and how many objects there are of each classifier (`ModelForge.Metadata.Summarizes`). A unit that is
written states true ones (`ModelForge.Metadata.summarizes_of_serialized`). Reading compares nothing
but the number of objects with what was read. Beside the binary files of a unit, any index of the
right version that states this number is accepted, whatever its other sums are
(`ModelForge.Metadata.readUnit_of_index`).
-/

namespace ModelForge

namespace Metadata

open UnitIndex (Fits CountsFit)

variable {d : Disk} {unit : Path} {files : UnitFiles} {read other : MetadataUnit}
  {table : StringPools} {os : List MetadataObject} {content bs : Octets}

/-- The sums that the index of a unit states are those of its pools and objects. -/
structure Summarizes (u : MetadataUnit) : Prop where
  objects : u.index.objectCount = u.objects.length
  classifierPool : u.index.classifierCount = u.pools.classifiers.length
  stringPool : u.index.stringCount = u.pools.strings.length
  classifiers : ∀ classifier n, (classifier, n) ∈ u.index.classifiers ↔
    classifier ∈ u.objects.map MetadataObject.classifier ∧
      n = (u.objects.map MetadataObject.classifier).count classifier

/-- What is read from the files of a serialized unit has true sums. -/
theorem summarizes_of_serialized {g : Graph} {u : OutputUnit}
    (valid : ∀ e ∈ g.elementsOf u.repository, e.Valid) (written : serialize g u = .ok files)
    (stored : Stored d unit files) : ∃ read, readUnit d unit = .ok read ∧ Summarizes read := by
  obtain ⟨table, decoded, -⟩ := decode_of_serialized valid written unit
  refine ⟨_, (readUnit_eq_decode stored).trans decoded, rfl, rfl, rfl, fun classifier n => ?_⟩
  exact mem_tally

/-! ## Other indexes beside the same binary files -/

/-- An index is accepted beside binary files exactly if its version is the right one and the number
of objects that it states is theirs. -/
theorem decode_of_index (decoded : decode unit files = .ok read) :
    decode unit { files with index := content } = .ok other ↔
      UnitIndex.ofOctets content = .valid other.index ∧ other.index.version = version ∧
        other.index.objectCount = read.objects.length ∧
        other.pools = read.pools ∧ other.objects = read.objects := by
  obtain ⟨-, -, contents, -⟩ := decode_eq_ok.mp decoded
  rw [decode_eq_ok, contents]
  constructor
  · rintro ⟨index, known, same, counted⟩
    obtain ⟨pools, objects⟩ := Prod.mk.inj (Except.ok.inj same)
    exact ⟨index, known, by rw [← counted, objects], pools.symm, objects.symm⟩
  · rintro ⟨index, known, counted, pools, objects⟩
    exact ⟨index, known, by rw [pools, objects], by rw [counted, objects]⟩

/-- Objects that were read are not too many to be counted. -/
theorem fits_of_objectsForm (form : ObjectsForm table os bs) : Fits os.length := by
  obtain ⟨-, -, -, -, size, -, -, ⟨wide, same⟩, -⟩ := form
  have below := BigEndian.value_lt_capacity size
  rw [wide, same] at below
  exact ⟨Int.natCast_nonneg _, Int.ofNat_lt.mpr below⟩

/-- A count that is not the number of the items. -/
def wrongCount {α : Type} (items : List α) : Int := if items.isEmpty then 1 else 0

/-- A wrong count may fit. -/
theorem fits_wrongCount {α : Type} (items : List α) : Fits (wrongCount items) := by
  unfold wrongCount Fits
  split <;> decide

/-- A wrong count is not the number of items. -/
theorem wrongCount_ne {α : Type} (items : List α) : wrongCount items ≠ items.length := by
  cases items with
  | nil => exact Int.one_ne_zero
  | cons a items => exact (Int.natCast_ne_zero.mpr (Nat.succ_ne_zero items.length)).symm

/-- The index of a unit with a wrong count of each pool, and without classifiers. -/
def drifted (u : MetadataUnit) : UnitIndex :=
  { u.index with
    classifierCount := wrongCount u.pools.classifiers
    stringCount := wrongCount u.pools.strings
    classifiers := [] }

/-- An index with wrong counts can be written. -/
theorem countsFit_drifted (described : Describes files read) : CountsFit (drifted read) where
  version := described.version
  objects := by
    have fits := fits_of_objectsForm described.objects
    rwa [described.counted] at fits
  classifiers := fits_wrongCount _
  strings := fits_wrongCount _
  each := fun _ member => absurd member List.not_mem_nil
  distinct := List.nodup_nil

/-- Reading a unit compares one of its sums with its content, and no other one. Beside the binary
files of a unit that is read, an index is accepted exactly if its version is the right one and it
states the number of their objects. So there is, for every unit, an index with other sums than its
content has, and with it the unit is still read. -/
theorem readUnit_of_index (done : readUnit d unit = .ok read) :
    ∃ files, Stored d unit files ∧
      (∀ d' content other, Stored d' unit { files with index := content } →
        (readUnit d' unit = .ok other ↔
          UnitIndex.ofOctets content = .valid other.index ∧ other.index.version = version ∧
            other.index.objectCount = read.objects.length ∧
            other.pools = read.pools ∧ other.objects = read.objects)) ∧
      ∃ content, ∀ d', Stored d' unit { files with index := content } →
        ∃ other, readUnit d' unit = .ok other ∧ ¬ Summarizes other := by
  obtain ⟨files, stored⟩ := exists_stored done
  rw [readUnit_eq_decode stored] at done
  have described := decode_iff_describes.mp done
  refine ⟨files, stored, fun d' content other stored' => ?_,
    Utf8.encode (Json.print (drifted read).toValue), fun d' stored' => ?_⟩
  · rw [readUnit_eq_decode stored']
    exact decode_of_index done
  · have index := UnitIndex.ofOctets_print (countsFit_drifted described)
    refine ⟨⟨drifted read, read.pools, read.objects⟩, ?_, fun sums => ?_⟩
    · rw [readUnit_eq_decode stored']
      exact (decode_of_index done).mpr
        ⟨index, described.version, described.counted.symm, rfl, rfl⟩
    · exact wrongCount_ne _ sums.classifierPool

end Metadata

namespace Sample

/-- An index for the unit of the whole graph with wrong counts of the pools, and with a classifier
that no object has. -/
def driftedIndex : UnitIndex := ⟨Metadata.version, "all", none, 2, 7, 9, [("ghost", 5)]⟩

/-- The octets of this index. -/
def driftedOctets : Octets := Utf8.encode (Json.print driftedIndex.toValue)

/-- The disk of the unit with this index. -/
def driftedDisk : Disk := unitDisk.put ["index.json"] (.file driftedOctets)

/-- The sample's unit with such an index. -/
theorem stored_driftedDisk :
    Metadata.Stored driftedDisk (.ofParts []) { files with index := driftedOctets } := by
  have located : ∀ name ∈ [UnitFiles.stringsName, UnitFiles.objectsName, UnitFiles.indexName],
      (driftedDisk.locateFor (Path.append (.ofParts []) (.ofParts [name]))).toOption =
        some [name] := by
    decide +kernel
  refine Metadata.stored_of_entries [] located fun f inside => ?_
  simp only [List.mem_cons, List.not_mem_nil, or_false, UnitFiles.inOrder] at inside
  rcases inside with rfl | rfl | rfl
  · exact Disk.entry?_put_of_ne (by decide) _
  · exact Disk.entry?_put_of_ne (by decide) _
  · dsimp only [List.nil_append, UnitFiles.indexName]
    exact Disk.entry?_put_self (List.cons_ne_nil _ []) _

theorem countsFit_driftedIndex : UnitIndex.CountsFit driftedIndex where
  version := rfl
  objects := by unfold UnitIndex.Fits; decide
  classifiers := by unfold UnitIndex.Fits; decide
  strings := by unfold UnitIndex.Fits; decide
  each := by unfold UnitIndex.Fits; decide
  distinct := by decide

attribute [local instance] SetOrder.asWritten in
/-- The unit of the whole graph is read with both elements. -/
theorem readUnit_elements : ∃ read, Metadata.readUnit unitDisk (.ofParts []) = .ok read ∧
    read.objects = elements.map Element.toObject := by
  have valid : ∀ e ∈ graph.elementsOf none, e.Valid :=
    fun _ member => Graph.valid_of_rebuilt rebuilt_graph member
  obtain ⟨_, decoded, -⟩ := Metadata.decode_of_serialized valid serialize_graph (.ofParts [])
  exact ⟨_, (Metadata.readUnit_eq_decode stored_files).trans decoded, rfl⟩

end Sample

namespace Metadata

theorem readUnit_driftedDisk : ∃ read, readUnit Sample.driftedDisk (.ofParts []) = .ok read ∧
    read.objects = Sample.elements.map Element.toObject ∧
    read.index = Sample.driftedIndex ∧ ¬ Summarizes read := by
  obtain ⟨held, known, objects⟩ := Sample.readUnit_elements
  obtain ⟨files, stored, accepted, -⟩ := readUnit_of_index known
  cases stored_unique stored Sample.stored_files
  have index := UnitIndex.ofOctets_print Sample.countsFit_driftedIndex
  refine ⟨⟨Sample.driftedIndex, held.pools, held.objects⟩, ?_, objects, rfl, fun sums => ?_⟩
  · exact (accepted Sample.driftedDisk _ _ Sample.stored_driftedDisk).mpr
      ⟨index, rfl, by rw [objects]; rfl, rfl, rfl⟩
  · have ghosts := ((sums.classifiers "ghost" 5).mp (List.mem_singleton.mpr rfl)).2
    rw [objects] at ghosts
    exact absurd ghosts (by decide)

end Metadata

end ModelForge
