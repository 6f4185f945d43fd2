import ModelForge.Proofs.Metadata.Decoding
import ModelForge.Proofs.Metadata.Writing

/-! # A unit while it is replaced

The files of a unit are moved into its directory one after the other, the index last. In an empty
directory there is no unit before the last move (`ModelForge.Metadata.readUnit_of_publishing`). Over
a complete unit the same moves are not safe: the new pools are read with the old objects after the
first move, and both with the old index after the second one
(`ModelForge.Metadata.readUnit_while_replaced`).
-/

namespace ModelForge

namespace Metadata

open Disk (inside)

open Files.Action (publishing)

variable {d d' : Disk} {root directory : Path} {g g₀ : Graph} {u u₀ : OutputUnit}
  {files old new : UnitFiles} {held fresh read : MetadataUnit} {table : StringPools}
  {os : List MetadataObject}

/-! ## Files of two units -/

/-- The files that stand in a directory when some of the new ones have been moved over the old. -/
def replaced (old new : UnitFiles) : Nat → UnitFiles
  | 0 => old
  | 1 => ⟨new.strings, old.objects, old.index⟩
  | 2 => ⟨new.strings, new.objects, old.index⟩
  | _ => new

/-- What is read after some moves over a complete unit. -/
structure MixedRead (held fresh : MetadataUnit) (moves : Nat)
    (result : Except Failure MetadataUnit) : Prop where
  format : Result.FailsOnly IsFormat result
  before : moves = 0 → result = .ok held
  pools : moves = 1 → ∀ read, result = .ok read →
    read.index = held.index ∧ read.pools = fresh.pools ∧
      read.objects.length = held.objects.length
  same_pools : moves = 1 → fresh.pools = held.pools → result = .ok held
  objects : moves = 2 → result =
    if fresh.objects.length = held.objects.length then .ok { fresh with index := held.index }
    else .error (.format (.miscounted held.index.objectCount fresh.objects.length) none)
  after : 3 ≤ moves → result = .ok fresh

/-- After the first move the old objects are read through the new pools. -/
theorem decode_of_first_move {unit : Path} (first : decode unit old = .ok held)
    (contents : decodeFiles new.strings old.objects = .ok (table, os))
    (counted : os.length = held.objects.length) :
    decode unit (replaced old new 1) = .ok ⟨held.index, table, os⟩ := by
  obtain ⟨oldIndex, known, -, count⟩ := decode_eq_ok.mp first
  exact decode_eq_ok.mpr ⟨oldIndex, known, contents, by rw [counted]; exact count⟩

/-- After any number of moves the unit is read in one of these ways. -/
theorem mixedRead_replaced {unit : Path} (first : decode unit old = .ok held)
    (second : decode unit new = .ok fresh) (k : Nat) :
    MixedRead held fresh k (decode unit (replaced old new k)) := by
  obtain ⟨oldIndex, known, oldContents, counted⟩ := decode_eq_ok.mp first
  obtain ⟨-, -, newContents, -⟩ := decode_eq_ok.mp second
  obtain ⟨-, oldObjects⟩ := decodeFiles_eq_ok.mp oldContents
  obtain ⟨newPools, -⟩ := decodeFiles_eq_ok.mp newContents
  refine ⟨failsOnly_decode unit _, ?_, ?_, ?_, ?_, ?_⟩
  · rintro rfl
    exact first
  · rintro rfl read decoded
    obtain ⟨index, -, contents, count⟩ := decode_eq_ok.mp decoded
    obtain ⟨pools, -⟩ := decodeFiles_eq_ok.mp contents
    have same_index : read.index = held.index := Checked.valid.inj (index.symm.trans oldIndex)
    refine ⟨same_index, ?_, ?_⟩
    · exact stringsForm_unique pools newPools
    · rw [same_index] at count
      omega
  · rintro rfl same
    rw [same] at newPools
    exact decode_eq_ok.mpr ⟨oldIndex, known, decodeFiles_eq_ok.mpr ⟨newPools, oldObjects⟩, counted⟩
  · rintro rfl
    have index : UnitIndex.ofOctets (replaced old new 2).index = .valid held.index := oldIndex
    rw [decode_of_parts index known newContents, ← counted]
    simp only [Int.natCast_inj]
  · intro many
    match k, many with
    | k + 3, _ => exact second

/-! ## The moves of a unit -/

/-- The index of a serialized unit is read. -/
theorem readIndex_of_serialized (written : serialize g u = .ok files) :
    ∃ index, UnitIndex.ofOctets files.index = .valid index := by
  obtain ⟨table, wroteObjects, wroteStrings, index⟩ := serialize_eq_ok written
  rw [index]
  exact ⟨_, UnitIndex.ofOctets_print (countsFit_indexOf wroteObjects wroteStrings u)⟩

/-- After some moves the files stand in the directory as they have been replaced. -/
theorem stored_of_publishing (tree : d.IsTree) (there : d.isDirectory directory = .ok true)
    (done : (Files.Action.publish root directory new.inOrder).run.run d = (.ok (), d'))
    (stored : Stored d directory old) (k : Nat) :
    ∃ dₖ, (publishing root directory new.inOrder k).run.run d = (.ok (), dₖ) ∧
      Stored dₖ directory (replaced old new k) := by
  obtain ⟨dₖ, cut, moved, others⟩ :=
    Files.Action.read_of_publishing tree (named_inOrder new) there done k
  refine ⟨dₖ, cut, ?_⟩
  change ∀ f ∈ old.inOrder, d.read (inside directory f.1) = .ok f.2 at stored
  change ∀ f ∈ (replaced old new k).inOrder, dₖ.read (inside directory f.1) = .ok f.2
  match k with
  | 0 | 1 | 2 | k + 3 =>
    simp_all [UnitFiles.inOrder, replaced]

/-- The failure of reading a unit without an index. -/
def missingIndex (directory : Path) : Failure :=
  let path := (inside directory UnitFiles.indexName).text
  .format (.incomplete path) (some (.file (.failed .notFound path none)))

/-- Without an index there is no unit. -/
theorem readUnit_of_missing
    (missing : d.read (inside directory UnitFiles.indexName) =
      .error (.failed .notFound (inside directory UnitFiles.indexName).text none)) :
    readUnit d directory = .error (missingIndex directory) := by
  have noIndex : readFile d directory UnitFiles.indexName = .error (missingIndex directory) := by
    unfold readFile
    rw [show d.read (directory.append (.ofParts [UnitFiles.indexName])) = _ from missing]
    rfl
  unfold readUnit
  rw [noIndex]
  rfl

/-- In an empty directory there is no unit until the index is moved. -/
theorem readUnit_of_publishing (tree : d.IsTree) (there : d.isDirectory directory = .ok true)
    (written : serialize g u = .ok new)
    (done : (Files.Action.publish root directory new.inOrder).run.run d = (.ok (), d'))
    (empty : ∀ name, d.entry? (d.place directory ++ [name]) = none) (k : Nat) :
    ∃ dₖ, (publishing root directory new.inOrder k).run.run d = (.ok (), dₖ) ∧
      readUnit dₖ directory =
        if k < 3 then .error (missingIndex directory) else decode directory new := by
  obtain ⟨dₖ, cut, moved, others⟩ :=
    Files.Action.read_of_publishing tree (named_inOrder new) there done k
  refine ⟨dₖ, cut, ?_⟩
  by_cases few : k < 3
  · have member : (UnitFiles.indexName, new.index) ∈ new.inOrder.drop k := by
      match k with
      | 0 | 1 | 2 => simp [UnitFiles.inOrder]
    have led : d.locateFor (inside directory UnitFiles.indexName) =
        .ok (d.place (inside directory UnitFiles.indexName)) := by
      obtain ⟨d₃, -, all, -⟩ :=
        Files.Action.read_of_publishing tree (named_inOrder new) there done 3
      have index := all (UnitFiles.indexName, new.index) (by simp [UnitFiles.inOrder])
      rw [Disk.place_inside]
      exact Disk.locateFor_inside (Disk.read_eq_ok.mp index).1 there
    have free : d.entry? (d.place (inside directory UnitFiles.indexName)) = none := by
      rw [Disk.place_inside_of_ne (by decide)]
      exact empty _
    rw [if_pos few]
    exact readUnit_of_missing ((others _ member).trans (Disk.read_of_none led free))
  · rw [if_neg few]
    obtain ⟨index, readIndex⟩ := readIndex_of_serialized written
    refine readUnit_of_stored (fun f member => moved f ?_) readIndex
    rwa [List.take_of_length_le (Nat.le_of_not_lt few)]

/-- Over a complete unit the files are read as they have been replaced. -/
theorem readUnit_of_replaced (tree : d.IsTree) (there : d.isDirectory directory = .ok true)
    (written₀ : serialize g₀ u₀ = .ok old) (stored : Stored d directory old)
    (written : serialize g u = .ok new)
    (done : (Files.Action.publish root directory new.inOrder).run.run d = (.ok (), d')) (k : Nat) :
    ∃ dₖ, (publishing root directory new.inOrder k).run.run d = (.ok (), dₖ) ∧
      readUnit dₖ directory = decode directory (replaced old new k) ∧
      ∀ held fresh, readUnit d directory = .ok held → decode directory new = .ok fresh →
        MixedRead held fresh k (readUnit dₖ directory) := by
  obtain ⟨dₖ, cut, standing⟩ := stored_of_publishing tree there done stored k
  obtain ⟨oldIndex, readOld⟩ := readIndex_of_serialized written₀
  obtain ⟨newIndex, readNew⟩ := readIndex_of_serialized written
  have result : readUnit dₖ directory = decode directory (replaced old new k) := by
    match k with
    | 0 | 1 | 2 => exact readUnit_of_stored standing readOld
    | k + 3 => exact readUnit_of_stored standing readNew
  refine ⟨dₖ, cut, result, fun held fresh before after => ?_⟩
  rw [readUnit_of_stored stored readOld] at before
  rw [result]
  exact mixedRead_replaced before after k

/-- What is read after any number of the moves that replace a unit. A directory that was empty gives
no unit before the last move. One that held a complete unit is only before the first move and after
the last one sure to give one of the two units: in between the new pools are read with the old
objects and the old index, and then the new pools and objects with the old index. -/
theorem readUnit_while_replaced (tree : d.IsTree) (there : d.isDirectory directory = .ok true)
    (written : serialize g u = .ok new)
    (done : (Files.Action.publish root directory new.inOrder).run.run d = (.ok (), d')) (k : Nat) :
    ∃ dₖ, (publishing root directory new.inOrder k).run.run d = (.ok (), dₖ) ∧
      ((∀ name, d.entry? (d.place directory ++ [name]) = none) → readUnit dₖ directory =
        if k < 3 then .error (missingIndex directory) else decode directory new) ∧
      ∀ (g₀ : Graph) (u₀ : OutputUnit) (old : UnitFiles), serialize g₀ u₀ = .ok old →
        Stored d directory old →
        readUnit dₖ directory = decode directory (replaced old new k) ∧
        ∀ held fresh, readUnit d directory = .ok held → decode directory new = .ok fresh →
          MixedRead held fresh k (readUnit dₖ directory) := by
  obtain ⟨dₖ, cut, -⟩ := Files.Action.read_of_publishing tree (named_inOrder new) there done k
  refine ⟨dₖ, cut, fun empty => ?_, fun g₀ u₀ old written₀ stored => ?_⟩
  · obtain ⟨d₁, again, result⟩ := readUnit_of_publishing tree there written done empty k
    cases cut.symm.trans again
    exact result
  · obtain ⟨d₁, again, result⟩ := readUnit_of_replaced tree there written₀ stored written done k
    cases cut.symm.trans again
    exact result

end Metadata

namespace Sample

/-- The graph of one class of the source tree. -/
def earlier : Graph := ⟨repositories, .ready, [], elements.drop 1, by decide⟩

/-- The files of the unit of that graph. -/
def earlierFiles : UnitFiles :=
  ((Metadata.serialize earlier ⟨"all", none⟩).toOption).getD ⟨[], [], []⟩

/-- A disk with a directory that holds these files. -/
def heldDisk : Disk :=
  ⟨[], (["u"], .directory) :: earlierFiles.inOrder.map fun f => (["u", f.1], .file f.2)⟩

/-- The files of the earlier unit. -/
theorem serialize_earlier : Metadata.serialize earlier ⟨"all", none⟩ = .ok earlierFiles := by
  have computed : (Metadata.serialize earlier ⟨"all", none⟩).toOption.isSome = true := by
    decide +kernel
  obtain ⟨made, written⟩ := Result.exists_of_isSome computed
  unfold earlierFiles
  rw [written]
  rfl

/-- The earlier unit is stored before the other one is published. -/
theorem stored_earlier : Metadata.Stored heldDisk (.ofParts ["u"]) earlierFiles := by
  have located : ∀ name ∈ earlierFiles.inOrder.map Prod.fst,
      (heldDisk.locateFor (Path.append (.ofParts ["u"]) (.ofParts [name]))).toOption =
        some ["u", name] := by
    decide +kernel
  have entries : ∀ f ∈ earlierFiles.inOrder, heldDisk.entry? ["u", f.1] = some (.file f.2) := by
    intro f inside
    simp only [List.mem_cons, List.not_mem_nil, or_false, UnitFiles.inOrder] at inside
    rcases inside with rfl | rfl | rfl <;> rfl
  exact Metadata.stored_of_entries ["u"] located entries

theorem isTree_heldDisk : heldDisk.IsTree :=
  Disk.isTree_of_entries (by decide +kernel)

/-- The objects of the one class with the pools of both. -/
theorem decodeFiles_mixed :
    (Metadata.decodeFiles files.strings earlierFiles.objects).toOption.map
      (fun r => r.2.map MetadataObject.path) = some ["p::A"] := by
  decide +kernel

/-- Publishing over it succeeds. -/
theorem published_heldDisk : ∃ d', (Files.Action.publish (.ofParts []) (.ofParts ["u"])
    files.inOrder).run.run heldDisk = (.ok (), d') :=
  Step.exists_of_run (by decide +kernel)

end Sample

namespace Metadata

open Files.Action (publishing)

attribute [local instance] SetOrder.asWritten in
/-- The first move over a unit that held the class `q::B` alone: the class is read with the name
`p::A`, which neither the unit that was held nor the new one gives to an only class. -/
theorem readUnit_half_replaced : ∃ d₁ held fresh read,
    (publishing (.ofParts []) (.ofParts ["u"]) Sample.files.inOrder 1).run.run Sample.heldDisk =
      (.ok (), d₁) ∧
    readUnit Sample.heldDisk (.ofParts ["u"]) = .ok held ∧
    decode (.ofParts ["u"]) Sample.files = .ok fresh ∧
    readUnit d₁ (.ofParts ["u"]) = .ok read ∧
    held.objects.map MetadataObject.path = ["q::B"] ∧
    fresh.objects.map MetadataObject.path = ["p::A", "q::B"] ∧
    read.objects.map MetadataObject.path = ["p::A"] ∧
    read.index = held.index ∧ read.pools = fresh.pools := by
  obtain ⟨d', done⟩ := Sample.published_heldDisk
  have there : Sample.heldDisk.isDirectory (.ofParts ["u"]) = .ok true :=
    Result.toOption_eq_some.mp (by decide +kernel)
  obtain ⟨d₁, cut, -, complete⟩ := readUnit_while_replaced Sample.isTree_heldDisk there
    Sample.serialize_graph done 1
  obtain ⟨result, mixes⟩ := complete _ _ _ Sample.serialize_earlier Sample.stored_earlier
  have valid (e : Element) (member : e ∈ Sample.elements) : e.Valid :=
    Graph.valid_of_rebuilt Sample.rebuilt_graph member
  have validEarlier : ∀ e ∈ Sample.earlier.elementsOf none, e.Valid :=
    fun e member => valid e (List.mem_of_mem_drop member)
  have validGraph : ∀ e ∈ Sample.graph.elementsOf none, e.Valid := valid
  obtain ⟨oldTable, oldDecoded, readIndex⟩ :=
    decode_of_serialized validEarlier Sample.serialize_earlier (.ofParts ["u"])
  obtain ⟨newTable, newDecoded, -⟩ :=
    decode_of_serialized validGraph Sample.serialize_graph (.ofParts ["u"])
  have before := (readUnit_of_stored Sample.stored_earlier readIndex).trans oldDecoded
  obtain ⟨⟨table, os⟩, contents, paths⟩ := Option.map_eq_some_iff.mp Sample.decodeFiles_mixed
  have single : os.length = 1 := by
    rw [← List.length_map MetadataObject.path, paths]
    rfl
  rw [decode_of_first_move oldDecoded (Result.toOption_eq_some.mp contents) single] at result
  obtain ⟨sameIndex, samePools, -⟩ := (mixes _ _ before newDecoded).pools rfl _ result
  exact ⟨d₁, _, _, _, cut, before, newDecoded, result, rfl, rfl, paths, sameIndex, samePools⟩

end Metadata

end ModelForge
