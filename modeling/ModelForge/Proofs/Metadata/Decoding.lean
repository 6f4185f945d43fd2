import ModelForge.Proofs.Failing
import ModelForge.Proofs.Files.Replace
import ModelForge.Proofs.Metadata.Reading
import ModelForge.Proofs.Metadata.RoundTrip

/-! # Units that are read

Whatever octets the three files of a unit hold, a unit is read from them or a fault of their format
is found, and a unit is read exactly if the files describe one
(`ModelForge.Metadata.readUnit_total`). A unit with a binary file that is cut off or has something
behind it is never read (`ModelForge.Metadata.readUnit_of_altered`).
-/

namespace ModelForge

namespace Metadata

variable {d d' : Disk} {unit : Path} {files : UnitFiles} {read : MetadataUnit}
  {table : StringPools} {os : List MetadataObject} {strings objectData : Octets} {f : Failure}

/-! ## Both binary files -/

/-- If the pools cannot be read, nothing else is. -/
theorem decodeFiles_of_pools
    (failed : (pools ⟨UnitFiles.stringsName, strings.length⟩).run strings = .error f) :
    decodeFiles strings objectData = .error f := by
  unfold decodeFiles
  rw [failed]
  rfl

/-- If they can, the objects settle how reading ends. -/
theorem decodeFiles_of_objects (form : StringsForm table strings)
    (failed : (objects ⟨UnitFiles.objectsName, objectData.length⟩ table).run objectData =
      .error f) : decodeFiles strings objectData = .error f := by
  unfold decodeFiles
  rw [(reads_pools.accepts _ strings table []).mpr ⟨rfl, form⟩]
  dsimp only [bind, Except.bind]
  rw [failed]

/-- Both binary files are decoded exactly if they have their forms. -/
theorem decodeFiles_eq_ok : decodeFiles strings objectData = .ok (table, os) ↔
    StringsForm table strings ∧ ObjectsForm table os objectData := by
  unfold decodeFiles
  rw [Result.bind_eq_ok]
  constructor
  · rintro ⟨⟨t, rest⟩, first, second⟩
    obtain ⟨⟨list, left⟩, done, made⟩ := Result.bind_eq_ok.mp second
    cases made
    exact ⟨((reads_pools.accepts _ _ _ _).mp first).2,
      (((reads_objects table).accepts _ _ _ _).mp done).2⟩
  · rintro ⟨first, second⟩
    exact ⟨(table, []), (reads_pools.accepts _ _ _ _).mpr ⟨rfl, first⟩, Result.bind_eq_ok.mpr
      ⟨(os, []), ((reads_objects table).accepts _ _ _ _).mpr ⟨rfl, second⟩, rfl⟩⟩

/-- Reading the two files fails for what is broken in them only. -/
theorem failsOnly_decodeFiles (strings objectData : Octets) :
    Result.FailsOnly IsBroken (decodeFiles strings objectData) := by
  unfold decodeFiles
  refine Result.FailsOnly.bind (fun f failed => reads_pools.refuses _ _ f failed) fun first => ?_
  refine Result.FailsOnly.bind (fun f failed => (reads_objects first.1).refuses _ _ f failed) ?_
  exact fun second => Result.failsOnly_ok _

/-- A file describes no two pools. -/
theorem stringsForm_unique {other : StringPools} (first : StringsForm table strings)
    (second : StringsForm other strings) : table = other := by
  have one := (reads_pools.accepts ⟨"", 0⟩ strings table []).mpr ⟨rfl, first⟩
  rw [(reads_pools.accepts ⟨"", 0⟩ strings other []).mpr ⟨rfl, second⟩] at one
  cases one
  rfl

/-! ## Decoding -/

/-- A failure that says what is wrong with the format of a unit. -/
def IsFormat (f : Failure) : Prop := ∃ fault cause, f = .format fault cause

/-- What is broken in a file makes the unit one of wrong format. -/
theorem isFormat_corrupt (unit : Path) (broken : IsBroken f) : IsFormat (corrupt unit f) := by
  cases broken with
  | format fault cause => exact ⟨fault, cause, rfl⟩
  | id fault => exact ⟨_, _, rfl⟩
  | text fault => exact ⟨_, _, rfl⟩

/-- What the two files give is accepted if the index counts as many objects. -/
theorem decode_of_parts {index : UnitIndex}
    (readIndex : UnitIndex.ofOctets files.index = .valid index) (known : index.version = version)
    (decoded : decodeFiles files.strings files.objects = .ok (table, os)) (unit : Path) :
    decode unit files = if (os.length : Int) = index.objectCount then .ok ⟨index, table, os⟩
      else .error (.format (.miscounted index.objectCount os.length) none) := by
  unfold decode
  rw [readIndex]
  dsimp only [bind, Except.bind, pure, Except.pure]
  rw [known, decoded]
  by_cases same : (os.length : Int) = index.objectCount
  · simp [same]
  · simp [same]
    rfl

/-- What it takes to accept a unit. -/
theorem decode_eq_ok {unit : Path} : decode unit files = .ok read ↔
    UnitIndex.ofOctets files.index = .valid read.index ∧ read.index.version = version ∧
      decodeFiles files.strings files.objects = .ok (read.pools, read.objects) ∧
      (read.objects.length : Int) = read.index.objectCount := by
  constructor
  · intro decoded
    cases readIndex : UnitIndex.ofOctets files.index with
    | invalid vs =>
      unfold decode at decoded
      rw [readIndex] at decoded
      cases decoded
    | valid index =>
      have opened := decoded
      unfold decode at opened
      rw [readIndex] at opened
      dsimp only [bind, Except.bind, pure, Except.pure] at opened
      by_cases known : index.version = version
      · cases contents : decodeFiles files.strings files.objects with
        | error f =>
          rw [contents] at opened
          simp only [known, ne_eq, not_true_eq_false, if_false] at opened
          cases opened
        | ok pair =>
          obtain ⟨table, os⟩ := pair
          rw [decode_of_parts readIndex known contents] at decoded
          by_cases same : (os.length : Int) = index.objectCount
          · rw [if_pos same] at decoded
            cases decoded
            exact ⟨rfl, known, rfl, same⟩
          · rw [if_neg same] at decoded
            cases decoded
      · simp only [known, ne_eq, not_false_eq_true, if_true] at opened
        cases opened
  · rintro ⟨readIndex, known, contents, same⟩
    rw [decode_of_parts readIndex known contents, if_pos same]

/-- A broken file is reported as a corrupt unit. -/
theorem decode_of_error {index : UnitIndex} {content : Octets}
    (readIndex : UnitIndex.ofOctets content = .valid index) (known : index.version = version)
    (failed : decodeFiles strings objectData = .error f) (unit : Path) :
    decode unit ⟨strings, objectData, content⟩ = .error (corrupt unit f) := by
  unfold decode
  rw [readIndex]
  dsimp only [bind, Except.bind, pure, Except.pure]
  rw [known, failed]
  simp only [ne_eq, not_true_eq_false, if_false]
  rfl

/-- Whatever is wrong with the files of a unit is a fault of their format. -/
theorem failsOnly_decode (unit : Path) (files : UnitFiles) :
    Result.FailsOnly IsFormat (decode unit files) := by
  unfold decode
  cases UnitIndex.ofOctets files.index with
  | invalid vs => exact Result.failsOnly_error ⟨_, _, rfl⟩
  | valid index =>
    refine Result.FailsOnly.bind (Result.failsOnly_ok index) fun index => ?_
    by_cases other : index.version ≠ version
    · simp only [other, ne_eq, not_false_eq_true, if_true]
      exact Result.failsOnly_error ⟨_, _, rfl⟩
    · simp only [other, if_false]
      cases failed : decodeFiles files.strings files.objects with
      | error f =>
        exact Result.failsOnly_error (isFormat_corrupt unit (failsOnly_decodeFiles _ _ f failed))
      | ok decoded =>
        dsimp only
        split
        · exact Result.failsOnly_error ⟨_, _, rfl⟩
        · exact Result.failsOnly_ok _

/-- Files are decoded exactly to the unit that they describe. -/
theorem decode_iff_describes : decode unit files = .ok read ↔ Describes files read := by
  rw [decode_eq_ok, decodeFiles_eq_ok]
  constructor
  · rintro ⟨index, known, ⟨pools, objects⟩, counted⟩
    exact ⟨index, known, pools, objects, counted⟩
  · intro described
    exact ⟨described.index, described.version, ⟨described.pools, described.objects⟩,
      described.counted⟩

/-! ## Units on a disk -/

/-- Reading a unit is reading its files and decoding them. -/
theorem readUnit_eq_decode (stored : Stored d unit files) :
    readUnit d unit = decode unit files := by
  cases readIndex : UnitIndex.ofOctets files.index with
  | valid index => exact readUnit_of_stored stored readIndex
  | invalid vs =>
    have index := readFile_of_read (stored (UnitFiles.indexName, files.index) (by
      simp [UnitFiles.inOrder]))
    unfold readUnit decode
    rw [index]
    dsimp only [bind, Except.bind]
    rw [readIndex]
    rfl

/-- What was read of a unit stands in its directory. -/
theorem read_of_readFile {name : String} {content : Octets}
    (done : readFile d unit name = .ok content) :
    d.read (unit.append (.ofParts [name])) = .ok content := by
  unfold readFile at done
  split at done
  · cases done
    assumption
  · cases done
  · cases done

/-- The files of a unit that is read stand in its directory. -/
theorem exists_stored (done : readUnit d unit = .ok read) : ∃ files, Stored d unit files := by
  obtain ⟨index, readIndex, others⟩ := Result.bind_eq_ok.mp done
  split at others
  · cases others
  · obtain ⟨strings, readStrings, others⟩ := Result.bind_eq_ok.mp others
    obtain ⟨objects, readObjects, -⟩ := Result.bind_eq_ok.mp others
    refine ⟨⟨strings, objects, index⟩, ?_⟩
    simp only [Stored, UnitFiles.inOrder, List.forall_mem_cons, List.not_mem_nil, false_imp_iff,
      implies_true, and_true]
    exact ⟨read_of_readFile readStrings, read_of_readFile readObjects, read_of_readFile readIndex⟩

/-- A directory holds the files of one unit at most. -/
theorem stored_unique {others : UnitFiles} (first : Stored d unit files)
    (second : Stored d unit others) : files = others := by
  simp only [Stored, UnitFiles.inOrder, List.forall_mem_cons, List.not_mem_nil, false_imp_iff,
    implies_true, and_true] at first second
  obtain ⟨strings, objects, index⟩ := first
  obtain ⟨strings', objects', index'⟩ := second
  rw [strings] at strings'
  rw [objects] at objects'
  rw [index] at index'
  cases files
  cases others
  cases strings'
  cases objects'
  cases index'
  rfl

/-- Reading a unit whose files hold any octets ends in one of two ways. Either the files describe a
unit, which is read, its objects drawing all their texts from its own pools, and no count in the
files exceeds what they have room for; or they describe none, and a fault of their format is
found. -/
theorem readUnit_total (stored : Stored d unit files) :
    (∃ read, readUnit d unit = .ok read ∧ Describes files read ∧
      (∀ o ∈ read.objects, o.DrawnFrom read.pools) ∧
      4 * (read.pools.classifiers.length + read.pools.strings.length) ≤ files.strings.length ∧
      20 * read.objects.length ≤ files.objects.length) ∨
    ((∀ read, ¬ Describes files read) ∧
      ∃ fault cause, readUnit d unit = .error (.format fault cause)) := by
  rw [readUnit_eq_decode stored]
  cases decoded : decode unit files with
  | ok read =>
    have described := decode_iff_describes.mp decoded
    refine Or.inl ⟨read, rfl, described, fun o member => ?_, ?_, ?_⟩
    · exact drawn_of_objectsForm described.objects member
    · exact length_of_stringsForm described.pools
    · exact length_of_objectsForm described.objects
  | error f =>
    refine Or.inr ⟨fun read described => ?_, ?_⟩
    · rw [decode_iff_describes.mpr described] at decoded
      cases decoded
    · obtain ⟨fault, cause, rfl⟩ := failsOnly_decode unit files f decoded
      exact ⟨fault, cause, rfl⟩

/-! ## Binary files that are altered -/

/-- Reading ends with the fault that a file ends too early. -/
def CutOff (file : String) (result : Except Failure MetadataUnit) : Prop :=
  ∃ fault cause, result = .error (.format fault cause) ∧ EndsEarly file (.format fault cause)

/-- Reading ends with the fault that a file goes on. -/
def LeftOver (file : String) (count : Nat) (result : Except Failure MetadataUnit) : Prop :=
  result = .error (.format (.trailing file count) none)

theorem cutOff_of_error {file : String} {index : UnitIndex}
    (readIndex : UnitIndex.ofOctets files.index = .valid index) (known : index.version = version)
    (early : ∃ f, decodeFiles strings objectData = .error f ∧ EndsEarly file f) (unit : Path) :
    CutOff file (decode unit ⟨strings, objectData, files.index⟩) := by
  obtain ⟨f, failed, early⟩ := early
  rw [decode_of_error readIndex known failed unit]
  cases early with
  | field offset cause => exact ⟨_, _, rfl, .field offset cause⟩
  | tag early => exact ⟨_, _, rfl, .tag early⟩

/-- No binary file of a unit that is read is the beginning of another one. With either of them cut
off anywhere, the other files being the same, reading the unit ends with the fault that this file
ends too early; with anything behind it, with the fault that it goes on. -/
theorem readUnit_of_altered (done : readUnit d unit = .ok read) :
    ∃ files, Stored d unit files ∧ ∀ d' more, more ≠ [] →
      (∀ front, files.strings = front ++ more → Stored d' unit { files with strings := front } →
        CutOff UnitFiles.stringsName (readUnit d' unit)) ∧
      (∀ front, files.objects = front ++ more → Stored d' unit { files with objects := front } →
        CutOff UnitFiles.objectsName (readUnit d' unit)) ∧
      (Stored d' unit { files with strings := files.strings ++ more } →
        LeftOver UnitFiles.stringsName more.length (readUnit d' unit)) ∧
      (Stored d' unit { files with objects := files.objects ++ more } →
        LeftOver UnitFiles.objectsName more.length (readUnit d' unit)) := by
  obtain ⟨files, stored⟩ := exists_stored done
  refine ⟨files, stored, fun d' more there => ?_⟩
  rw [readUnit_eq_decode stored] at done
  obtain ⟨index, known, strings, objects, -⟩ := decode_iff_describes.mp done
  have readObjects := reads_objects read.pools
  refine ⟨fun front whole stored' => ?_, fun front whole stored' => ?_, fun stored' => ?_,
    fun stored' => ?_⟩
  · rw [whole] at strings
    obtain ⟨f, failed, early⟩ := reads_pools.cut ⟨_, front.length⟩ front more _ strings there
    rw [readUnit_eq_decode stored']
    exact cutOff_of_error index known ⟨f, decodeFiles_of_pools failed, early⟩ unit
  · rw [whole] at objects
    obtain ⟨f, failed, early⟩ := readObjects.cut ⟨_, front.length⟩ front more _ objects there
    rw [readUnit_eq_decode stored']
    exact cutOff_of_error index known ⟨f, decodeFiles_of_objects strings failed, early⟩ unit
  · have failed := reads_pools.overlong ⟨UnitFiles.stringsName, (files.strings ++ more).length⟩ _
      more _ strings there
    rw [readUnit_eq_decode stored']
    exact decode_of_error index known (decodeFiles_of_pools failed) unit
  · have failed := readObjects.overlong ⟨UnitFiles.objectsName, (files.objects ++ more).length⟩ _
      more _ objects there
    rw [readUnit_eq_decode stored']
    exact decode_of_error index known (decodeFiles_of_objects strings failed) unit

end Metadata

namespace Sample

/-- The disk of the unit with the file of the objects cut off before its last octet. -/
def cutDisk : Disk := unitDisk.put ["objects.bin"] (.file files.objects.dropLast)

attribute [local instance] SetOrder.asWritten in
/-- The sample's unit is read. -/
theorem readUnit_unitDisk : ∃ read, Metadata.readUnit unitDisk (.ofParts []) = .ok read := by
  have valid : ∀ e ∈ graph.elementsOf none, e.Valid :=
    fun _ member => Graph.valid_of_rebuilt rebuilt_graph member
  obtain ⟨_, decoded, -⟩ := Metadata.decode_of_serialized valid serialize_graph (.ofParts [])
  exact ⟨_, (Metadata.readUnit_eq_decode stored_files).trans decoded⟩

/-- The sample's unit is stored without the last octet of its objects. -/
theorem stored_cutDisk :
    Metadata.Stored cutDisk (.ofParts []) { files with objects := files.objects.dropLast } := by
  have located : ∀ name ∈ [UnitFiles.stringsName, UnitFiles.objectsName, UnitFiles.indexName],
      (cutDisk.locateFor (Path.append (.ofParts []) (.ofParts [name]))).toOption = some [name] := by
    decide +kernel
  refine Metadata.stored_of_entries [] located fun f inside => ?_
  simp only [List.mem_cons, List.not_mem_nil, or_false, UnitFiles.inOrder] at inside
  rcases inside with rfl | rfl | rfl
  · exact Disk.entry?_put_of_ne (by decide) _
  · exact Disk.entry?_put_self (by decide) _
  · exact Disk.entry?_put_of_ne (by decide) _

end Sample

namespace Metadata

theorem readUnit_sample_total : ∃ read, readUnit Sample.unitDisk (.ofParts []) = .ok read ∧
    Describes Sample.files read ∧ ∀ o ∈ read.objects, o.DrawnFrom read.pools := by
  obtain ⟨held, known⟩ := Sample.readUnit_unitDisk
  rcases readUnit_total Sample.stored_files with ⟨read, done, described, drawn, -⟩ | ⟨-, refused⟩
  · exact ⟨read, done, described, drawn⟩
  · obtain ⟨_, _, failed⟩ := refused
    cases known.symm.trans failed

theorem readUnit_cutDisk :
    CutOff "objects.bin" (readUnit Sample.cutDisk (.ofParts [])) := by
  obtain ⟨held, known⟩ := Sample.readUnit_unitDisk
  obtain ⟨files, stored, altered⟩ := readUnit_of_altered known
  cases stored_unique stored Sample.stored_files
  have some : Sample.files.objects ≠ [] := by decide +kernel
  have last := (List.dropLast_append_getLast some).symm
  exact (altered Sample.cutDisk _ (List.cons_ne_nil _ [])).2.1 _ last Sample.stored_cutDisk

end Metadata

end ModelForge
