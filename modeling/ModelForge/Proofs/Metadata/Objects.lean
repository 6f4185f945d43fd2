import ModelForge.Proofs.Metadata.Fields
import ModelForge.Proofs.Metadata.Pools

/-! # Objects that are read back

Objects are written while the pools still grow and read when they are complete. Each part of an
object that was written is read back from any octets that start with it, against any pools that
extend those at the time of writing (`ModelForge.Metadata.ReadsBack`): values, properties, objects
and the whole file of the objects.
-/

namespace ModelForge

namespace Metadata

open StringPools

variable {α : Type} {x : Extent} {before after : StringPools} {bs : Octets}

/-- What a step writes is read back as the value it wrote, whatever follows it and however the pools
grow afterwards. -/
def ReadsBack (write : Encode Octets) (read : StringPools → Decode α) (a : α) : Prop :=
  ∀ ⦃before after : StringPools⦄ ⦃bs : Octets⦄, write.run.run before = (.ok bs, after) →
    after.Extends before ∧
      ∀ later : StringPools, later.Extends after → ∀ rest : Octets,
        (read later).run (bs ++ rest) = .ok (a, rest)

/-- A given result is taken, and the pools stay as they are. -/
theorem run_orThrow_eq_ok {β : Type} {result : Except Failure β} {b : β} :
    (orThrow result).run.run before = (.ok b, after) ↔ result = .ok b ∧ after = before := by
  cases result with
  | error f =>
    refine ⟨fun failed => ?_, fun ⟨no, _⟩ => nomatch no⟩
    cases congrArg Prod.fst failed
  | ok c =>
    constructor
    · intro done
      cases done
      exact ⟨rfl, rfl⟩
    · rintro ⟨same, rfl⟩
      cases same
      rfl

theorem run_orUnknown_of_ok {β : Type} {result : Except IdFault β} {b : β} (known : result = .ok b)
    (input : Octets) : (orUnknown result).run input = .ok (b, input) := by
  rw [known]
  rfl

/-- Giving out an id of the general pool always succeeds. -/
theorem run_lift_stringId (text : String) (pools : StringPools) :
    (liftM (stringId text) : Encode Int).run.run pools =
      (.ok ((stringId text).run pools).1, ((stringId text).run pools).2) := rfl

theorem run_lift_classifierId (text : String) (pools : StringPools) :
    (liftM (classifierId text) : Encode Int).run.run pools =
      (.ok ((classifierId text).run pools).1, ((classifierId text).run pools).2) := rfl

/-- An id with its octets is read back as the text it stands for. -/
theorem readsBack_string (x : Extent) (text : String) :
    ReadsBack (encodeString text) (stringById x) text := by
  intro before after bs written
  obtain ⟨id, grown, given, packed⟩ := Step.run_bind_eq_ok.mp written
  rw [run_lift_stringId] at given
  cases given
  obtain ⟨field, rfl⟩ := run_orThrow_eq_ok.mp packed
  refine ⟨extends_stringId text before, fun later extended rest => ?_⟩
  unfold stringById
  rw [run_bind_of_ok (run_integer (by decide) field x rest)]
  exact run_orUnknown_of_ok (string_stringId extended) rest

/-- A list written item by item is read back item by item. -/
theorem run_mapM_readsBack {items : List α} {write : α → Encode Octets}
    {read : StringPools → Decode α} (each : ∀ a ∈ items, ReadsBack (write a) read a)
    {pieces : List Octets} (written : (items.mapM write).run.run before = (.ok pieces, after)) :
    after.Extends before ∧
      ∀ later : StringPools, later.Extends after → ∀ rest : Octets,
        (times (read later) items.length).run (pieces.flatten ++ rest) = .ok (items, rest) := by
  induction items generalizing before pieces with
  | nil =>
    obtain ⟨rfl, rfl⟩ := Step.run_mapM_nil_eq_ok.mp written
    exact ⟨Extends.refl before, fun _ _ _ => rfl⟩
  | cons a items ih =>
    obtain ⟨piece, middle, others, first, tail, rfl⟩ := Step.run_mapM_cons_eq_ok.mp written
    obtain ⟨grown, readFirst⟩ := each a List.mem_cons_self first
    obtain ⟨grownOn, readOthers⟩ :=
      ih (fun b member => each b (List.mem_cons_of_mem a member)) tail
    refine ⟨grownOn.trans grown, fun later extended rest => ?_⟩
    rw [List.length_cons, times, List.flatten_cons, List.append_assoc,
      run_bind_of_ok (readFirst later (extended.trans grownOn) _),
      run_bind_of_ok (readOthers later extended rest)]
    rfl

/-- A value is read back, by its tag. -/
theorem readsBack_value (x : Extent) (v : MetadataValue) :
    ReadsBack (encodeTagged v) (value x) v := by
  intro before after bs written
  obtain ⟨payload, grown, encoded, made⟩ := Step.run_bind_eq_ok.mp written
  cases made
  have tagRead : ∀ rest, (tag x).run (v.tag :: rest) = .ok (v.tag.toNat, rest) := by
    intro rest
    unfold tag
    rw [run_bind_of_ok (run_get _), run_natural_octet]
    cases v <;> rfl
  cases v with
  | string text =>
    obtain ⟨extends', readText⟩ := readsBack_string x text encoded
    refine ⟨extends', fun later extended rest => ?_⟩
    unfold value
    rw [List.cons_append, run_bind_of_ok (tagRead _)]
    exact run_bind_of_ok (readText later extended rest) _
  | reference path =>
    obtain ⟨extends', readText⟩ := readsBack_string x path encoded
    refine ⟨extends', fun later extended rest => ?_⟩
    unfold value
    rw [List.cons_append, run_bind_of_ok (tagRead _)]
    exact run_bind_of_ok (readText later extended rest) _
  | integer i =>
    obtain ⟨field, rfl⟩ := run_orThrow_eq_ok.mp encoded
    refine ⟨Extends.refl _, fun later _ rest => ?_⟩
    unfold value
    rw [List.cons_append, run_bind_of_ok (tagRead _)]
    exact run_bind_of_ok (run_integer (by decide) field x rest) _
  | boolean b =>
    cases encoded
    refine ⟨Extends.refl _, fun later _ rest => ?_⟩
    unfold value
    rw [List.cons_append, run_bind_of_ok (tagRead _)]
    refine (run_bind_of_ok (run_natural_octet x _ rest) _).trans ?_
    cases b <;> rfl

/-- A property is read back, with its values in order. -/
theorem readsBack_property (x : Extent) (p : String × List MetadataValue) :
    ReadsBack (encodeProperty p) (property x) p := by
  intro before after bs written
  obtain ⟨name, named, wroteName, sizeOn⟩ := Step.run_bind_eq_ok.mp written
  obtain ⟨size, sized, wroteSize, valuesOn⟩ := Step.run_bind_eq_ok.mp sizeOn
  obtain ⟨values, last, wroteValues, made⟩ := Step.run_bind_eq_ok.mp valuesOn
  cases made
  obtain ⟨counted, rfl⟩ := run_orThrow_eq_ok.mp wroteSize
  obtain ⟨grown, readName⟩ := readsBack_string x p.1 wroteName
  obtain ⟨grownOn, readValues⟩ :=
    run_mapM_readsBack (fun v _ => readsBack_value x v) wroteValues
  refine ⟨grownOn.trans grown, fun later extended rest => ?_⟩
  unfold property
  rw [List.append_assoc, List.append_assoc,
    run_bind_of_ok (readName later (extended.trans grownOn) _),
    run_bind_of_ok (run_natural counted x _), run_bind_of_ok (readValues later extended rest)]
  rfl

/-- The ids that an object starts with: four fields of four octets, which later pools resolve. -/
structure HeaderFields (o : MetadataObject) (after : StringPools)
    (classifier path repository source : Octets) : Prop where
  lengths : classifier.length = 4 ∧ path.length = 4 ∧ repository.length = 4 ∧ source.length = 4
  classifierId : ∀ later : StringPools, later.Extends after →
    later.classifier (BigEndian.signedValue classifier) = .ok o.classifier
  pathId : ∀ later : StringPools, later.Extends after →
    later.string (BigEndian.signedValue path) = .ok o.path
  repositoryId : ∀ later : StringPools, later.Extends after →
    later.string (BigEndian.signedValue repository) = .ok o.repository
  sourceId : ∀ later : StringPools, later.Extends after →
    later.string (BigEndian.signedValue source) = .ok o.source

/-- Writing the ids of an object gives four fields. -/
theorem run_encodeHeader {o : MetadataObject}
    (written : (encodeHeader o).run.run before = (.ok bs, after)) :
    after.Extends before ∧ ∃ classifier path repository source,
      bs = classifier ++ path ++ repository ++ source ∧
        HeaderFields o after classifier path repository source := by
  obtain ⟨_, _, given₀, pathOn⟩ := Step.run_bind_eq_ok.mp written
  obtain ⟨_, _, given₁, repositoryOn⟩ := Step.run_bind_eq_ok.mp pathOn
  obtain ⟨_, _, given₂, sourceOn⟩ := Step.run_bind_eq_ok.mp repositoryOn
  obtain ⟨_, _, given₃, packOn⟩ := Step.run_bind_eq_ok.mp sourceOn
  obtain ⟨fields, _, packed, made⟩ := Step.run_bind_eq_ok.mp packOn
  rw [run_lift_classifierId] at given₀
  rw [run_lift_stringId] at given₁ given₂ given₃
  cases given₀
  cases given₁
  cases given₂
  cases given₃
  cases made
  obtain ⟨classifier, _, _, field₀, packed₁, rfl⟩ := Step.run_mapM_cons_eq_ok.mp packed
  obtain ⟨path, _, _, field₁, packed₂, rfl⟩ := Step.run_mapM_cons_eq_ok.mp packed₁
  obtain ⟨repository, _, _, field₂, packed₃, rfl⟩ := Step.run_mapM_cons_eq_ok.mp packed₂
  obtain ⟨source, _, _, field₃, packed₄, rfl⟩ := Step.run_mapM_cons_eq_ok.mp packed₃
  obtain ⟨rfl, rfl⟩ := Step.run_mapM_nil_eq_ok.mp packed₄
  obtain ⟨number₀, rfl⟩ := run_orThrow_eq_ok.mp field₀
  obtain ⟨number₁, rfl⟩ := run_orThrow_eq_ok.mp field₁
  obtain ⟨number₂, rfl⟩ := run_orThrow_eq_ok.mp field₂
  obtain ⟨number₃, rfl⟩ := run_orThrow_eq_ok.mp field₃
  have signed₀ := number_eq_ok.mp number₀
  have signed₁ := number_eq_ok.mp number₁
  have signed₂ := number_eq_ok.mp number₂
  have signed₃ := number_eq_ok.mp number₃
  have grown₀ := extends_classifierId o.classifier before
  have grown₁ := extends_stringId o.path ((classifierId o.classifier).run before).2
  have grown₂ := extends_stringId o.repository
    ((stringId o.path).run ((classifierId o.classifier).run before).2).2
  have grown₃ := extends_stringId o.source ((stringId o.repository).run
    ((stringId o.path).run ((classifierId o.classifier).run before).2).2).2
  refine ⟨grown₃.trans (grown₂.trans (grown₁.trans grown₀)), classifier, path, repository, source,
    by simp, ⟨BigEndian.length_of_signed? signed₀, BigEndian.length_of_signed? signed₁,
      BigEndian.length_of_signed? signed₂, BigEndian.length_of_signed? signed₃⟩, ?_, ?_, ?_, ?_⟩
  · intro later extended
    rw [BigEndian.signedValue_of_signed? (by decide) signed₀]
    exact classifier_classifierId (extended.trans (grown₃.trans (grown₂.trans grown₁)))
  · intro later extended
    rw [BigEndian.signedValue_of_signed? (by decide) signed₁]
    exact string_stringId (extended.trans (grown₃.trans grown₂))
  · intro later extended
    rw [BigEndian.signedValue_of_signed? (by decide) signed₂]
    exact string_stringId (extended.trans grown₃)
  · intro later extended
    rw [BigEndian.signedValue_of_signed? (by decide) signed₃]
    exact string_stringId extended

/-- A property whose name is not there yet goes to the end. -/
theorem putProperty_of_new {p : String × List MetadataValue} {ps : MetadataProperties}
    (new : ∀ q ∈ ps, q.1 ≠ p.1) : putProperty p ps = ps ++ [p] := by
  induction ps with
  | nil => rfl
  | cons q ps ih =>
    rw [putProperty, if_neg (new q List.mem_cons_self),
      ih fun r member => new r (List.mem_cons_of_mem q member)]
    rfl

/-- Properties with distinct names keep their places. -/
theorem foldl_putProperty {ps acc : MetadataProperties}
    (distinct : ((acc ++ ps).map Prod.fst).Nodup) :
    ps.foldl (fun acc p => putProperty p acc) acc = acc ++ ps := by
  induction ps generalizing acc with
  | nil => exact (List.append_nil acc).symm
  | cons p ps ih =>
    have new : ∀ q ∈ acc, q.1 ≠ p.1 := by
      intro q member same
      rw [List.map_append, List.nodup_append] at distinct
      exact distinct.2.2 q.1 (List.mem_map_of_mem member) p.1 (by simp) same
    rw [List.foldl_cons, putProperty_of_new new, ih (by simpa using distinct), List.append_assoc]
    rfl

/-- An object whose properties have distinct names is read back. -/
theorem readsBack_object (x : Extent) {o : MetadataObject}
    (distinct : (o.properties.map Prod.fst).Nodup) : ReadsBack (encodeObject o) (object x) o := by
  intro before after bs written
  obtain ⟨header, named, wroteHeader, sizeOn⟩ := Step.run_bind_eq_ok.mp written
  obtain ⟨size, sized, wroteSize, propertiesOn⟩ := Step.run_bind_eq_ok.mp sizeOn
  obtain ⟨pieces, last, wroteProperties, made⟩ := Step.run_bind_eq_ok.mp propertiesOn
  cases made
  obtain ⟨counted, rfl⟩ := run_orThrow_eq_ok.mp wroteSize
  obtain ⟨grown, classifier, path, repository, source, rfl, fields⟩ := run_encodeHeader wroteHeader
  obtain ⟨grownOn, readProperties⟩ :=
    run_mapM_readsBack (fun p _ => readsBack_property x p) wroteProperties
  obtain ⟨length₀, length₁, length₂, length₃⟩ := fields.lengths
  refine ⟨grownOn.trans grown, fun later extended rest => ?_⟩
  have extended' := extended.trans grownOn
  have sixteen : (classifier ++ path ++ repository ++ source).length = 16 := by
    simp only [List.length_append, length₀, length₁, length₂, length₃]
  obtain ⟨at₀, at₁, at₂, at₃⟩ := four_fields length₀ length₁ length₂ length₃
  unfold object
  rw [List.append_assoc, List.append_assoc, ← sixteen, run_bind_of_ok (run_take x _ _)]
  dsimp only
  rw [run_bind_of_ok (run_natural counted x _),
    run_bind_of_ok (readProperties later extended rest), at₀, at₁, at₂, at₃,
    run_bind_of_ok (run_orUnknown_of_ok (fields.classifierId later extended') rest),
    run_bind_of_ok (run_orUnknown_of_ok (fields.pathId later extended') rest),
    run_bind_of_ok (run_orUnknown_of_ok (fields.repositoryId later extended') rest),
    run_bind_of_ok (run_orUnknown_of_ok (fields.sourceId later extended') rest),
    foldl_putProperty (by simpa using distinct)]
  rfl

end Metadata

end ModelForge
