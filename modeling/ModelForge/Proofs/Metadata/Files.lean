import ModelForge.Proofs.Metadata.Objects

/-! # The binary files of a unit are read back

The file of the objects and the file of the pools are read back together: the pools as they were
when the last object had been written, and the objects in order
(`ModelForge.Metadata.decodeFiles_of_encoded`).
-/

namespace ModelForge

namespace Metadata

open StringPools

variable {x : Extent} {bs : Octets}

/-- The magic and the version in front are read and dropped. -/
theorem run_header (x : Extent) (magic content : Octets) :
    (header x magic).run (withHeader magic content) = .ok ((), content) := by
  have current : count 2 version = .ok (BigEndian.octets 2 version) := rfl
  unfold header withHeader
  rw [List.append_assoc, run_bind_of_ok (run_take x magic _)]
  simp only [ne_eq, not_true_eq_false, ↓reduceIte]
  rw [run_bind_of_ok (run_natural current x content)]
  simp only [not_true_eq_false, ↓reduceIte]
  rfl

theorem run_atEnd (x : Extent) : (atEnd x).run [] = .ok ((), []) := rfl

/-- The file of the objects is read back against the pools at its end. -/
theorem run_objects {os : List MetadataObject} {before after : StringPools}
    (distinct : ∀ o ∈ os, (o.properties.map Prod.fst).Nodup)
    (written : (encodeObjects os).run.run before = (.ok bs, after)) (x : Extent) :
    (objects x after).run bs = .ok (os, []) := by
  obtain ⟨size, sized, wroteSize, objectsOn⟩ := Step.run_bind_eq_ok.mp written
  obtain ⟨pieces, last, wroteObjects, made⟩ := Step.run_bind_eq_ok.mp objectsOn
  cases made
  obtain ⟨counted, rfl⟩ := run_orThrow_eq_ok.mp wroteSize
  obtain ⟨-, readObjects⟩ :=
    run_mapM_readsBack (fun o member => readsBack_object x (distinct o member)) wroteObjects
  have readAll := readObjects after (Extends.refl after) []
  rw [List.append_nil] at readAll
  unfold objects
  rw [run_bind_of_ok (run_header x _ _), run_bind_of_ok (run_natural counted x _),
    run_bind_of_ok readAll, run_bind_of_ok (run_atEnd x)]
  rfl

/-- A pool is read back. -/
theorem run_pool {pool : List String} (written : encodePool pool = .ok bs) (x : Extent)
    (rest : Octets) : (Metadata.pool x).run (bs ++ rest) = .ok (pool, rest) := by
  obtain ⟨size, counted, textsOn⟩ := Result.bind_eq_ok.mp written
  obtain ⟨pieces, wroteTexts, made⟩ := Result.bind_eq_ok.mp textsOn
  cases made
  have each : List.Forall₂ (fun s piece => ∀ rest, (text x).run (piece ++ rest) = .ok (s, rest))
      pool pieces := by
    refine (Result.mapM_eq_ok.mp wroteTexts).imp ?_
    intro s piece wrote rest
    exact run_text wrote x rest
  unfold Metadata.pool
  rw [List.append_assoc, run_bind_of_ok (run_natural counted x _), run_times_of_each each]

/-- The file of the pools is read back. -/
theorem run_pools {table : StringPools} (written : encodeStrings table = .ok bs) (x : Extent) :
    (pools x).run bs = .ok (table, []) := by
  obtain ⟨classifiers, wroteClassifiers, stringsOn⟩ := Result.bind_eq_ok.mp written
  obtain ⟨strings, wroteStrings, made⟩ := Result.bind_eq_ok.mp stringsOn
  cases made
  have readStrings := run_pool wroteStrings x []
  rw [List.append_nil] at readStrings
  unfold pools
  rw [run_bind_of_ok (run_header x _ _), run_bind_of_ok (run_pool wroteClassifiers x _),
    run_bind_of_ok readStrings, run_bind_of_ok (run_atEnd x)]
  rfl

/-- Both binary files are read back: the pools at the end of the writing, and the objects. -/
theorem decodeFiles_of_encoded {os : List MetadataObject} {table : StringPools}
    {strings objectData : Octets} (distinct : ∀ o ∈ os, (o.properties.map Prod.fst).Nodup)
    (wroteObjects : (encodeObjects os).run.run .empty = (.ok objectData, table))
    (wroteStrings : encodeStrings table = .ok strings) :
    decodeFiles strings objectData = .ok (table, os) := by
  unfold decodeFiles
  rw [run_pools wroteStrings]
  change (objects _ table).run objectData >>= _ = _
  rw [run_objects distinct wroteObjects]
  rfl

end Metadata

end ModelForge
