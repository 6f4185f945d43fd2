import ModelForge.Proofs.Document.Json
import ModelForge.Proofs.Metadata.Fields
import ModelForge.Proofs.Schema.Objects

/-! # The index of a unit is read back

The counts of an index are those of what was written into fields of four octets, so they have few
enough digits, and each classifier is counted once. Such an index is read back from its JSON text
(`ModelForge.UnitIndex.ofOctets_print`).
-/

namespace ModelForge

namespace UnitIndex

open Json Schema

/-- A count that fits a field of four octets. -/
def Fits (i : Int) : Prop := 0 ≤ i ∧ i < BigEndian.capacity 4

variable {i : UnitIndex}

/-- An index whose counts fit, with each classifier once. -/
structure CountsFit (i : UnitIndex) : Prop where
  version : i.version = Metadata.version
  objects : Fits i.objectCount
  classifiers : Fits i.classifierCount
  strings : Fits i.stringCount
  each : ∀ c ∈ i.classifiers, Fits c.2
  distinct : (i.classifiers.map Prod.fst).Nodup

/-- A count is written as a value that is read back. -/
theorem readable_of_fits {n : Nat} {count : Int} (fits : Fits count) :
    ReadableValue n (.int count) := by
  obtain ⟨natural, small⟩ := fits
  obtain ⟨k, rfl⟩ := Int.eq_ofNat_of_zero_le natural
  have bound : k < 10 ^ 10 := by
    have below : BigEndian.capacity 4 = 4294967296 := rfl
    omega
  have short := (Nat.length_toDigits_le_iff (n := k) (b := 10) (by decide) (by decide)).mpr bound
  exact .natural (Nat.le_trans short (by decide))

/-- The index as a value has two levels. -/
theorem readable_toValue (counted : CountsFit i) : ReadableValue 2 i.toValue := by
  have repository : ReadableValue 1 (.textOrNull i.repository) := by
    cases i.repository with
    | none => exact .null
    | some name => exact .text
  have classifiers : ReadableValue 1 (.object (i.classifiers.map fun c => (c.1, .int c.2))) := by
    refine .object fun m member => ?_
    obtain ⟨c, of_index, rfl⟩ := List.mem_map.mp member
    exact readable_of_fits (counted.each c of_index)
  have version : ReadableValue 1 (.int i.version) := by
    rw [counted.version]
    exact readable_of_fits ⟨by decide, by decide⟩
  unfold toValue
  refine .object fun m member => ?_
  simp only [List.mem_cons, List.not_mem_nil, or_false] at member
  rcases member with rfl | rfl | rfl | rfl | rfl | rfl | rfl
  · exact version
  · exact .text
  · exact repository
  · exact readable_of_fits counted.objects
  · exact readable_of_fits counted.classifiers
  · exact readable_of_fits counted.strings
  · exact classifiers

/-- The rules of an index accept the value of an index. -/
theorem check_toValue (counted : CountsFit i) : check i.toValue = .valid i := by
  have repository : optional text (.textOrNull i.repository) = .valid i.repository := by
    cases i.repository <;> rfl
  have classifiers : map anyInteger (.object (i.classifiers.map fun c => (c.1, .int c.2))) =
      .valid i.classifiers := map_of_each counted.distinct fun _ _ => rfl
  have version : (1 : Int) ≤ i.version := by rw [counted.version]; decide
  unfold check toValue
  rw [object_eq]
  dsimp only [Schema.object]
  rw [closed_object (by simp),
    required_of_lookup (by simp) (integer_of_le version),
    required_of_lookup (by simp) (text_valid i.unit),
    member_of_lookup _ (by simp) repository,
    required_of_lookup (by simp) (integer_of_le counted.objects.1),
    required_of_lookup (by simp) (integer_of_le counted.classifiers.1),
    required_of_lookup (by simp) (integer_of_le counted.strings.1),
    member_of_lookup _ (by simp) classifiers]
  rfl

/-- An index is read back from its JSON text. -/
theorem ofOctets_print (counted : CountsFit i) :
    ofOctets (Utf8.encode (print i.toValue)) = .valid i := by
  unfold ofOctets
  rw [parse?_print (readable_toValue counted) (by decide)]
  exact check_toValue counted

end UnitIndex

end ModelForge
