import Mathlib.Algebra.Group.Int.Defs
import ModelForge.Proofs.Metadata.Format
import ModelForge.Proofs.Metadata.Objects

/-! # Values one after the other

Values of all kinds are written one after the other while the general pool grows by their texts. If
their integers fit eight octets and the ids of their texts fit four, all of them are written, and
they are read back against the pools at the end, to the last octet
(`ModelForge.Metadata.values_read_back`). An integer that does not fit is refused before anything
has happened to the pools.
-/

namespace ModelForge

namespace Metadata

open StringPools

variable {v : MetadataValue} {values : List MetadataValue} {before : StringPools} {width : Nat}
  {i : Int}

/-! ## Numbers that fit -/

/-- Numbers in range are written. -/
theorem exists_number (fits : -((BigEndian.capacity width / 2 : Nat) : Int) ≤ i ∧
    i < ((BigEndian.capacity width / 2 : Nat) : Int)) : ∃ bs, number width i = .ok bs :=
  ⟨_, number_eq_ok.mpr (BigEndian.signed?_eq_some.mpr ⟨fits, rfl⟩)⟩

/-- Numbers out of range are refused. -/
theorem number_of_large (large : ¬ (-((BigEndian.capacity width / 2 : Nat) : Int) ≤ i ∧
    i < ((BigEndian.capacity width / 2 : Nat) : Int))) : number width i = .error .packing := by
  unfold number BigEndian.signed?
  dsimp only
  rw [if_neg large]

/-- Eight octets hold the integers of 64 bits. -/
theorem fits_eight_iff : (-((BigEndian.capacity 8 / 2 : Nat) : Int) ≤ i ∧
    i < ((BigEndian.capacity 8 / 2 : Nat) : Int)) ↔ -2 ^ 63 ≤ i ∧ i ≤ 2 ^ 63 - 1 := by
  rw [show BigEndian.capacity 8 / 2 = 2 ^ 63 by decide]
  omega

/-! ## Ids of values -/

/-- Puts the texts of values into the general pool, and gives their ids. -/
def textIds (values : List MetadataValue) : StateM StringPools (List Int) :=
  (values.filterMap MetadataValue.text?).mapM stringId

/-- The ids of texts are given one value after the other. -/
theorem run_textIds_cons (v : MetadataValue) (values : List MetadataValue) (before : StringPools) :
    (textIds (v :: values)).run before =
      (((textIds [v]).run before).1 ++ ((textIds values).run ((textIds [v]).run before).2).1,
        ((textIds values).run ((textIds [v]).run before).2).2) := by
  cases v with
  | string text =>
    change (List.mapM stringId (text :: _)).run before = _
    rw [List.mapM_cons]
    rfl
  | integer i => rfl
  | boolean b => rfl
  | reference path =>
    change (List.mapM stringId (path :: _)).run before = _
    rw [List.mapM_cons]
    rfl

/-- A text is written if its id fits. -/
theorem exists_encodeString {text : String} (fits : ((stringId text).run before).1 ≤ 2 ^ 31 - 1) :
    ∃ bs, (encodeString text).run.run before = (.ok bs, ((stringId text).run before).2) := by
  have positive : 0 < ((stringId text).run before).1 := by
    rw [run_stringId]
    exact Int.lt_add_one_of_le (Int.natCast_nonneg _)
  have inside : -((BigEndian.capacity 4 / 2 : Nat) : Int) ≤ ((stringId text).run before).1 ∧
      ((stringId text).run before).1 < ((BigEndian.capacity 4 / 2 : Nat) : Int) := by
    rw [show BigEndian.capacity 4 / 2 = 2 ^ 31 by decide]
    omega
  obtain ⟨bs, packed⟩ := exists_number inside
  exact ⟨bs, Step.run_bind_eq_ok.mpr
    ⟨_, _, run_lift_stringId text before, run_orThrow_eq_ok.mpr ⟨packed, rfl⟩⟩⟩

/-- A value is written if its integer or the id of its text fits. -/
theorem exists_encodeTagged (integers : ∀ i, v = .integer i → -2 ^ 63 ≤ i ∧ i ≤ 2 ^ 63 - 1)
    (ids : ∀ id ∈ ((textIds [v]).run before).1, id ≤ 2 ^ 31 - 1) :
    ∃ bs, (encodeTagged v).run.run before = (.ok bs, ((textIds [v]).run before).2) := by
  have tagged {bs : Octets} {after : StringPools}
      (encoded : (encodeValue v).run.run before = (.ok bs, after)) :
      ∃ bs, (encodeTagged v).run.run before = (.ok bs, after) :=
    ⟨v.tag :: bs, Step.run_bind_eq_ok.mpr ⟨bs, after, encoded, rfl⟩⟩
  cases v with
  | string text =>
    obtain ⟨bs, encoded⟩ := exists_encodeString (ids _ (List.mem_singleton_self _))
    exact tagged encoded
  | integer i =>
    obtain ⟨bs, packed⟩ := exists_number (fits_eight_iff.mpr (integers i rfl))
    exact tagged (run_orThrow_eq_ok.mpr ⟨packed, rfl⟩)
  | boolean b => exact tagged rfl
  | reference path =>
    obtain ⟨bs, encoded⟩ := exists_encodeString (ids _ (List.mem_singleton_self _))
    exact tagged encoded

/-- All values are written if their integers and the ids of their texts fit. -/
theorem exists_encoded (integers : ∀ i, .integer i ∈ values → -2 ^ 63 ≤ i ∧ i ≤ 2 ^ 63 - 1)
    (ids : ∀ id ∈ ((textIds values).run before).1, id ≤ 2 ^ 31 - 1) :
    ∃ pieces, (values.mapM encodeTagged).run.run before =
      (.ok pieces, ((textIds values).run before).2) := by
  induction values generalizing before with
  | nil => exact ⟨[], rfl⟩
  | cons v values ih =>
    rw [run_textIds_cons] at ids ⊢
    obtain ⟨first, others⟩ := List.forall_mem_append.mp ids
    obtain ⟨bs, encoded⟩ := exists_encodeTagged
      (fun i same => integers i (same ▸ List.mem_cons_self)) first
    obtain ⟨pieces, rest⟩ := ih (fun i member => integers i (List.mem_cons_of_mem v member)) others
    exact ⟨bs :: pieces, Step.run_mapM_cons_eq_ok.mpr ⟨bs, _, pieces, encoded, rest, rfl⟩⟩

/-- Values with integers of 64 bits are written one after the other, whatever the pools hold, if the
ids of their texts fit 32 bits, and are read back in order against the pools that they leave, with
no octet left over. An integer of more bits is refused, and leaves the pools as they are. -/
theorem values_read_back (x : Extent)
    (integers : ∀ i, .integer i ∈ values → -2 ^ 63 ≤ i ∧ i ≤ 2 ^ 63 - 1)
    (ids : ∀ id ∈ ((textIds values).run before).1, id ≤ 2 ^ 31 - 1) :
    (∃ pieces after, (values.mapM encodeTagged).run.run before = (.ok pieces, after) ∧
      (times (value x after) values.length).run pieces.flatten = .ok (values, [])) ∧
    ∀ i, ¬ (-2 ^ 63 ≤ i ∧ i ≤ 2 ^ 63 - 1) → ∀ pools,
      (encodeValue (.integer i)).run.run pools = (.error .packing, pools) := by
  refine ⟨?_, fun i large pools => ?_⟩
  · obtain ⟨pieces, written⟩ := exists_encoded integers ids
    obtain ⟨-, readBack⟩ := run_mapM_readsBack (fun v _ => readsBack_value x v) written
    have whole := readBack _ (.refl _) []
    rw [List.append_nil] at whole
    exact ⟨pieces, _, written, whole⟩
  · have refused := number_of_large (mt fits_eight_iff.mp large)
    change (orThrow (number 8 i)).run.run pools = _
    rw [refused]
    rfl

end Metadata

namespace Sample

/-- Values of all kinds, with the limits of integers, a text that is used again, and one that looks
like nothing else. -/
def values : List MetadataValue :=
  [.string "a", .integer (-2 ^ 63), .boolean true, .reference "x::A", .integer (2 ^ 63 - 1),
   .boolean false, .reference "a", .string "", .integer (-1), .string "né\n"]

end Sample

namespace Metadata

/-- The sample is read back from pools that hold one of its texts already. -/
theorem values_sample : ∃ pieces after,
    (Sample.values.mapM encodeTagged).run.run ⟨["C"], ["x::A"]⟩ = (.ok pieces, after) ∧
      (times (value ⟨UnitFiles.objectsName, 0⟩ after) Sample.values.length).run pieces.flatten =
        .ok (Sample.values, []) := by
  have integers : ∀ i, .integer i ∈ Sample.values → -2 ^ 63 ≤ i ∧ i ≤ 2 ^ 63 - 1 := by
    intro i member
    simp only [Sample.values, List.mem_cons, reduceCtorEq, MetadataValue.integer.injEq,
      List.not_mem_nil, false_or, or_false] at member
    omega
  have ids : ∀ id ∈ ((textIds Sample.values).run ⟨["C"], ["x::A"]⟩).1, id ≤ 2 ^ 31 - 1 := by
    decide
  exact (values_read_back ⟨UnitFiles.objectsName, 0⟩ integers ids).1

end Metadata

end ModelForge
