import Mathlib.Algebra.Group.Int.Defs
import ModelForge.Metadata.StringId
import ModelForge.Proofs.Number.BigEndian
import ModelForge.Proofs.Step

/-! # Words of ids

An id is written as a word of four octets. The ids of the two pools share the words: half of them
are those of classifiers, one less than half those of other texts, and only the word of zeros is
left over (`ModelForge.StringId.index_cases`). So the pools have different last indexes
(`ModelForge.StringId.exists_word_iff`), and a word is written for the one index that is read from
it (`ModelForge.StringId.word?_eq_some`). Together that is `ModelForge.StringId.words_of_indexes`.
-/

namespace ModelForge

namespace StringId

/-- The pools that ids refer to. -/
inductive Pool where
  | classifier
  | general
  deriving DecidableEq, Repr

variable {p : Pool} {i id : Int} {w : Octets}

namespace Pool

/-- The id of an index. -/
def encode : Pool → Int → Except IdFault Int
  | classifier => ofClassifierIndex
  | general => ofGeneralIndex

/-- The index that an id stands for. -/
def decode : Pool → Int → Except IdFault Int
  | classifier => toClassifierIndex
  | general => toGeneralIndex

/-- The word of an index: its id in a field of four octets. -/
def word? (p : Pool) (index : Int) : Option Octets :=
  (p.encode index).toOption.bind (BigEndian.signed? 4)

/-- The index that a word stands for. -/
def index (p : Pool) (word : Octets) : Except IdFault Int :=
  p.decode (BigEndian.signedValue word)

/-- The last index that has a word. -/
def last : Pool → Int
  | classifier => 2 ^ 31 - 1
  | general => 2 ^ 31 - 2

end Pool

/-! ## Ids -/

/-- The id of a classifier's place. -/
theorem ofClassifierIndex_eq_ok : ofClassifierIndex i = .ok id ↔ 0 ≤ i ∧ id = -i - 1 := by
  unfold ofClassifierIndex checkIndex
  split
  · exact ⟨fun no => (nomatch no), fun ⟨natural, _⟩ => by omega⟩
  · exact ⟨fun same => ⟨by omega, (Except.ok.inj same).symm⟩, fun ⟨_, same⟩ => same ▸ rfl⟩

/-- The id of a text's place. -/
theorem ofGeneralIndex_eq_ok : ofGeneralIndex i = .ok id ↔ 0 ≤ i ∧ id = i + 1 := by
  unfold ofGeneralIndex checkIndex
  split
  · exact ⟨fun no => (nomatch no), fun ⟨natural, _⟩ => by omega⟩
  · exact ⟨fun same => ⟨by omega, (Except.ok.inj same).symm⟩, fun ⟨_, same⟩ => same ▸ rfl⟩

/-- The place of a classifier's id. -/
theorem toClassifierIndex_eq_ok : toClassifierIndex id = .ok i ↔ id < 0 ∧ i = -id - 1 := by
  unfold toClassifierIndex
  split
  · exact ⟨fun no => (nomatch no), fun ⟨negative, _⟩ => by omega⟩
  · exact ⟨fun same => ⟨by omega, (Except.ok.inj same).symm⟩, fun ⟨_, same⟩ => same ▸ rfl⟩

/-- The place of a text's id. -/
theorem toGeneralIndex_eq_ok : toGeneralIndex id = .ok i ↔ 0 < id ∧ i = id - 1 := by
  unfold toGeneralIndex
  split
  · exact ⟨fun no => (nomatch no), fun ⟨positive, _⟩ => by omega⟩
  · exact ⟨fun same => ⟨by omega, (Except.ok.inj same).symm⟩, fun ⟨_, same⟩ => same ▸ rfl⟩

/-- An index has an id exactly if the id stands for that index. -/
theorem encode_eq_ok_iff : p.encode i = .ok id ↔ p.decode id = .ok i := by
  cases p with
  | classifier =>
    refine ofClassifierIndex_eq_ok.trans (Iff.trans ?_ toClassifierIndex_eq_ok.symm)
    omega
  | general =>
    refine ofGeneralIndex_eq_ok.trans (Iff.trans ?_ toGeneralIndex_eq_ok.symm)
    omega

/-! ## Words -/

theorem word?_eq_some_iff :
    p.word? i = some w ↔ ∃ id, p.encode i = .ok id ∧ BigEndian.signed? 4 id = some w := by
  unfold Pool.word?
  rw [Option.bind_eq_some_iff]
  simp only [Result.toOption_eq_some]

/-- A word is written for the index that is read from it. -/
theorem word?_eq_some : p.word? i = some w ↔ w.length = 4 ∧ p.index w = .ok i := by
  rw [word?_eq_some_iff]
  constructor
  · rintro ⟨id, encoded, written⟩
    obtain ⟨length, rfl⟩ := (BigEndian.signed?_eq_some_iff (by decide)).mp written
    exact ⟨length, encode_eq_ok_iff.mp encoded⟩
  · rintro ⟨length, decoded⟩
    exact ⟨_, encode_eq_ok_iff.mpr decoded,
      (BigEndian.signed?_eq_some_iff (by decide)).mpr ⟨length, rfl⟩⟩

/-- Which ids can be written as words. -/
theorem exists_signed?_iff :
    (∃ w, BigEndian.signed? 4 id = some w) ↔ -2 ^ 31 ≤ id ∧ id < 2 ^ 31 := by
  constructor
  · rintro ⟨w, written⟩
    exact (BigEndian.signed?_eq_some.mp written).1
  · exact fun fits => ⟨_, BigEndian.signed?_eq_some.mpr ⟨fits, rfl⟩⟩

/-- The indexes that have words go from zero to the last one of the pool. -/
theorem exists_word_iff : (∃ w, p.word? i = some w) ↔ 0 ≤ i ∧ i ≤ p.last := by
  have either : (∃ w, p.word? i = some w) ↔
      ∃ id, p.encode i = .ok id ∧ -2 ^ 31 ≤ id ∧ id < 2 ^ 31 := by
    simp only [word?_eq_some_iff, ← exists_signed?_iff]
    tauto
  rw [either]
  cases p with
  | classifier =>
    simp only [Pool.encode, Pool.last, ofClassifierIndex_eq_ok]
    exact ⟨fun ⟨_, known⟩ => by omega, fun known => ⟨-i - 1, by omega⟩⟩
  | general =>
    simp only [Pool.encode, Pool.last, ofGeneralIndex_eq_ok]
    exact ⟨fun ⟨_, known⟩ => by omega, fun known => ⟨i + 1, by omega⟩⟩

/-- The word of zeros, which no index has. -/
def blank : Octets := List.replicate 4 0

/-- The blank word is that of zero. -/
theorem eq_blank_iff (four : w.length = 4) : w = blank ↔ BigEndian.signedValue w = 0 := by
  constructor
  · rintro rfl
    decide
  · intro zero
    have written := (BigEndian.signed?_eq_some_iff (by decide)).mpr ⟨four, zero⟩
    exact Option.some.inj (written.symm.trans (by decide))

/-- A word stands for a classifier, for another text, or for none as the word of zeros. -/
theorem index_cases (four : w.length = 4) :
    (∃ i, Pool.general.index w = .ok i ∧
        Pool.classifier.index w = .error (.notClassifier (i + 1))) ∨
      (∃ i, Pool.classifier.index w = .ok i ∧
        Pool.general.index w = .error (.notGeneral (-i - 1))) ∨
      w = blank ∧ Pool.general.index w = .error (.notGeneral 0) ∧
        Pool.classifier.index w = .error (.notClassifier 0) := by
  rw [eq_blank_iff four]
  simp only [Pool.index, Pool.decode]
  generalize BigEndian.signedValue w = id
  rcases Int.lt_trichotomy id 0 with negative | rfl | positive
  · refine .inr (.inl ⟨-id - 1, toClassifierIndex_eq_ok.mpr ⟨negative, rfl⟩, ?_⟩)
    rw [toGeneralIndex, if_pos (by omega)]
    congr 2
    omega
  · exact .inr (.inr ⟨rfl, rfl, rfl⟩)
  · refine .inl ⟨id - 1, toGeneralIndex_eq_ok.mpr ⟨positive, rfl⟩, ?_⟩
    rw [toClassifierIndex, if_pos (by omega)]
    congr 2
    omega

/-- An index of the general pool has a word exactly from zero to 2³¹ - 2 and one of a classifier
exactly from zero to 2³¹ - 1. A word is written for an index of a pool exactly if it is read as that
index, and an index has an id exactly if the id stands for it. Of every word exactly one is true: it
is read as an index of the general pool and refused by the other one, it is read as an index of a
classifier and refused by the general pool, or it is the word of zeros and refused by both. -/
theorem words_of_indexes :
    (∀ i, (∃ w, Pool.general.word? i = some w) ↔ 0 ≤ i ∧ i ≤ 2 ^ 31 - 2) ∧
      (∀ i, (∃ w, Pool.classifier.word? i = some w) ↔ 0 ≤ i ∧ i ≤ 2 ^ 31 - 1) ∧
      (∀ (p : Pool) i w, p.word? i = some w ↔ w.length = 4 ∧ p.index w = .ok i) ∧
      (∀ (p : Pool) i id, p.encode i = .ok id ↔ p.decode id = .ok i) ∧
      ∀ w : Octets, w.length = 4 →
        (∃ i, Pool.general.index w = .ok i ∧
            Pool.classifier.index w = .error (.notClassifier (i + 1))) ∨
          (∃ i, Pool.classifier.index w = .ok i ∧
            Pool.general.index w = .error (.notGeneral (-i - 1))) ∨
          w = blank ∧ Pool.general.index w = .error (.notGeneral 0) ∧
            Pool.classifier.index w = .error (.notClassifier 0) :=
  ⟨fun _ => exists_word_iff, fun _ => exists_word_iff, fun _ _ _ => word?_eq_some,
    fun _ _ _ => encode_eq_ok_iff, fun _ => index_cases⟩

/-- The lowest word is that of the last classifier, which the general pool has no word for. -/
theorem words_at_lowest : ([128, 0, 0, 0] : Octets).length = 4 ∧
    Pool.classifier.word? (2 ^ 31 - 1) = some [128, 0, 0, 0] ∧
    (¬∃ w, Pool.general.word? (2 ^ 31 - 1) = some w) ∧
    Pool.general.index [128, 0, 0, 0] = .error (.notGeneral (-2 ^ 31)) := by
  obtain ⟨general, -, words, -, either⟩ := words_of_indexes
  have lowest : BigEndian.signedValue [128, 0, 0, 0] = -2 ^ 31 := by decide
  have read : Pool.classifier.index [128, 0, 0, 0] = .ok (2 ^ 31 - 1) := by
    rw [Pool.index, lowest]
    exact toClassifierIndex_eq_ok.mpr ⟨by omega, by omega⟩
  refine ⟨rfl, (words _ _ _).mpr ⟨rfl, read⟩, fun fits => ?_, ?_⟩
  · have fits := (general _).mp fits
    omega
  · rcases either [128, 0, 0, 0] rfl with ⟨i, -, refused⟩ | ⟨i, again, refused⟩ | ⟨-, -, refused⟩
    · cases read.symm.trans refused
    · cases read.symm.trans again
      exact refused
    · cases read.symm.trans refused

end StringId

end ModelForge
