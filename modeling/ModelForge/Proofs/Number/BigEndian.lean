import Mathlib.Data.List.Induction
import ModelForge.Number.BigEndian

/-! # Fields of octets

A number that was written into a field is read back from it, with its sign
(`ModelForge.BigEndian.value_of_unsigned?`, `ModelForge.BigEndian.signedValue_of_signed?`), and a
field holds as many octets as it is wide. The octets of a field stand for one integer, and they are
what is written for it (`ModelForge.BigEndian.signed?_eq_some_iff`).
-/

namespace ModelForge

namespace BigEndian

variable {width n : Nat} {i : Int} {bs : Octets}

theorem capacity_succ (width : Nat) : capacity (width + 1) = capacity width * 256 :=
  Nat.pow_succ 256 width

theorem capacity_pos (width : Nat) : 0 < capacity width := Nat.pow_pos (by decide)

/-- A number of a width has as many octets. -/
@[simp]
theorem length_octets (width n : Nat) : (octets width n).length = width := by
  induction width generalizing n with
  | zero => rfl
  | succ width ih => rw [octets, List.length_append, ih]; rfl

/-- The last octet counts for itself, those before for 256 times what they are. -/
theorem value_append_singleton (bs : Octets) (b : UInt8) :
    value (bs ++ [b]) = value bs * 256 + b.toNat := by
  simp only [value, List.foldl_append, List.foldl_cons, List.foldl_nil]

/-- The octets of a number that fits stand for that number. -/
theorem value_octets (fits : n < capacity width) : value (octets width n) = n := by
  induction width generalizing n with
  | zero =>
    have zero : n = 0 := Nat.lt_one_iff.mp fits
    subst zero
    rfl
  | succ width ih =>
    rw [capacity_succ] at fits
    have low : n.toUInt8.toNat = n % 256 := rfl
    rw [octets, value_append_singleton, ih (by omega), low]
    omega

/-- Octets stand for a number that fits a field of their width. -/
theorem value_lt_capacity (bs : Octets) : value bs < capacity bs.length := by
  induction bs using List.reverseRecOn with
  | nil => exact capacity_pos 0
  | append_singleton bs b ih =>
    have octet : b.toNat < 256 := b.toNat_lt
    rw [value_append_singleton, List.length_append, List.length_singleton, capacity_succ]
    omega

/-- A natural number is written if it fits its field. -/
theorem unsigned?_eq_some :
    unsigned? width n = some bs ↔ n < capacity width ∧ bs = octets width n := by
  unfold unsigned?
  split
  · next fits => simp only [Option.some.injEq, fits, true_and, eq_comm]
  · next large => simp only [reduceCtorEq, large, false_and]

/-- An integer is written if it fits its field, as what it leaves over by the capacity. -/
theorem signed?_eq_some :
    signed? width i = some bs ↔
      (-((capacity width / 2 : Nat) : Int) ≤ i ∧ i < ((capacity width / 2 : Nat) : Int)) ∧
        bs = octets width (i % (capacity width : Int)).toNat := by
  unfold signed?
  dsimp only
  split
  · next fits => simp only [Option.some.injEq, fits, true_and, and_self, eq_comm]
  · next large => simp only [reduceCtorEq, large, false_and]

/-- What was written has the width it was written with. -/
theorem length_of_unsigned? (written : unsigned? width n = some bs) : bs.length = width := by
  rw [(unsigned?_eq_some.mp written).2, length_octets]

/-- A natural number is read back from its field. -/
theorem value_of_unsigned? (written : unsigned? width n = some bs) : value bs = n := by
  obtain ⟨fits, rfl⟩ := unsigned?_eq_some.mp written
  exact value_octets fits

/-- A field of a signed number is as long as its width. -/
theorem length_of_signed? (written : signed? width i = some bs) : bs.length = width := by
  rw [(signed?_eq_some.mp written).2, length_octets]

/-- There is an even number of numbers of a width. -/
theorem two_mul_capacity_div_two (wide : 0 < width) :
    2 * (capacity width / 2) = capacity width := by
  obtain ⟨lower, rfl⟩ := Nat.exists_eq_succ_of_ne_zero (Nat.pos_iff_ne_zero.mp wide)
  rw [Nat.succ_eq_add_one, capacity_succ]
  omega

/-- An integer is read back from its field. -/
theorem signedValue_of_signed? (wide : 0 < width) (written : signed? width i = some bs) :
    signedValue bs = i := by
  obtain ⟨⟨least, most⟩, rfl⟩ := signed?_eq_some.mp written
  have even := two_mul_capacity_div_two wide
  have positive : (0 : Int) < capacity width := Int.natCast_pos.mpr (capacity_pos width)
  have least0 := Int.emod_nonneg i (Int.ne_of_gt positive)
  have below := Int.emod_lt_of_pos i positive
  have representation : (((i % (capacity width : Int)).toNat : Nat) : Int) =
      i % (capacity width : Int) := Int.toNat_of_nonneg least0
  unfold signedValue
  rw [length_octets, value_octets (by omega)]
  dsimp only
  -- A negative number stands in the upper half of the field, by the capacity too high.
  rcases Int.lt_or_le i 0 with negative | natural
  · have wrapped : i % (capacity width : Int) = i + capacity width := by
      rw [← Int.add_emod_right]
      exact Int.emod_eq_of_lt (by omega) (by omega)
    rw [if_neg (by omega), representation, wrapped]
    omega
  · have plain : i % (capacity width : Int) = i := Int.emod_eq_of_lt natural (by omega)
    rw [if_pos (by omega), representation, plain]

/-- Octets are those of the number that they stand for. -/
theorem octets_value (bs : Octets) : octets bs.length (value bs) = bs := by
  induction bs using List.reverseRecOn with
  | nil => rfl
  | append_singleton bs b ih =>
    have octet : b.toNat < 256 := b.toNat_lt
    have above : (value bs * 256 + b.toNat) / 256 = value bs := by omega
    have last : (value bs * 256 + b.toNat).toUInt8 = b := by
      apply UInt8.toNat_inj.mp
      change (value bs * 256 + b.toNat) % 256 = b.toNat
      omega
    rw [value_append_singleton, List.length_append, List.length_singleton, octets, above, last, ih]

/-- Octets are written for the integer that they stand for. -/
theorem signed?_signedValue (wide : 0 < bs.length) :
    signed? bs.length (signedValue bs) = some bs := by
  have even := two_mul_capacity_div_two wide
  have below := value_lt_capacity bs
  unfold signedValue
  dsimp only
  split
  · next natural =>
    have plain : (value bs : Int) % (capacity bs.length : Int) = value bs :=
      Int.emod_eq_of_lt (by omega) (by omega)
    refine signed?_eq_some.mpr ⟨by omega, ?_⟩
    rw [plain, Int.toNat_natCast, octets_value]
  · next negative =>
    have wrapped : ((value bs : Int) - capacity bs.length) % (capacity bs.length : Int) =
        value bs := by
      rw [Int.sub_emod_right]
      exact Int.emod_eq_of_lt (by omega) (by omega)
    refine signed?_eq_some.mpr ⟨by omega, ?_⟩
    rw [wrapped, Int.toNat_natCast, octets_value]

/-- An integer is written as those octets of the width of its field that stand for it. -/
theorem signed?_eq_some_iff (wide : 0 < width) :
    signed? width i = some bs ↔ bs.length = width ∧ signedValue bs = i := by
  constructor
  · exact fun written => ⟨length_of_signed? written, signedValue_of_signed? wide written⟩
  · rintro ⟨rfl, rfl⟩
    exact signed?_signedValue wide

end BigEndian

end ModelForge
