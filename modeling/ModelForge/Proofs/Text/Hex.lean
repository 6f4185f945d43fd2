import ModelForge.Text.Hex

/-! # Reading back hexadecimal digits

The digits of octets are read back (`ModelForge.Hex.decodeChars?_encode`), so they tell octets apart
(`ModelForge.Hex.encode_injective`).
-/

namespace ModelForge

namespace Hex

/-- A digit is read back. -/
theorem digit?_hexDigit : ∀ n < 16, digit? (Utf8.hexDigit n) = some n := by decide

/-- The digits of octets are read back. -/
theorem decodeChars?_encode (bs : Octets) : decodeChars? (encode bs).toList = some bs := by
  induction bs with
  | nil => rfl
  | cons b bs ih =>
    have size := b.toNat_lt
    have octet : UInt8.ofNat (b.toNat / 16 * 16 + b.toNat % 16) = b := by
      rw [Nat.div_add_mod' b.toNat 16, UInt8.ofNat_toNat]
    unfold encode Utf8.hexPair at ih ⊢
    rw [List.map_cons, String.join_cons, String.toList_append, String.toList_ofList]
    have high := digit?_hexDigit (b.toNat / 16) (by omega)
    have low := digit?_hexDigit (b.toNat % 16) (by omega)
    simp only [List.cons_append, List.nil_append, decodeChars?, high, low, ih]
    exact congrArg (fun b => some (b :: bs)) octet

/-- Octets are told apart by their digits. -/
theorem encode_injective : Function.Injective encode := by
  intro a b same
  have read := decodeChars?_encode a
  rw [same, decodeChars?_encode] at read
  exact (Option.some.inj read).symm

end Hex

end ModelForge
