import ModelForge.Text.Utf8

/-! # Reading back what was written as UTF-8

Decoding undoes encoding (`ModelForge.Utf8.decode_encode`): the octets of a character are read as
that character wherever they stand, so the octets of a text are read character by character.
-/

namespace ModelForge

namespace Utf8

/-- What a character in front adds to the outcome of reading the rest. -/
def withChar (c : Char) (outcome : List Char × Tail) : List Char × Tail :=
  (c :: outcome.1, outcome.2)

private theorem bind_withChar (c : Char) (read : Except Fault (List Char × Tail)) :
    (do let (cs, tail) ← read; return (c :: cs, tail)) = read.map (withChar c) := by
  cases read <;> rfl

private theorem toNat_toUInt8 {n : Nat} (small : n < 256) : n.toUInt8.toNat = n :=
  UInt8.toNat_ofNat_of_lt' small

private theorem lead_ascii {b : UInt8} (small : b.toNat < 0x80) :
    lead b = some (0, 0x80, 0xBF) := by
  have below : b < 0x80 := UInt8.lt_iff_toNat_lt.mpr small
  simp only [lead, below, ↓reduceIte]

private theorem lead_two {b : UInt8} (least : 0xC2 ≤ b.toNat) (most : b.toNat < 0xE0) :
    lead b = some (1, 0x80, 0xBF) := by
  have not80 : ¬ b < 0x80 := by rw [UInt8.lt_iff_toNat_lt]; change ¬ b.toNat < 0x80; omega
  have notC2 : ¬ b < 0xC2 := by rw [UInt8.lt_iff_toNat_lt]; change ¬ b.toNat < 0xC2; omega
  have belowE0 : b < 0xE0 := UInt8.lt_iff_toNat_lt.mpr most
  simp only [lead, not80, notC2, belowE0, ↓reduceIte]

/-- A first octet that calls for two more bounds the next one so that only scalar values fit. -/
private theorem lead_three {b : UInt8} (least : 0xE0 ≤ b.toNat) (most : b.toNat < 0xF0) :
    ∃ low high, lead b = some (2, low, high) ∧
      low.toNat = (if b.toNat = 0xE0 then 0xA0 else 0x80) ∧
      high.toNat = (if b.toNat = 0xED then 0x9F else 0xBF) := by
  have not80 : ¬ b < 0x80 := by rw [UInt8.lt_iff_toNat_lt]; change ¬ b.toNat < 0x80; omega
  have notC2 : ¬ b < 0xC2 := by rw [UInt8.lt_iff_toNat_lt]; change ¬ b.toNat < 0xC2; omega
  have notE0 : ¬ b < 0xE0 := by rw [UInt8.lt_iff_toNat_lt]; change ¬ b.toNat < 0xE0; omega
  have belowF0 : b < 0xF0 := UInt8.lt_iff_toNat_lt.mpr most
  by_cases isE0 : b = 0xE0
  · subst isE0
    exact ⟨0xA0, 0xBF, rfl, rfl, rfl⟩
  · by_cases isED : b = 0xED
    · subst isED
      exact ⟨0x80, 0x9F, rfl, rfl, rfl⟩
    · have otherE0 : b.toNat ≠ 0xE0 := fun same => isE0 (UInt8.toNat_inj.mp same)
      have otherED : b.toNat ≠ 0xED := fun same => isED (UInt8.toNat_inj.mp same)
      refine ⟨0x80, 0xBF, ?_, by simp [otherE0], by simp [otherED]⟩
      simp only [lead, not80, notC2, notE0, isE0, isED, belowF0, ↓reduceIte]

/-- A first octet that calls for three more bounds the next one so that only scalar values fit. -/
private theorem lead_four {b : UInt8} (least : 0xF0 ≤ b.toNat) (most : b.toNat ≤ 0xF4) :
    ∃ low high, lead b = some (3, low, high) ∧
      low.toNat = (if b.toNat = 0xF0 then 0x90 else 0x80) ∧
      high.toNat = (if b.toNat = 0xF4 then 0x8F else 0xBF) := by
  have not80 : ¬ b < 0x80 := by rw [UInt8.lt_iff_toNat_lt]; change ¬ b.toNat < 0x80; omega
  have notC2 : ¬ b < 0xC2 := by rw [UInt8.lt_iff_toNat_lt]; change ¬ b.toNat < 0xC2; omega
  have notE0 : ¬ b < 0xE0 := by rw [UInt8.lt_iff_toNat_lt]; change ¬ b.toNat < 0xE0; omega
  have notF0 : ¬ b < 0xF0 := by rw [UInt8.lt_iff_toNat_lt]; change ¬ b.toNat < 0xF0; omega
  have isNotE0 : b ≠ 0xE0 := by intro same; subst same; simp at least
  have isNotED : b ≠ 0xED := by intro same; subst same; simp at least
  by_cases isF0 : b = 0xF0
  · subst isF0
    exact ⟨0x90, 0xBF, rfl, rfl, rfl⟩
  · by_cases isF4 : b = 0xF4
    · subst isF4
      exact ⟨0x80, 0x8F, rfl, rfl, rfl⟩
    · have otherF0 : b.toNat ≠ 0xF0 := fun same => isF0 (UInt8.toNat_inj.mp same)
      have otherF4 : b.toNat ≠ 0xF4 := fun same => isF4 (UInt8.toNat_inj.mp same)
      have belowF4 : b < 0xF4 := by
        rw [UInt8.lt_iff_toNat_lt]; change b.toNat < 0xF4; omega
      refine ⟨0x80, 0xBF, ?_, by simp [otherF0], by simp [otherF4]⟩
      simp only [lead, not80, notC2, notE0, notF0, isNotE0, isNotED, isF0, belowF4, ↓reduceIte]

/-- An octet that starts a character of several octets. -/
theorem scan_lead (pos : Nat) {b : UInt8} {tails : Nat} {low high : UInt8} (rest : Octets)
    (leads : lead b = some (tails + 1, low, high)) {bits : Nat}
    (value : leadBits (tails + 1) b = bits) :
    scan pos none (b :: rest) =
      scan (pos + 1) (some ⟨b, 1, bits, tails + 1, low, high⟩) rest := by
  rw [scan, leads, ← value]
  rfl

/-- An octet that continues a character without ending it. -/
private theorem scan_open (pos : Nat) (p : Partial) (b : UInt8) (rest : Octets)
    (low : p.low.toNat ≤ b.toNat) (high : b.toNat ≤ p.high.toNat) (more : 1 < p.owed) :
    scan pos (some p) (b :: rest) =
      scan (pos + 1)
        (some ⟨p.first, p.seen + 1, p.value * 0x40 + (b.toNat - 0x80), p.owed - 1, 0x80, 0xBF⟩)
        rest := by
  have within : p.low ≤ b ∧ b ≤ p.high :=
    ⟨UInt8.le_iff_toNat_le.mpr low, UInt8.le_iff_toNat_le.mpr high⟩
  rw [scan, if_pos within]
  simp only [show ¬ p.owed ≤ 1 by omega, ↓reduceIte]

/-- An octet that ends a character. -/
private theorem scan_close (pos : Nat) (p : Partial) (b : UInt8) (rest : Octets)
    (low : p.low.toNat ≤ b.toNat) (high : b.toNat ≤ p.high.toNat) (last : p.owed = 1) :
    scan pos (some p) (b :: rest) =
      (scan (pos + 1) none rest).map
        (withChar (Char.ofNat (p.value * 0x40 + (b.toNat - 0x80)))) := by
  have within : p.low ≤ b ∧ b ≤ p.high :=
    ⟨UInt8.le_iff_toNat_le.mpr low, UInt8.le_iff_toNat_le.mpr high⟩
  rw [scan, if_pos within]
  simp only [show p.owed ≤ 1 by omega, ↓reduceIte]
  exact bind_withChar _ _

/-- A number below `0x80` is written as one octet. -/
private theorem scan_one {n : Nat} (most : n < 0x80) (rest : Octets) (pos : Nat) :
    scan pos none (n.toUInt8 :: rest) =
      (scan (pos + 1) none rest).map (withChar (Char.ofNat n)) := by
  have first : n.toUInt8.toNat = n := toNat_toUInt8 (by omega)
  rw [scan, lead_ascii (by omega)]
  simp only [first]
  exact bind_withChar _ _

private theorem scan_two {n : Nat} (least : 0x80 ≤ n) (most : n < 0x800) (rest : Octets)
    (pos : Nat) :
    scan pos none ((0xC0 + n / 0x40).toUInt8 :: (0x80 + n % 0x40).toUInt8 :: rest) =
      (scan (pos + 2) none rest).map (withChar (Char.ofNat n)) := by
  have first : (0xC0 + n / 0x40).toUInt8.toNat = 0xC0 + n / 0x40 := toNat_toUInt8 (by omega)
  have second : (0x80 + n % 0x40).toUInt8.toNat = 0x80 + n % 0x40 := toNat_toUInt8 (by omega)
  have bits : leadBits 1 (0xC0 + n / 0x40).toUInt8 = n / 0x40 := by
    change (0xC0 + n / 0x40).toUInt8.toNat - 0xC0 = _
    omega
  rw [scan_lead pos _ (lead_two (by omega) (by omega)) bits]
  rw [scan_close _ _ _ _ (by rw [second]; exact Nat.le_add_right _ _)
    (by rw [second]; change _ ≤ 0xBF; omega) (by rfl)]
  simp only [second]
  rw [show n / 0x40 * 0x40 + (0x80 + n % 0x40 - 0x80) = n by omega]

private theorem scan_three {n : Nat} (least : 0x800 ≤ n) (most : n < 0x10000)
    (scalar : n < 0xD800 ∨ 0xDFFF < n) (rest : Octets) (pos : Nat) :
    scan pos none ((0xE0 + n / 0x1000).toUInt8 :: (0x80 + n / 0x40 % 0x40).toUInt8 ::
        (0x80 + n % 0x40).toUInt8 :: rest) =
      (scan (pos + 3) none rest).map (withChar (Char.ofNat n)) := by
  have first : (0xE0 + n / 0x1000).toUInt8.toNat = 0xE0 + n / 0x1000 := toNat_toUInt8 (by omega)
  have second : (0x80 + n / 0x40 % 0x40).toUInt8.toNat = 0x80 + n / 0x40 % 0x40 :=
    toNat_toUInt8 (by omega)
  have third : (0x80 + n % 0x40).toUInt8.toNat = 0x80 + n % 0x40 := toNat_toUInt8 (by omega)
  obtain ⟨low, high, leads, lowIs, highIs⟩ :=
    lead_three (b := (0xE0 + n / 0x1000).toUInt8) (by omega) (by omega)
  have bits : leadBits 2 (0xE0 + n / 0x1000).toUInt8 = n / 0x1000 := by
    change (0xE0 + n / 0x1000).toUInt8.toNat - 0xE0 = _
    omega
  rw [scan_lead pos _ leads bits]
  -- The bounds of the second octet leave out overlong forms and surrogates.
  rw [scan_open _ _ _ _ (by rw [second, lowIs, first]; split <;> omega)
    (by rw [second, highIs, first]; split <;> omega) (by simp)]
  rw [scan_close _ _ _ _ (by rw [third]; exact Nat.le_add_right _ _)
    (by rw [third]; change _ ≤ 0xBF; omega) (by rfl)]
  simp only [second, third]
  rw [show (n / 0x1000 * 0x40 + (0x80 + n / 0x40 % 0x40 - 0x80)) * 0x40 +
    (0x80 + n % 0x40 - 0x80) = n by omega]

private theorem scan_four {n : Nat} (least : 0x10000 ≤ n) (most : n < 0x110000) (rest : Octets)
    (pos : Nat) :
    scan pos none ((0xF0 + n / 0x40000).toUInt8 :: (0x80 + n / 0x1000 % 0x40).toUInt8 ::
        (0x80 + n / 0x40 % 0x40).toUInt8 :: (0x80 + n % 0x40).toUInt8 :: rest) =
      (scan (pos + 4) none rest).map (withChar (Char.ofNat n)) := by
  have first : (0xF0 + n / 0x40000).toUInt8.toNat = 0xF0 + n / 0x40000 :=
    toNat_toUInt8 (by omega)
  have second : (0x80 + n / 0x1000 % 0x40).toUInt8.toNat = 0x80 + n / 0x1000 % 0x40 :=
    toNat_toUInt8 (by omega)
  have third : (0x80 + n / 0x40 % 0x40).toUInt8.toNat = 0x80 + n / 0x40 % 0x40 :=
    toNat_toUInt8 (by omega)
  have fourth : (0x80 + n % 0x40).toUInt8.toNat = 0x80 + n % 0x40 := toNat_toUInt8 (by omega)
  obtain ⟨low, high, leads, lowIs, highIs⟩ :=
    lead_four (b := (0xF0 + n / 0x40000).toUInt8) (by omega) (by omega)
  have bits : leadBits 3 (0xF0 + n / 0x40000).toUInt8 = n / 0x40000 := by
    change (0xF0 + n / 0x40000).toUInt8.toNat - 0xF0 = _
    omega
  rw [scan_lead pos _ leads bits]
  rw [scan_open _ _ _ _ (by rw [second, lowIs, first]; split <;> omega)
    (by rw [second, highIs, first]; split <;> omega) (by simp)]
  rw [scan_open _ _ _ _ (by rw [third]; exact Nat.le_add_right _ _)
    (by rw [third]; change _ ≤ 0xBF; omega) (by simp)]
  rw [scan_close _ _ _ _ (by rw [fourth]; exact Nat.le_add_right _ _)
    (by rw [fourth]; change _ ≤ 0xBF; omega) (by rfl)]
  simp only [second, third, fourth]
  rw [show ((n / 0x40000 * 0x40 + (0x80 + n / 0x1000 % 0x40 - 0x80)) * 0x40 +
    (0x80 + n / 0x40 % 0x40 - 0x80)) * 0x40 + (0x80 + n % 0x40 - 0x80) = n by omega]

/-- The octets of a character are read as that character wherever they stand. -/
theorem scan_encodeChar (c : Char) (rest : Octets) (pos : Nat) :
    scan pos none (encodeChar c ++ rest) =
      (scan (pos + (encodeChar c).length) none rest).map (withChar c) := by
  have scalar : c.toNat < 0xD800 ∨ 0xDFFF < c.toNat ∧ c.toNat < 0x110000 := c.valid
  have back : Char.ofNat c.toNat = c := Char.ofNat_toNat c
  unfold encodeChar
  dsimp only
  generalize c.toNat = n at scalar back
  subst back
  split
  · next one => exact scan_one one rest pos
  · next notOne =>
    split
    · next two => exact scan_two (by omega) two rest pos
    · next notTwo =>
      split
      · next three => exact scan_three (by omega) three (by omega) rest pos
      · next notThree => exact scan_four (by omega) (by omega) rest pos

/-- The octets of characters are read as those characters, and nothing is left open. -/
theorem scan_encodeChars (cs : List Char) (pos : Nat) :
    scan pos none (encodeChars cs) = .ok (cs, .complete) := by
  induction cs generalizing pos with
  | nil => rfl
  | cons c rest ih =>
    have split : encodeChars (c :: rest) = encodeChar c ++ encodeChars rest := rfl
    rw [split, scan_encodeChar, ih]
    rfl

/-- Decoding characters undoes encoding them. -/
theorem decodeChars_encodeChars (cs : List Char) : decodeChars (encodeChars cs) = .ok cs := by
  unfold decodeChars
  rw [scan_encodeChars]
  rfl

/-- Decoding a text undoes encoding it. -/
theorem decode_encode (s : String) : decode (encode s) = .ok s := by
  unfold decode encode
  rw [decodeChars_encodeChars]
  exact congrArg Except.ok (String.ofList_toList)

/-- Texts are told apart by their octets. -/
theorem encode_injective : Function.Injective encode := by
  intro a b same
  have read := decode_encode a
  rw [same, decode_encode] at read
  exact (Except.ok.inj read).symm

end Utf8

end ModelForge
