import ModelForge.Proofs.Text.Utf8

/-! # Only UTF-8 is read

Whatever is decoded was written by encoding: no overlong form, no surrogate, no stray octet and no
character cut off is read as a text (`ModelForge.Utf8.decode_eq_ok`).
-/

namespace ModelForge

namespace Utf8

variable {pos n seen value owed : Nat} {low high b₀ b b₁ b₂ b₃ : UInt8} {bs : Octets}
  {cs : List Char}

/-! ## Characters by their octets -/

private theorem toUInt8_eq (same : b.toNat = n) : n.toUInt8 = b := by
  rw [← same]
  exact UInt8.toNat_inj.mp (by simp)

private theorem toNat_ofNat (scalar : n < 0xD800 ∨ 0xDFFF < n ∧ n < 0x110000) :
    (Char.ofNat n).toNat = n := by
  unfold Char.ofNat
  rw [dif_pos scalar]
  rfl

private theorem encodeChar_one (small : b.toNat < 0x80) :
    encodeChar (Char.ofNat b.toNat) = [b] := by
  unfold encodeChar
  simp only [toNat_ofNat (Or.inl (by omega : b.toNat < 0xD800)), small, ↓reduceIte]
  rw [toUInt8_eq rfl]

private theorem encodeChar_two (least : 0x80 ≤ n) (most : n < 0x800)
    (first : b.toNat = 0xC0 + n / 0x40) (second : b₁.toNat = 0x80 + n % 0x40) :
    encodeChar (Char.ofNat n) = [b, b₁] := by
  have notOne : ¬ n < 0x80 := by omega
  unfold encodeChar
  simp only [toNat_ofNat (Or.inl (by omega : n < 0xD800)), notOne, most, ↓reduceIte]
  rw [toUInt8_eq first, toUInt8_eq second]

private theorem encodeChar_three (least : 0x800 ≤ n) (most : n < 0x10000)
    (scalar : n < 0xD800 ∨ 0xDFFF < n) (first : b.toNat = 0xE0 + n / 0x1000)
    (second : b₁.toNat = 0x80 + n / 0x40 % 0x40) (third : b₂.toNat = 0x80 + n % 0x40) :
    encodeChar (Char.ofNat n) = [b, b₁, b₂] := by
  have notOne : ¬ n < 0x80 := by omega
  have notTwo : ¬ n < 0x800 := by omega
  have number := toNat_ofNat (scalar.imp_right fun above => ⟨above, (by omega : n < 0x110000)⟩)
  unfold encodeChar
  simp only [number, notOne, notTwo, most, ↓reduceIte]
  rw [toUInt8_eq first, toUInt8_eq second, toUInt8_eq third]

private theorem encodeChar_four (least : 0x10000 ≤ n) (most : n < 0x110000)
    (first : b.toNat = 0xF0 + n / 0x40000) (second : b₁.toNat = 0x80 + n / 0x1000 % 0x40)
    (third : b₂.toNat = 0x80 + n / 0x40 % 0x40) (fourth : b₃.toNat = 0x80 + n % 0x40) :
    encodeChar (Char.ofNat n) = [b, b₁, b₂, b₃] := by
  have notOne : ¬ n < 0x80 := by omega
  have notTwo : ¬ n < 0x800 := by omega
  have notThree : ¬ n < 0x10000 := by omega
  have number := toNat_ofNat (Or.inr ⟨(by omega : 0xDFFF < n), most⟩)
  unfold encodeChar
  simp only [number, notOne, notTwo, notThree, ↓reduceIte]
  rw [toUInt8_eq first, toUInt8_eq second, toUInt8_eq third, toUInt8_eq fourth]

/-! ## What a scan has read -/

/-- The octets that can stand first, by how many follow and between which bounds the next lies. -/
inductive LeadOctet (b : UInt8) : Nat → UInt8 → UInt8 → Prop
  | one {low high : UInt8} (most : b.toNat < 0x80) : LeadOctet b 0 low high
  | two (least : 0xC2 ≤ b.toNat) (most : b.toNat < 0xE0) : LeadOctet b 1 0x80 0xBF
  | three {low high : UInt8} (least : 0xE0 ≤ b.toNat) (most : b.toNat < 0xF0)
      (above : b.toNat = 0xE0 → 0xA0 ≤ low.toNat) (below : b.toNat = 0xED → high.toNat ≤ 0x9F)
      (bounds : 0x80 ≤ low.toNat ∧ high.toNat ≤ 0xBF) : LeadOctet b 2 low high
  | four {low high : UInt8} (least : 0xF0 ≤ b.toNat) (most : b.toNat ≤ 0xF4)
      (above : b.toNat = 0xF0 → 0x90 ≤ low.toNat) (below : b.toNat = 0xF4 → high.toNat ≤ 0x8F)
      (bounds : 0x80 ≤ low.toNat ∧ high.toNat ≤ 0xBF) : LeadOctet b 3 low high

/-- What the first octet of a character says. -/
theorem leadOctet_of_lead {tails : Nat} {low high : UInt8}
    (known : lead b = some (tails, low, high)) : LeadOctet b tails low high := by
  unfold lead at known
  simp only [UInt8.lt_iff_toNat_lt, ← UInt8.toNat_inj, UInt8.reduceToNat] at known
  split at known
  · cases known
    exact .one ‹_›
  split at known
  · cases known
  split at known
  · cases known
    exact .two (by omega) (by omega)
  split at known
  · cases known
    exact .three (by omega) (by omega) (fun _ => by decide) (fun is => by omega) (by decide)
  split at known
  · cases known
    exact .three (by omega) (by omega) (fun is => by omega) (fun _ => by decide) (by decide)
  split at known
  · cases known
    exact .three (by omega) (by omega) (fun is => by omega) (fun is => by omega) (by decide)
  split at known
  · cases known
    exact .four (by omega) (by omega) (fun _ => by decide) (fun is => by omega) (by decide)
  split at known
  · cases known
    exact .four (by omega) (by omega) (fun is => by omega) (fun is => by omega) (by decide)
  split at known
  · cases known
    exact .four (by omega) (by omega) (fun is => by omega) (fun _ => by decide) (by decide)
  · cases known

/-- A character that is owed one more octet is ended by the next one. -/
theorem scan_last
    (read : scan pos (some ⟨b₀, seen, value, 1, low, high⟩) bs = .ok (cs, .complete)) :
    ∃ b rest cs', bs = b :: rest ∧ low.toNat ≤ b.toNat ∧ b.toNat ≤ high.toNat ∧
      cs = Char.ofNat (value * 0x40 + (b.toNat - 0x80)) :: cs' ∧
      scan (pos + 1) none rest = .ok (cs', .complete) := by
  cases bs with
  | nil => cases read
  | cons b rest =>
    rw [scan] at read
    split at read
    · next within =>
      simp only [Nat.le_refl, ↓reduceIte] at read
      cases others : scan (pos + 1) none rest with
      | error f =>
        rw [others] at read
        cases read
      | ok outcome =>
        obtain ⟨cs', tail⟩ := outcome
        rw [others] at read
        cases read
        exact ⟨b, rest, cs', rfl, UInt8.le_iff_toNat_le.mp within.1,
          UInt8.le_iff_toNat_le.mp within.2, rfl, others⟩
    · cases read

/-- A character that is owed more than one octet goes on with the next one. -/
theorem scan_next
    (read : scan pos (some ⟨b₀, seen, value, owed + 2, low, high⟩) bs = .ok (cs, .complete)) :
    ∃ b rest, bs = b :: rest ∧ low.toNat ≤ b.toNat ∧ b.toNat ≤ high.toNat ∧
      scan (pos + 1) (some ⟨b₀, seen + 1, value * 0x40 + (b.toNat - 0x80), owed + 1, 0x80, 0xBF⟩)
        rest = .ok (cs, .complete) := by
  cases bs with
  | nil => cases read
  | cons b rest =>
    rw [scan] at read
    split at read
    · next within =>
      simp only [show ¬ owed + 2 ≤ 1 by omega, ↓reduceIte] at read
      exact ⟨b, rest, rfl, UInt8.le_iff_toNat_le.mp within.1, UInt8.le_iff_toNat_le.mp within.2,
        read⟩
    · cases read

/-- What is read between characters starts with the octets of a character. -/
theorem scan_first (read : scan pos none (b :: bs) = .ok (cs, .complete)) :
    ∃ c cs' rest pos', b :: bs = encodeChar c ++ rest ∧ rest.length ≤ bs.length ∧ cs = c :: cs' ∧
      scan pos' none rest = .ok (cs', .complete) := by
  rcases known : lead b with _ | ⟨tails, low, high⟩
  · rw [scan, known] at read
    cases read
  · cases leadOctet_of_lead known with
    | one most =>
      rw [scan, known] at read
      dsimp only at read
      cases others : scan (pos + 1) none bs with
      | error f =>
        rw [others] at read
        cases read
      | ok outcome =>
        obtain ⟨cs', tail⟩ := outcome
        rw [others] at read
        cases read
        exact ⟨_, cs', bs, _, by rw [encodeChar_one most]; rfl, Nat.le_refl _, rfl, others⟩
    | two least most =>
      have bits : leadBits 1 b = b.toNat - 0xC0 := rfl
      rw [scan_lead pos bs known bits] at read
      obtain ⟨b₁, rest, cs', rfl, above₁, below₁, rfl, others⟩ := scan_last read
      simp only [UInt8.reduceToNat] at above₁ below₁
      have octets : encodeChar (Char.ofNat ((b.toNat - 0xC0) * 0x40 + (b₁.toNat - 0x80))) =
          [b, b₁] := encodeChar_two (by omega) (by omega) (by omega) (by omega)
      exact ⟨_, cs', rest, _, by rw [octets]; rfl, by simp, rfl, others⟩
    | three least most above below bounds =>
      have bits : leadBits 2 b = b.toNat - 0xE0 := rfl
      rw [scan_lead pos bs known bits] at read
      obtain ⟨b₁, bs, rfl, above₁, below₁, read⟩ := scan_next read
      obtain ⟨b₂, rest, cs', rfl, above₂, below₂, rfl, others⟩ := scan_last read
      simp only [UInt8.reduceToNat] at above₂ below₂
      have octets : encodeChar (Char.ofNat
          (((b.toNat - 0xE0) * 0x40 + (b₁.toNat - 0x80)) * 0x40 + (b₂.toNat - 0x80))) =
          [b, b₁, b₂] :=
        encodeChar_three (by omega) (by omega) (by omega) (by omega) (by omega) (by omega)
      exact ⟨_, cs', rest, _, by rw [octets]; rfl, by simp; omega, rfl, others⟩
    | four least most above below bounds =>
      have bits : leadBits 3 b = b.toNat - 0xF0 := rfl
      rw [scan_lead pos bs known bits] at read
      obtain ⟨b₁, bs, rfl, above₁, below₁, read⟩ := scan_next read
      obtain ⟨b₂, bs, rfl, above₂, below₂, read⟩ := scan_next read
      obtain ⟨b₃, rest, cs', rfl, above₃, below₃, rfl, others⟩ := scan_last read
      simp only [UInt8.reduceToNat] at above₂ below₂ above₃ below₃
      have octets : encodeChar (Char.ofNat
          ((((b.toNat - 0xF0) * 0x40 + (b₁.toNat - 0x80)) * 0x40 + (b₂.toNat - 0x80)) * 0x40 +
            (b₃.toNat - 0x80))) = [b, b₁, b₂, b₃] :=
        encodeChar_four (by omega) (by omega) (by omega) (by omega) (by omega) (by omega)
      exact ⟨_, cs', rest, _, by rw [octets]; rfl, by simp; omega, rfl, others⟩

/-- What is read to the end is the encoding of what is read. -/
theorem eq_encodeChars_of_scan (read : scan pos none bs = .ok (cs, .complete)) :
    bs = encodeChars cs := by
  induction size : bs.length using Nat.strongRecOn generalizing pos bs cs with
  | _ k ih =>
    cases bs with
    | nil =>
      cases read
      rfl
    | cons b bs =>
      obtain ⟨c, cs', rest, pos', same, shorter, rfl, others⟩ := scan_first read
      rw [List.length_cons] at size
      rw [same, ih rest.length (by omega) others rfl]
      rfl

/-- What is decoded is exactly what is written. -/
theorem decode_eq_ok {s : String} : decode bs = .ok s ↔ bs = encode s := by
  constructor
  · intro decoded
    unfold decode decodeChars at decoded
    rcases read : scan 0 none bs with f | ⟨cs, tail⟩
    · rw [read] at decoded
      cases decoded
    · rw [read] at decoded
      cases tail with
      | complete =>
        cases decoded
        rw [encode, String.toList_ofList]
        exact eq_encodeChars_of_scan read
      | «open» start p => cases decoded
  · intro same
    rw [same]
    exact decode_encode s

end Utf8

end ModelForge
