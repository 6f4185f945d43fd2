import ModelForge.Proofs.Step
import ModelForge.Proofs.Text.Utf8Strict

/-! # UTF-8 read block by block

A scan is a run of steps, one for each octet, and a step depends on the character that is open and
not on the position (`ModelForge.Utf8.outcome_scan`). So reading block by block, with the character
that is open at the end of a block carried into the next one, gives what reading all octets at once
gives, and exactly the encoding of a text is read (`ModelForge.Utf8.decodeBlocks_eq_ok`).
-/

namespace ModelForge

namespace Utf8

/-- The character that is open behind the complete ones. -/
def Tail.opened : Tail → Option Partial
  | .complete => none
  | .open _ p => some p

/-- Some characters, and the character that is open behind them. -/
abbrev Outcome := List Char × Option Partial

/-- What an octet makes of the character that is open: a character, if it ends one, and the
character that is then open. -/
def step (b : UInt8) : Option Partial → Option Outcome
  | none =>
    match lead b with
    | none => none
    | some (0, _, _) => some ([Char.ofNat b.toNat], none)
    | some (tails, low, high) => some ([], some ⟨b, 1, leadBits tails b, tails, low, high⟩)
  | some p =>
    let value := p.value * 0x40 + (b.toNat - 0x80)
    if p.low ≤ b ∧ b ≤ p.high then
      if p.owed ≤ 1 then some ([Char.ofNat value], none)
      else some ([], some ⟨p.first, p.seen + 1, value, p.owed - 1, 0x80, 0xBF⟩)
    else none

/-- An outcome with characters in front. -/
def Outcome.behind (cs : List Char) (o : Outcome) : Outcome := (cs ++ o.1, o.2)

/-- What octets come to one after the other. -/
def steps : Option Partial → Octets → Option Outcome
  | held, [] => some ([], held)
  | held, b :: rest => (step b held).bind fun now => (steps now.2 rest).map (.behind now.1)

/-- What a scan comes to, without the positions in it. -/
def outcome (read : Except Fault (List Char × Tail)) : Option Outcome :=
  read.toOption.map fun o => (o.1, o.2.opened)

variable {fuel : Nat} {held : Option Partial} {bs : Octets} {cs : List Char}

theorem map_behind_nil (read : Option Outcome) : read.map (.behind []) = read := by
  cases read <;> rfl

/-- A character in front comes first in the outcome. -/
theorem outcome_cons (c : Char) (read : Except Fault (List Char × Tail)) :
    outcome (do let (cs, tail) ← read; return (c :: cs, tail)) =
      (outcome read).map (.behind [c]) := by
  cases read <;> rfl

/-- A scan from any position is a run of steps. -/
theorem outcome_scan (pos : Nat) (held : Option Partial) (bs : Octets) :
    outcome (scan pos held bs) = steps held bs := by
  induction bs generalizing pos held with
  | nil => cases held <;> rfl
  | cons b rest ih =>
    rw [steps]
    cases held with
    | none =>
      rw [scan, step]
      rcases lead b with _ | ⟨tails, low, high⟩
      · rfl
      · cases tails with
        | zero =>
          change outcome (do
            let (cs, tail) ← scan (pos + 1) none rest
            return (Char.ofNat b.toNat :: cs, tail)) = _
          rw [outcome_cons, ih]
          rfl
        | succ tails =>
          exact (ih (pos + 1) _).trans (map_behind_nil _).symm
    | some p =>
      rw [scan, step]
      dsimp only
      split
      · split
        · rw [outcome_cons, ih]
          rfl
        · rw [ih]
          exact (map_behind_nil _).symm
      · rfl

/-- Reading on is reading what is left with the character that is open. -/
theorem steps_append (held : Option Partial) (front back : Octets) :
    steps held (front ++ back) =
      (steps held front).bind fun o => (steps o.2 back).map (.behind o.1) := by
  induction front generalizing held with
  | nil => exact (map_behind_nil _).symm
  | cons b rest ih =>
    rw [List.cons_append, steps, steps, Option.bind_assoc]
    refine congrArg _ (funext fun now => ?_)
    rw [ih, Option.map_bind, Option.bind_map]
    refine congrArg _ (funext fun o => ?_)
    rw [Function.comp_apply, Option.map_map]
    refine congrArg (fun f => Option.map f _) (funext fun o' => ?_)
    exact congrArg (fun cs => (cs, o'.2)) (List.append_assoc now.1 o.1 o'.1).symm

/-- The characters of an outcome behind which no character is open. -/
def Outcome.closed : Outcome → Option (List Char)
  | (cs, none) => some cs
  | (_, some _) => none

/-- Characters in front of a closed outcome stand in front of its characters. -/
theorem closed_behind (cs : List Char) (o : Outcome) :
    (o.behind cs).closed = o.closed.map (cs ++ ·) := by
  obtain ⟨cs', _ | p⟩ := o <;> rfl

/-- Reading block by block, one block at a time. -/
theorem toOption_scanBlocks_cons (some_octet : bs ≠ []) :
    (scanBlocks (fuel + 1) held bs).toOption =
      (steps held (bs.take blockSize)).bind fun o =>
        (scanBlocks fuel o.2 (bs.drop blockSize)).toOption.map (o.1 ++ ·) := by
  have nonempty : bs.isEmpty = false := by
    rw [List.isEmpty_eq_false_iff]
    exact some_octet
  rw [← outcome_scan ((held.map Partial.seen).getD 0)]
  conv_lhs => unfold scanBlocks
  simp only [nonempty, Bool.false_eq_true, ↓reduceIte]
  rcases scan ((held.map Partial.seen).getD 0) held (bs.take blockSize) with f | ⟨cs, tail⟩
  · rfl
  · cases tail with
    | complete =>
      change (scanBlocks fuel none (bs.drop blockSize) >>= fun more => .ok (cs ++ more)).toOption =
        (scanBlocks fuel none (bs.drop blockSize)).toOption.map (cs ++ ·)
      cases scanBlocks fuel none (bs.drop blockSize) <;> rfl
    | «open» start p =>
      change (scanBlocks fuel (some p) (bs.drop blockSize) >>= fun more =>
          .ok (cs ++ more)).toOption =
        (scanBlocks fuel (some p) (bs.drop blockSize)).toOption.map (cs ++ ·)
      cases scanBlocks fuel (some p) (bs.drop blockSize) <;> rfl

/-- Reading block by block with enough fuel gives what one run of steps gives, if no character is
open behind it. -/
theorem toOption_scanBlocks (enough : bs.length ≤ fuel * blockSize) :
    (scanBlocks (fuel + 1) held bs).toOption = (steps held bs).bind Outcome.closed := by
  induction fuel generalizing held bs with
  | zero =>
    rw [List.eq_nil_of_length_eq_zero (by omega : bs.length = 0)]
    cases held <;> rfl
  | succ fuel ih =>
    by_cases empty : bs = []
    · rw [empty]
      cases held <;> rfl
    · have shorter : (bs.drop blockSize).length ≤ fuel * blockSize := by
        rw [List.length_drop]
        rw [Nat.add_mul] at enough
        omega
      have halves := steps_append held (bs.take blockSize) (bs.drop blockSize)
      rw [List.take_append_drop] at halves
      rw [toOption_scanBlocks_cons empty, halves, Option.bind_assoc]
      refine congrArg _ (funext fun o => ?_)
      rw [ih shorter, Option.bind_map, Option.map_bind]
      exact congrArg _ (funext fun o' => (closed_behind o.1 o').symm)

/-- What is read block by block is exactly what is written. -/
theorem decodeBlocks_eq_ok : decodeBlocks bs = .ok cs ↔ bs = encodeChars cs := by
  have enough : bs.length ≤ (bs.length / blockSize + 1) * blockSize := by
    have := Nat.div_add_mod bs.length blockSize
    have := Nat.mod_lt bs.length (by decide : blockSize > 0)
    rw [Nat.add_mul, Nat.mul_comm]
    omega
  have whole : decodeBlocks bs = .ok cs ↔ (steps none bs).bind Outcome.closed = some cs := by
    rw [← Result.toOption_eq_some, ← toOption_scanBlocks enough]
    rfl
  rw [whole]
  constructor
  · intro read
    obtain ⟨⟨cs', last⟩, run, closed⟩ := Option.bind_eq_some_iff.mp read
    rw [← outcome_scan 0] at run
    obtain ⟨⟨cs'', tail⟩, scanned, same⟩ := Option.map_eq_some_iff.mp run
    cases tail with
    | complete =>
      cases same
      cases closed
      exact eq_encodeChars_of_scan (Result.toOption_eq_some.mp scanned)
    | «open» start p =>
      cases same
      cases closed
  · rintro rfl
    rw [← outcome_scan 0, scan_encodeChars]
    rfl

end Utf8

end ModelForge
