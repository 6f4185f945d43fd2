import ModelForge.Metadata.Read
import ModelForge.Proofs.Number.BigEndian
import ModelForge.Proofs.Step
import ModelForge.Proofs.Text.Utf8

/-! # Fields that are read back

What was written into a field is read from the front of any octets that start with that field, and
nothing more is taken (`ModelForge.Metadata.run_natural`, `ModelForge.Metadata.run_integer`,
`ModelForge.Metadata.run_text`).
-/

namespace ModelForge

namespace Metadata

variable {α β : Type} {x : Extent} {bs rest : Octets}

/-- Reading goes on with what the first step has left. -/
theorem run_bind_of_ok {step : Decode α} {input : Octets} {a : α}
    (first : step.run input = .ok (a, rest)) (next : α → Decode β) :
    (step >>= next).run input = (next a).run rest := by
  rw [StateT.run_bind, first]
  rfl

theorem run_get (input : Octets) : (get : Decode Octets).run input = .ok (input, input) := rfl

/-- Octets in front are taken as they are. -/
theorem run_take (x : Extent) (bs rest : Octets) :
    (take x bs.length).run (bs ++ rest) = .ok (bs, rest) := by
  unfold take
  rw [run_bind_of_ok (run_get _)]
  simp only [List.take_left, Nat.lt_irrefl, ↓reduceIte, List.drop_left]
  rfl

/-- A field takes as many octets as it is wide. -/
theorem run_field (x : Extent) (bs rest : Octets) :
    (field x bs.length).run (bs ++ rest) = .ok (bs, rest) := by
  unfold field
  rw [run_bind_of_ok (run_get _)]
  simp only [List.take_left, Nat.lt_irrefl, ↓reduceIte, List.drop_left]
  rfl

/-- A count is written exactly if it fits. -/
theorem count_eq_ok {width n : Nat} :
    count width n = .ok bs ↔ BigEndian.unsigned? width n = some bs := by
  unfold count
  cases BigEndian.unsigned? width n <;> simp only [reduceCtorEq, Except.ok.injEq, Option.some.injEq]

/-- A signed number is written exactly if it fits. -/
theorem number_eq_ok {width : Nat} {i : Int} :
    number width i = .ok bs ↔ BigEndian.signed? width i = some bs := by
  unfold number
  cases BigEndian.signed? width i <;> simp only [reduceCtorEq, Except.ok.injEq, Option.some.injEq]

/-- A natural number is read back from its field. -/
theorem run_natural {width n : Nat} (written : count width n = .ok bs) (x : Extent)
    (rest : Octets) : (natural x width).run (bs ++ rest) = .ok (n, rest) := by
  have fits := count_eq_ok.mp written
  have width' := BigEndian.length_of_unsigned? fits
  unfold natural
  rw [← width', run_bind_of_ok (run_field x bs rest), BigEndian.value_of_unsigned? fits]
  rfl

/-- An integer is read back from its field. -/
theorem run_integer {width : Nat} {i : Int} (wide : 0 < width) (written : number width i = .ok bs)
    (x : Extent) (rest : Octets) : (integer x width).run (bs ++ rest) = .ok (i, rest) := by
  have fits := number_eq_ok.mp written
  have width' := BigEndian.length_of_signed? fits
  unfold integer
  rw [← width', run_bind_of_ok (run_field x bs rest), BigEndian.signedValue_of_signed? wide fits]
  rfl

/-- An octet of a small number is read as that number. -/
theorem run_natural_octet (x : Extent) (b : UInt8) (rest : Octets) :
    (natural x 1).run (b :: rest) = .ok (b.toNat, rest) := by
  unfold natural
  rw [show b :: rest = [b] ++ rest from rfl, show 1 = [b].length from rfl,
    run_bind_of_ok (run_field x [b] rest)]
  simp only [BigEndian.value, List.foldl_cons, List.foldl_nil, Nat.zero_mul, Nat.zero_add]
  rfl

/-- What is read back one by one is read back as a whole. -/
theorem run_times_of_each {step : Decode α} {items : List α} {pieces : List Octets}
    (each : List.Forall₂ (fun a piece => ∀ rest, step.run (piece ++ rest) = .ok (a, rest)) items
      pieces) (rest : Octets) :
    (times step items.length).run (pieces.flatten ++ rest) = .ok (items, rest) := by
  induction each with
  | nil => rfl
  | @cons a piece items pieces first _ ih =>
    rw [List.length_cons, times, List.flatten_cons, List.append_assoc, run_bind_of_ok (first _),
      run_bind_of_ok ih]
    rfl

/-- Four fields of four octets are found again at their places. -/
theorem four_fields {a b c e : Octets} (first : a.length = 4) (second : b.length = 4)
    (third : c.length = 4) (fourth : e.length = 4) :
    ((a ++ b ++ c ++ e).drop (4 * 0)).take 4 = a ∧ ((a ++ b ++ c ++ e).drop (4 * 1)).take 4 = b ∧
      ((a ++ b ++ c ++ e).drop (4 * 2)).take 4 = c ∧
      ((a ++ b ++ c ++ e).drop (4 * 3)).take 4 = e := by
  refine ⟨?_, ?_, ?_, ?_⟩
  · rw [← first]
    simp
  · rw [List.append_assoc, List.append_assoc, List.drop_left' (by omega), List.take_left' second]
  · rw [List.append_assoc, List.drop_left' (by simp; omega), List.take_left' third]
  · rw [List.drop_left' (by simp; omega), ← fourth, List.take_length]

/-- Sixteen octets are four ids. -/
theorem exists_four_fields {ids : Octets} (sixteen : ids.length = 16) : ∃ a b c e,
    ids = a ++ b ++ c ++ e ∧ a.length = 4 ∧ b.length = 4 ∧ c.length = 4 ∧ e.length = 4 := by
  refine ⟨ids.take 4, (ids.drop 4).take 4, (ids.drop 8).take 4, ids.drop 12, ?_, ?_, ?_, ?_, ?_⟩
  · have last := List.take_append_drop 4 (ids.drop 8)
    have middle := List.take_append_drop 4 (ids.drop 4)
    rw [List.drop_drop] at last middle
    rw [List.append_assoc, last, List.append_assoc, middle, List.take_append_drop]
  all_goals simp [sixteen]

/-- A text is read back, with its length in front. -/
theorem run_text {s : String} (written : encodeText s = .ok bs) (x : Extent) (rest : Octets) :
    (text x).run (bs ++ rest) = .ok (s, rest) := by
  obtain ⟨size, counted, made⟩ := Result.bind_eq_ok.mp written
  cases made
  unfold text
  rw [List.append_assoc, run_bind_of_ok (run_natural counted x _),
    run_bind_of_ok (run_take x _ rest), Utf8.decode_encode]
  rfl

end Metadata

end ModelForge
