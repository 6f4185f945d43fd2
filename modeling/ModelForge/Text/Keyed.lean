/-!
# Lists ascending by a key

Items with distinct text keys are kept in the ascending order of the keys, so that the list depends
on the items alone and not on the order they arrived in.
-/

namespace ModelForge

namespace Keyed

variable {α : Type} {key : α → String} {a b : α} {items : List α}

/-- Puts an item in front of the first one with a greater key. -/
def insert (key : α → String) (a : α) : List α → List α
  | [] => [a]
  | b :: rest => if key a < key b then a :: b :: rest else b :: insert key a rest

/-- The item with a key. -/
def find? (key : α → String) (name : String) (items : List α) : Option α :=
  items.find? fun a => key a == name

/-- A list is ascending if every key is less than those behind it. -/
abbrev Ascending (key : α → String) (items : List α) : Prop :=
  items.Pairwise fun a b => key a < key b

/-- An insertion adds one item. -/
@[simp]
theorem mem_insert : b ∈ insert key a items ↔ b = a ∨ b ∈ items := by
  induction items with
  | nil => simp [insert]
  | cons first rest ih =>
    unfold insert
    split
    · simp
    · simp only [List.mem_cons, ih]
      exact or_left_comm

/-- What is found has the name that was looked for. -/
theorem find?_eq_some (found : find? key name items = some a) : a ∈ items ∧ key a = name :=
  ⟨List.mem_of_find?_eq_some found, by simpa using List.find?_some found⟩

/-- Nothing is found if no item has the name. -/
theorem find?_eq_none : find? key name items = none ↔ ∀ a ∈ items, key a ≠ name := by
  simp [find?]

/-- A fresh item is inserted in order. -/
theorem ascending_insert (ascending : Ascending key items)
    (fresh : find? key (key a) items = none) : Ascending key (insert key a items) := by
  rw [find?_eq_none] at fresh
  induction items with
  | nil => simp [insert]
  | cons first rest ih =>
    obtain ⟨below, tail⟩ := List.pairwise_cons.1 ascending
    unfold insert
    split
    · next less =>
      refine List.pairwise_cons.2 ⟨fun c hc => ?_, ascending⟩
      rcases List.mem_cons.1 hc with rfl | hc
      · exact less
      · exact String.lt_trans less (below c hc)
    · next notLess =>
      refine List.pairwise_cons.2 ⟨fun c hc => ?_, ih tail fun c hc =>
        fresh c (List.mem_cons_of_mem _ hc)⟩
      rcases mem_insert.1 hc with rfl | hc
      · rcases Std.lt_trichotomy (key c) (key first) with less | same | more
        · exact absurd less notLess
        · exact absurd same.symm (fresh first List.mem_cons_self)
        · exact more
      · exact below c hc

/-- In an ascending list the key settles the item. -/
theorem eq_of_key_eq (ascending : Ascending key items) (ha : a ∈ items) (hb : b ∈ items)
    (same : key a = key b) : a = b := by
  induction items with
  | nil => cases ha
  | cons first rest ih =>
    obtain ⟨below, tail⟩ := List.pairwise_cons.1 ascending
    rcases List.mem_cons.1 ha with headA | inA <;> rcases List.mem_cons.1 hb with headB | inB
    · rw [headA, headB]
    · have less := below b inB
      rw [← headA, same] at less
      exact absurd less (String.lt_irrefl _)
    · have less := below a inA
      rw [← headB, same] at less
      exact absurd less (String.lt_irrefl _)
    · exact ih tail inA inB

/-- Items in order are found by their keys. -/
theorem find?_of_mem (ascending : Ascending key items) (ha : a ∈ items) :
    find? key (key a) items = some a := by
  cases found : find? key (key a) items with
  | none => exact absurd rfl (find?_eq_none.1 found a ha)
  | some b =>
    obtain ⟨hb, same⟩ := find?_eq_some found
    rw [eq_of_key_eq ascending hb ha same]

end Keyed

end ModelForge
