import Mathlib.Data.List.Perm.Basic
import ModelForge.Text.Keyed

/-! # Orders of items with keys

A list that ascends by a key is settled by its items (`ModelForge.Keyed.eq_of_perm`), and sorting by
the key brings any order of them back to it (`ModelForge.Keyed.mergeSort_of_perm`). So an ascending
list of names is settled by which names it holds (`ModelForge.Names.eq_of_mem`).
-/

namespace ModelForge

namespace Keyed

variable {α : Type} {key : α → String} {items others : List α}

/-- Inserting adds one item. -/
theorem perm_insert (key : α → String) (a : α) (items : List α) :
    (insert key a items).Perm (a :: items) := by
  induction items with
  | nil => exact .refl _
  | cons first rest ih =>
    unfold insert
    split
    · exact .refl _
    · exact (ih.cons first).trans (.swap a first rest)

/-- Ascending lists of the same items are the same. -/
theorem eq_of_perm (ascending : Ascending key items) (ascending' : Ascending key others)
    (same : items.Perm others) : items = others := by
  refine List.Perm.eq_of_pairwise (fun a b _ _ less more => ?_) ascending ascending' same
  exact absurd (String.lt_trans less more) (String.lt_irrefl _)

/-- Sorted items have different keys. -/
theorem nodup_keys (ascending : Ascending key items) : (items.map key).Nodup := by
  refine List.pairwise_map.mpr (ascending.imp fun less same => ?_)
  rw [same] at less
  exact String.lt_irrefl _ less

/-- Sorting gives items by their keys. -/
theorem pairwise_mergeSort (key : α → String) (items : List α) :
    (items.mergeSort fun a b => decide (key a ≤ key b)).Pairwise
      fun a b => decide (key a ≤ key b) = true := by
  refine List.pairwise_mergeSort (fun a b c first second => ?_) (fun a b => ?_) items
  · rw [decide_eq_true_eq] at first second ⊢
    exact String.le_trans first second
  · rw [Bool.or_eq_true, decide_eq_true_eq, decide_eq_true_eq]
    exact String.le_total _ _

/-- Sorting by distinct keys makes a list ascending. -/
theorem ascending_mergeSort (distinct : (items.map key).Nodup) :
    Ascending key (items.mergeSort fun a b => decide (key a ≤ key b)) := by
  have sorted := List.mergeSort_perm items fun a b => decide (key a ≤ key b)
  have differ := (sorted.map key).nodup_iff.mpr distinct
  refine (pairwise_mergeSort key items).imp₂ (fun a b below differs => ?_)
    (List.pairwise_map.mp differ)
  exact Std.lt_of_le_of_ne (of_decide_eq_true below) differs

/-- Sorting by distinct keys restores the ascending order. -/
theorem mergeSort_of_perm (ascending : Ascending key items) (same : others.Perm items) :
    (others.mergeSort fun a b => decide (key a ≤ key b)) = items := by
  have sorted := pairwise_mergeSort key others
  have sorted' : items.Pairwise fun a b => decide (key a ≤ key b) = true :=
    ascending.imp fun less => decide_eq_true (Std.le_of_lt less)
  refine List.Perm.eq_of_pairwise ?_ sorted sorted' ((List.mergeSort_perm others _).trans same)
  intro a b inside member below above
  have known := same.mem_iff.mp ((List.mergeSort_perm others _).mem_iff.mp inside)
  rw [decide_eq_true_eq] at below above
  exact eq_of_key_eq ascending known member (String.le_antisymm below above)

/-- Items grouped by different labels are the items that have one of these labels. -/
theorem perm_flatMap_filter (label : α → String) (items : List α) {names : List String}
    (distinct : names.Nodup) :
    (names.flatMap fun n => items.filter fun a => label a == n).Perm
      (items.filter fun a => names.contains (label a)) := by
  induction names with
  | nil => simp
  | cons n names ih =>
    obtain ⟨new, distinct⟩ := List.nodup_cons.mp distinct
    have split := List.filter_append_perm (fun a => label a == n)
      (items.filter fun a => (n :: names).contains (label a))
    rw [List.filter_filter, List.filter_filter] at split
    -- `split` parts the items labelled `n` from those with another one of the labels
    rw [List.flatMap_cons]
    refine ((ih distinct).append_left _).trans (.trans (.of_eq ?_) split)
    congr 1
    · refine List.filter_congr fun a _ => ?_
      rw [List.contains_cons]
      cases label a == n <;> rfl
    · refine List.filter_congr fun a _ => ?_
      rw [List.contains_cons]
      by_cases same : label a = n
      · have absent : names.contains n = false := by
          rw [Bool.eq_false_iff]
          exact fun known => new (List.contains_iff_mem.mp known)
        rw [same, absent, beq_self_eq_true]
        rfl
      · rw [beq_eq_false_iff_ne.mpr same]
        rfl

end Keyed

namespace Names

variable {names others : List String}

theorem nodup_of_ascending (ascending : names.Pairwise (· < ·)) : names.Nodup := by
  have keyed : Keyed.Ascending id names := ascending
  simpa using Keyed.nodup_keys keyed

/-- A strictly ascending list is settled by its members. -/
theorem eq_of_mem (ascending : names.Pairwise (· < ·)) (ascending' : others.Pairwise (· < ·))
    (same : ∀ name, name ∈ names ↔ name ∈ others) : names = others := by
  have keyed {given : List String} (above : given.Pairwise (· < ·)) : Keyed.Ascending id given :=
    above
  exact Keyed.eq_of_perm (keyed ascending) (keyed ascending') ((List.perm_ext_iff_of_nodup
    (nodup_of_ascending ascending) (nodup_of_ascending ascending')).mpr same)

end Names

end ModelForge
